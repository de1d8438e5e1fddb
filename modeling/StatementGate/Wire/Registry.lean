import StatementGate.Descriptor.Parser
import StatementGate.Wire.Value

/-! # Registered types

Record types by namespace and name, each with its fields in declaration order and an optional check
of the finished record. A draft collects the fields of one type and keeps the first error until the
type is registered. -/

namespace StatementGate

structure FieldSchema where
  name : String
  descriptor : Descriptor
  required : Bool
  deriving DecidableEq

/-- Accepts a record or says why not. -/
abbrev ConstructCheck := Record → Except String Unit

structure TypeSchema where
  type : TypeName
  fields : List FieldSchema
  construct : Option ConstructCheck

def TypeSchema.requiredFields (schema : TypeSchema) : List FieldSchema :=
  schema.fields.filter (·.required)

inductive RegistryError where
  | duplicate (type : TypeName)
  | duplicateField (typeName field : String)
  | descriptor (typeName field : String) (cause : DescriptorError)
  | unresolved (type : TypeName) (referencedBy : String)
  deriving DecidableEq

namespace RegistryError

def message : RegistryError → String
  | .duplicate type => s!"type {type.render} is already registered"
  | .duplicateField typeName field => s!"field {field} is declared twice on {typeName}"
  | .descriptor typeName field cause =>
    s!"field {field} on {typeName} has an invalid descriptor: {cause.message}"
  | .unresolved type referencedBy =>
    s!"type {type.render} referenced by {referencedBy} is not registered"

end RegistryError

/-- Schemas by namespace, then by name. -/
structure Registry where
  spaces : KeyMap (KeyMap TypeSchema)

namespace Registry

def empty : Registry := ⟨KeyMap.empty⟩

instance : Inhabited Registry := ⟨empty⟩

/-- What a call that registers a type answers, and the registry that it leaves behind. -/
structure Reply where
  result : Except RegistryError Unit
  registry : Registry

/-- The registry of a call that succeeded, with its error told otherwise. -/
def Reply.mapError {ε : Type} (reply : Reply) (tell : RegistryError → ε) : Except ε Registry :=
  match reply.result with
  | .ok () => .ok reply.registry
  | .error e => .error (tell e)

def lookup (registry : Registry) (type : TypeName) : Option TypeSchema := do
  (← registry.spaces.get? type.space).get? type.name

def register (registry : Registry) (schema : TypeSchema) : Reply :=
  let names := (registry.spaces.get? schema.type.space).getD KeyMap.empty
  if names.contains schema.type.name then ⟨.error (.duplicate schema.type), registry⟩
  else
    ⟨.ok (), ⟨registry.spaces.insert schema.type.space (names.insert schema.type.name schema)⟩⟩

/-- All schemas, by namespace and name in key order. -/
def schemas (registry : Registry) : List TypeSchema :=
  registry.spaces.values.flatMap KeyMap.values

def size (registry : Registry) : Nat := registry.schemas.length

def namespaces (registry : Registry) : List String := registry.spaces.keys

def checkName (registry : Registry) (owner : String) (type : TypeName) :
    Except RegistryError Unit :=
  if (registry.lookup type).isSome then .ok () else .error (.unresolved type owner)

/-- Every named type in the field of a schema has to be registered. -/
def validate (registry : Registry) : Except RegistryError Unit :=
  registry.schemas.forM fun schema => schema.fields.forM fun field =>
    field.descriptor.names.forM (checkName registry schema.type.name)

end Registry

structure SchemaDraft where
  schema : TypeSchema
  error : Option RegistryError

namespace SchemaDraft

def begin (type : TypeName) : SchemaDraft := ⟨⟨type, [], none⟩, none⟩

/-- Adds a field; after the first error the rest is ignored. -/
def field (draft : SchemaDraft) (name text : String) (required : Bool) : SchemaDraft :=
  match draft.error with
  | some _ => draft
  | none =>
    let schema := draft.schema
    if schema.fields.any (·.name == name) then
      { draft with error := some (.duplicateField schema.type.name name) }
    else
      match Descriptor.parse text schema.type.space with
      | .ok descriptor =>
        let fields := schema.fields ++ [⟨name, descriptor, required⟩]
        { draft with schema := { schema with fields := fields } }
      | .error cause =>
        { draft with error := some (.descriptor schema.type.name name cause) }

def required (draft : SchemaDraft) (name text : String) : SchemaDraft := draft.field name text true

def optional (draft : SchemaDraft) (name text : String) : SchemaDraft := draft.field name text false

def construct (draft : SchemaDraft) (check : ConstructCheck) : SchemaDraft :=
  { draft with schema := { draft.schema with construct := some check } }

def finish (draft : SchemaDraft) (registry : Registry) : Registry.Reply :=
  match draft.error with
  | some error => ⟨.error error, registry⟩
  | none => registry.register draft.schema

end SchemaDraft

end StatementGate
