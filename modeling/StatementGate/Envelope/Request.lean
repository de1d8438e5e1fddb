import StatementGate.Json.Record
import StatementGate.Query.Statement

/-! # Execution requests

A statement with its parameters, the database it is meant for, and what an operator is told about a
write. -/

namespace StatementGate

/-- Why a write is wanted, and the affected entities in words. -/
structure ApprovalContext where
  reason : String
  entityDescriptions : KeyMap String
  deriving DecidableEq

namespace ApprovalContext

def ofReason (reason : String) : ApprovalContext := ⟨reason, KeyMap.empty⟩

def describe (c : ApprovalContext) (key description : String) : ApprovalContext :=
  { c with entityDescriptions := c.entityDescriptions.insert key description }

def descriptionsJson (c : ApprovalContext) : Json :=
  .object (c.entityDescriptions.map Json.string).entries

def encode (c : ApprovalContext) : Json :=
  .object [("entityDescriptions", c.descriptionsJson), ("reason", .string c.reason)]

/-- The JSON that identifies the context in the audit trail. -/
def digestForm (c : ApprovalContext) : Json :=
  .object [("entity_descriptions", c.descriptionsJson), ("reason", .string c.reason)]

def shape : RecordShape :=
  ⟨[("reason", .required), ("entityDescriptions", .defaulted)], false⟩

def decode? (j : Json) : Option ApprovalContext := do
  let record ← shape.read? j
  let reason ← record.need? "reason" Json.string?
  let descriptions ← record.field? "entityDescriptions" (Json.keyMap? Json.string?) KeyMap.empty
  pure ⟨reason, descriptions⟩

end ApprovalContext

structure ExecuteRequest where
  sql : String
  parameters : Parameters
  databaseId : String
  writeIntent : Bool
  approvalContext : Option ApprovalContext
  entityType : Option String
  deriving DecidableEq

namespace ExecuteRequest

def ofQuery (q : SerializedQuery) (databaseId : String) (context : Option ApprovalContext) :
    ExecuteRequest :=
  ⟨q.sql, q.parameters, databaseId, q.writeIntent, context, some q.entity⟩

def parameterNames (r : ExecuteRequest) : List String := r.parameters.keys

def optionalMember (key : String) : Option Json → List (String × Json)
  | none => []
  | some j => [(key, j)]

def encode (r : ExecuteRequest) : Except ScalarError Json := do
  let parameters ← r.parameters.encode
  pure (.object (optionalMember "approvalContext" (r.approvalContext.map ApprovalContext.encode) ++
    [("databaseId", .string r.databaseId)] ++
    optionalMember "entityType" (r.entityType.map .string) ++
    [("parameters", parameters), ("sqlText", .string r.sql),
      ("writeIntent", .bool r.writeIntent)]))

def shape : RecordShape :=
  ⟨[("sqlText", .required), ("parameters", .defaulted), ("databaseId", .required),
    ("writeIntent", .defaulted), ("approvalContext", .defaulted), ("entityType", .defaulted)], false⟩

def decode? (j : Json) : Option ExecuteRequest := do
  let record ← shape.read? j
  let sql ← record.need? "sqlText" Json.string?
  let parameters ← record.field? "parameters" (Json.keyMap? Scalar.decode?) KeyMap.empty
  let databaseId ← record.need? "databaseId" Json.string?
  let writeIntent ← record.field? "writeIntent" Json.bool? false
  let context ← record.field? "approvalContext" (Json.optional? ApprovalContext.decode?) none
  let entityType ← record.field? "entityType" (Json.optional? Json.string?) none
  pure ⟨sql, parameters, databaseId, writeIntent, context, entityType⟩

end ExecuteRequest

end StatementGate
