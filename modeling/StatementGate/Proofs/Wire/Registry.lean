import StatementGate.Proofs.Lookup
import StatementGate.Proofs.Outcome
import StatementGate.Wire.Registry

/-! # Registered types

What a registry finds before and after a registration, which types a descriptor leads to through the
fields of registered types, and when validation finds every type that a field names. -/

namespace StatementGate

namespace Descriptor

/-- The type is named somewhere in the descriptor. -/
inductive Mentions : Descriptor → TypeName → Prop
  | named (type : TypeName) : Mentions (.named type) type
  | optional {inner : Descriptor} {type : TypeName} (h : Mentions inner type) :
      Mentions (.optional inner) type
  | list {item : Descriptor} {type : TypeName} (h : Mentions item type) : Mentions (.list item) type
  | union {alternatives : List Descriptor} {d : Descriptor} {type : TypeName}
      (hmem : d ∈ alternatives) (h : Mentions d type) : Mentions (.union alternatives) type

mutual

theorem mentions_of_mem_names {type : TypeName} :
    (d : Descriptor) → type ∈ d.names → d.Mentions type
  | .scalar _, h => by simp [names] at h
  | .optional inner, h => .optional (mentions_of_mem_names inner h)
  | .list item, h => .list (mentions_of_mem_names item h)
  | .union alternatives, h => by
    obtain ⟨d, hmem, hd⟩ := exists_mentions_of_mem_namesOfAll alternatives h
    exact .union hmem hd
  | .named type', h => by
    rw [names, List.mem_singleton] at h
    exact h ▸ .named type

theorem exists_mentions_of_mem_namesOfAll {type : TypeName} :
    (ds : List Descriptor) → type ∈ namesOfAll ds → ∃ d ∈ ds, d.Mentions type
  | [], h => by simp [namesOfAll] at h
  | d :: rest, h => by
    rw [namesOfAll, List.mem_append] at h
    rcases h with h | h
    · exact ⟨d, List.mem_cons_self, mentions_of_mem_names d h⟩
    · obtain ⟨d', hmem, hd'⟩ := exists_mentions_of_mem_namesOfAll rest h
      exact ⟨d', List.mem_cons_of_mem d hmem, hd'⟩

end

theorem names_subset_namesOfAll {d : Descriptor} {ds : List Descriptor} (hmem : d ∈ ds) :
    d.names ⊆ namesOfAll ds := by
  induction ds with
  | nil => cases hmem
  | cons d' rest ih =>
    rw [namesOfAll]
    rcases List.mem_cons.1 hmem with rfl | hmem
    · exact List.subset_append_left _ _
    · exact List.subset_append_of_subset_right _ (ih hmem)

theorem mem_names_iff {d : Descriptor} {type : TypeName} : type ∈ d.names ↔ d.Mentions type := by
  refine ⟨mentions_of_mem_names d, fun h => ?_⟩
  induction h with
  | named type => exact List.mem_singleton.2 rfl
  | optional _ ih => exact ih
  | list _ ih => exact ih
  | union hmem _ ih => exact names_subset_namesOfAll hmem ih

end Descriptor

theorem TypeName.eq_of_parts {a b : TypeName} (hspace : a.space = b.space) (hname : a.name = b.name) :
    a = b := by
  cases a
  cases b
  cases hspace
  cases hname
  rfl

namespace Registry

variable {R R' : Registry}

theorem mem_schemas_iff {schema : TypeSchema} :
    schema ∈ R.schemas ↔ ∃ type, R.lookup type = some schema := by
  simp only [schemas, List.mem_flatMap, KeyMap.mem_values_iff]
  constructor
  · rintro ⟨names, ⟨space, hspace⟩, name, hname⟩
    exact ⟨⟨space, name⟩, Option.bind_eq_some_iff.2 ⟨names, hspace, hname⟩⟩
  · rintro ⟨type, h⟩
    obtain ⟨names, hspace, hname⟩ := Option.bind_eq_some_iff.1 h
    exact ⟨names, ⟨type.space, hspace⟩, type.name, hname⟩

/-- The types that the fields of registered types name are registered themselves. -/
def Complete (R : Registry) : Prop :=
  ∀ owner schema field type, R.lookup owner = some schema → field ∈ schema.fields →
    field.descriptor.Mentions type → (R.lookup type).isSome

theorem checkName_eq_ok {owner : String} {type : TypeName} :
    R.checkName owner type = .ok () ↔ (R.lookup type).isSome := by
  rw [checkName]
  by_cases h : (R.lookup type).isSome
  · simp [h]
  · simp [h]

/-- Validation succeeds exactly on registries in which no type is missing. -/
theorem validate_eq_ok : R.validate = .ok () ↔ R.Complete := by
  simp only [validate, forM_eq_ok, checkName_eq_ok, mem_schemas_iff, Descriptor.mem_names_iff]
  constructor
  · intro h owner schema field type hlookup hfield hmentions
    exact h schema ⟨owner, hlookup⟩ field hfield type hmentions
  · rintro h schema ⟨owner, hlookup⟩ field hfield type hmentions
    exact h owner schema field type hlookup hfield hmentions

/-- The types that a descriptor leads to: those it names, and those that their fields lead to. -/
inductive Reaches (R : Registry) : Descriptor → TypeName → Prop
  | named (type : TypeName) : Reaches R (.named type) type
  | optional {inner : Descriptor} {type : TypeName} (h : Reaches R inner type) :
      Reaches R (.optional inner) type
  | list {item : Descriptor} {type : TypeName} (h : Reaches R item type) :
      Reaches R (.list item) type
  | union {alternatives : List Descriptor} {d : Descriptor} {type : TypeName}
      (hmem : d ∈ alternatives) (h : Reaches R d type) : Reaches R (.union alternatives) type
  | field {owner type : TypeName} {schema : TypeSchema} {field : FieldSchema}
      (hlookup : R.lookup owner = some schema) (hfield : field ∈ schema.fields)
      (h : Reaches R field.descriptor type) : Reaches R (.named owner) type

/-- In a complete registry, a descriptor of registered types leads to registered types only. -/
theorem Complete.isSome_of_reaches (hcomplete : R.Complete) {d : Descriptor} {type : TypeName}
    (hd : ∀ type, d.Mentions type → (R.lookup type).isSome) (h : R.Reaches d type) :
    (R.lookup type).isSome := by
  induction h with
  | named type => exact hd type (.named type)
  | optional _ ih => exact ih fun type h => hd type (.optional h)
  | list _ ih => exact ih fun type h => hd type (.list h)
  | union hmem _ ih => exact ih fun type h => hd type (.union hmem h)
  | field hlookup hfield _ ih =>
    exact ih fun type h => hcomplete _ _ _ type hlookup hfield h

/-- The registry with one more schema. -/
def add (R : Registry) (schema : TypeSchema) : Registry :=
  ⟨R.spaces.insert schema.type.space
    (((R.spaces.get? schema.type.space).getD .empty).insert schema.type.name schema)⟩

theorem lookup_eq (R : Registry) (type : TypeName) :
    R.lookup type = ((R.spaces.get? type.space).getD .empty).get? type.name := by
  rw [lookup]
  cases R.spaces.get? type.space <;> rfl

theorem lookup_add (R : Registry) (schema : TypeSchema) (type : TypeName) :
    (R.add schema).lookup type = if type = schema.type then some schema else R.lookup type := by
  rw [lookup_eq, lookup_eq, add]
  by_cases hspace : type.space = schema.type.space
  · by_cases hname : type.name = schema.type.name
    · have htype : type = schema.type := TypeName.eq_of_parts hspace hname
      simp only [htype, KeyMap.get?_insert_self, Option.getD_some, if_true]
    · have htype : type ≠ schema.type := fun heq => hname (heq ▸ rfl)
      simp only [if_neg htype, hspace, KeyMap.get?_insert_self, Option.getD_some,
        KeyMap.get?_insert_ne hname]
  · have htype : type ≠ schema.type := fun heq => hspace (heq ▸ rfl)
    rw [if_neg htype, KeyMap.get?_insert_ne hspace]

/-- A taken name is refused, and the registry stays; under a free one the schema is added. -/
theorem register_eq (R : Registry) (schema : TypeSchema) :
    R.register schema =
      if (R.lookup schema.type).isSome then ⟨.error (.duplicate schema.type), R⟩
      else ⟨.ok (), R.add schema⟩ := by
  rw [lookup_eq]
  rfl

theorem register_of_free {schema : TypeSchema} (hfree : R.lookup schema.type = none) :
    R.register schema = ⟨.ok (), R.add schema⟩ := by
  rw [register_eq, hfree]
  rfl

theorem register_of_taken {schema : TypeSchema} (htaken : (R.lookup schema.type).isSome) :
    R.register schema = ⟨.error (.duplicate schema.type), R⟩ := by
  rw [register_eq, if_pos htaken]

theorem lookup_eq_none_of_register {schema : TypeSchema}
    (h : (R.register schema).result = .ok ()) : R.lookup schema.type = none := by
  cases htaken : R.lookup schema.type with
  | none => rfl
  | some found =>
    rw [register_of_taken (htaken ▸ rfl)] at h
    cases h

/-- What further registrations make of a registry. -/
inductive Extends (R : Registry) : Registry → Prop
  | refl : Extends R R
  | register {R' : Registry} {schema : TypeSchema} (h : Extends R R')
      (hregister : (R'.register schema).result = .ok ()) :
      Extends R (R'.register schema).registry

/-- Registered types stay as they are. -/
theorem Extends.lookup_eq (h : R.Extends R') {type : TypeName} {schema : TypeSchema}
    (hlookup : R.lookup type = some schema) : R'.lookup type = some schema := by
  induction h with
  | refl => exact hlookup
  | @register R' added _ hregister ih =>
    have hfree := lookup_eq_none_of_register hregister
    have hne : type ≠ added.type := by
      rintro rfl
      rw [hfree] at ih
      cases ih
    rw [register_of_free hfree, lookup_add, if_neg hne, ih]

end Registry

end StatementGate
