import StatementGate.Proofs.Calendar.Text
import StatementGate.Proofs.Wire.Same
import StatementGate.Wire.Codec

/-! # Conformance

Which values a descriptor describes, through the types of a registry that may refer to one another
and to themselves. Absence conforms on its own only where no record could leave it out. -/

namespace StatementGate

/-- A registry whose types have distinct fields and checks that look at the value of a decimal,
not at its representation. -/
structure Registry.Regular (R : Registry) : Prop where
  distinct : ∀ {type schema}, R.lookup type = some schema → (schema.fields.map (·.name)).Nodup
  check : ∀ {type schema check}, R.lookup type = some schema → schema.construct = some check →
    ∀ {r r' : Record}, (Value.ofRecord r).Same (.ofRecord r') → check r = .ok () → check r' = .ok ()

namespace Value

/-- A present value that a descriptor describes. A value fits a union at an alternative whose
predecessors all refuse its JSON. -/
inductive Fits (R : Registry) : Descriptor → Value → Prop
  | null : Fits R (.scalar .null) .null
  | bool (b : Bool) : Fits R (.scalar .boolean) (.bool b)
  | integer (i : Int64) : Fits R (.scalar .integer) (.integer i)
  | float {x : Binary64} (hfinite : x.isFinite = true) : Fits R (.scalar .float) (.float x)
  | string {s : String} (hmark : s ≠ absentMark) : Fits R (.scalar .string) (.string s)
  | decimal (d : Decimal) : Fits R (.scalar .decimal) (.decimal d)
  | dateTime {t : DateTime} (hyear : 0 ≤ t.date.year ∧ t.date.year ≤ 9999)
      (hday : t.offset.natAbs < 24 * 3600) (hminute : t.offset % 60 = 0) :
      Fits R (.scalar .dateTime) (.dateTime t)
  | date (d : Date) : Fits R (.scalar .date) (.date d)
  | optionalNull (inner : Descriptor) : Fits R (.optional inner) .null
  | optional {inner : Descriptor} {v : Value} (h : Fits R inner v) : Fits R (.optional inner) v
  | list {item : Descriptor} {items : List Value} (h : ∀ v ∈ items, v ≠ .absent → Fits R item v) :
      Fits R (.list item) (.list items)
  | record {type : TypeName} {schema : TypeSchema} {fields : List (String × Value)}
      (hlookup : R.lookup type = some schema) (hascending : Entries.Ascending fields)
      (hdeclared : ∀ key, key ∈ fields.map Prod.fst ↔ key ∈ schema.fields.map (·.name))
      (h : ∀ field ∈ schema.fields, ∀ v, (field.name, v) ∈ fields → v ≠ .absent →
        Fits R field.descriptor v)
      (hrequired : ∀ field ∈ schema.fields, field.required = true → (field.name, .absent) ∉ fields)
      (hcheck : ∀ check, schema.construct = some check → check ⟨type, fields⟩ = .ok ()) :
      Fits R (.named type) (.record type fields)
  | union {before after : List Descriptor} {d : Descriptor} {v : Value} {j : Json}
      (hencode : v.encode = .ok j)
      (hbefore : ∀ b ∈ before, ∃ path problem, decode R j b = .error (.invalid path problem))
      (h : Fits R d v) : Fits R (.union (before ++ d :: after)) v

/-- At the root, absence conforms to every descriptor. -/
def Conforms (R : Registry) (d : Descriptor) (v : Value) : Prop := v = .absent ∨ v.Fits R d

namespace Fits

theorem ne_absent {R : Registry} {d : Descriptor} {v : Value} (h : v.Fits R d) : v ≠ .absent := by
  induction h with
  | optional _ ih => exact ih
  | union _ _ _ ih => exact ih
  | _ => exact Value.noConfusion

theorem ne_mark {R : Registry} {d : Descriptor} {v : Value} (h : v.Fits R d) :
    v ≠ .string absentMark := by
  induction h with
  | string hmark =>
    intro heq
    cases heq
    exact hmark rfl
  | optional _ ih => exact ih
  | union _ _ _ ih => exact ih
  | _ => exact Value.noConfusion

end Fits

end Value

end StatementGate
