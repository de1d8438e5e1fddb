import StatementGate.Json.Basic

/-! # Records in JSON

Records with named fields, written as objects or as arrays of the fields in order. A known field
may occur once only. -/

namespace StatementGate

/-- What a missing field means. A nullable field reads as null in an object; an array, which gives
the fields in order, may end early only where defaults follow. -/
inductive Presence where
  | required | nullable | defaulted
  deriving DecidableEq

structure RecordShape where
  fields : List (String × Presence)
  allowsUnknown : Bool

namespace RecordShape

def names (shape : RecordShape) : List String := shape.fields.map Prod.fst

def fromMembers (shape : RecordShape) (members : List (String × Json)) :
    Option (List (String × Json)) :=
  let known := members.filter fun member => shape.names.contains member.1
  let repeated := shape.names.any fun name => decide (1 < (known.filter (·.1 == name)).length)
  if repeated || (!shape.allowsUnknown && known.length < members.length) then none
  else
    let missing := shape.fields.filter fun field => !(known.any (·.1 == field.1))
    if missing.any (·.2 == .required) then none
    else some (known ++ (missing.filter (·.2 == .nullable)).map fun field => (field.1, .null))

private def fromItems (shape : RecordShape) (items : List Json) : Option (List (String × Json)) :=
  if shape.fields.length < items.length then none
  else if (shape.fields.drop items.length).any (·.2 != .defaulted) then none
  else some (shape.names.zip items)

/-- The fields a value gives, without those left to their defaults. -/
def read? (shape : RecordShape) : Json → Option Json
  | .object members => (shape.fromMembers members).map .object
  | .array items => (shape.fromItems items).map .object
  | _ => none

end RecordShape

namespace Json

/-- A field of a record, or the default where it is missing. -/
def field? (record : Json) (name : String) (read : Json → Option α) (default : α) : Option α :=
  match record.get? name with
  | none => some default
  | some j => read j

/-- A field of a record that has to be there. -/
def need? (record : Json) (name : String) (read : Json → Option α) : Option α :=
  record.get? name >>= read

end Json

end StatementGate
