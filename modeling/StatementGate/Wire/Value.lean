import StatementGate.Calendar.Text
import StatementGate.Descriptor.Token
import StatementGate.Descriptor.Basic
import StatementGate.Json.Printer
import StatementGate.Number.Decimal

/-! # Wire values

The values that cross the wire, apart from their JSON form: `null` is an explicit empty value,
`absent` a field that was left out. The fields of a record are in key order. -/

namespace StatementGate

inductive Value where
  | null
  | absent
  | bool (value : Bool)
  | integer (value : Int64)
  | float (value : Binary64)
  | string (value : String)
  | decimal (value : Decimal)
  | dateTime (value : DateTime)
  | date (value : Date)
  | list (items : List Value)
  | record (type : TypeName) (fields : List (String × Value))
  deriving Inhabited

/-- A value of a named type. -/
structure Record where
  type : TypeName
  fields : List (String × Value)
  deriving Inhabited

/-- Columns and their values, in key order. -/
abbrev Row := List (String × Value)

/-- The text that stands for an absent value where it cannot be left out. -/
def absentMark : String := "\x1fquery-relay:unset\x1f"

namespace Value

def ofRecord (r : Record) : Value := .record r.type r.fields

def isAbsent : Value → Bool
  | .absent => true
  | _ => false

/-- The name of a value's kind in messages. -/
def kind : Value → String
  | .null => "null"
  | .absent => "absent"
  | .bool _ => "bool"
  | .integer _ => "int"
  | .float _ => "float"
  | .string _ => "str"
  | .decimal _ => "Decimal"
  | .dateTime _ => "datetime"
  | .date _ => "date"
  | .list _ => "list"
  | .record _ _ => "struct"

end Value

namespace Record

def empty (type : TypeName) : Record := ⟨type, []⟩

def get? (r : Record) (field : String) : Option Value := r.fields.lookup field

def put (r : Record) (field : String) (value : Value) : Record :=
  { r with fields := Entries.put field value r.fields }

def erase (r : Record) (field : String) : Record :=
  { r with fields := Entries.erase field r.fields }

end Record

/-- Why a value does not fit. -/
inductive Problem where
  | mismatch (expected found : String)
  | notInteger (number : JsonNumber)
  | decimal (cause : DecimalError)
  | dateTime (cause : CalendarError)
  | date (cause : CalendarError)
  | notFinite
  | unformattable (cause : FormatError)
  | missing
  | refused (reason : String)
  | noAlternative (union : Descriptor) (reasons : List (Descriptor × Problem))

namespace Problem

mutual

def message : Problem → String
  | .mismatch expected found => s!"expected {expected}, found {found}"
  | .notInteger number => s!"{number.render .plain} is not an int"
  | .decimal cause => s!"invalid decimal: {cause.message}"
  | .dateTime cause => s!"invalid datetime: {cause.message}"
  | .date cause => s!"invalid date: {cause.message}"
  | .notFinite => "float is not finite"
  | .unformattable cause => s!"datetime: {cause.message}"
  | .missing => "required field missing"
  | .refused reason => reason
  | .noAlternative union reasons =>
    let listed := "; ".intercalate (reasonTexts reasons)
    s!"no alternative of {union.render} matched ({listed})"

def reasonTexts : List (Descriptor × Problem) → List String
  | [] => []
  | (alternative, problem) :: rest =>
    (alternative.render ++ ": " ++ message problem) :: reasonTexts rest

end

end Problem

inductive CodecError where
  | descriptor (cause : DescriptorError)
  | unregistered (type : TypeName)
  | invalid (path : String) (problem : Problem)

namespace CodecError

def message : CodecError → String
  | .descriptor cause => s!"type descriptor parse error: {cause.message}"
  | .unregistered type => s!"type {type.render} is not registered"
  | .invalid path problem => s!"validation error at {path}: {problem.message}"

end CodecError

-- Where a value stands, seen from the outermost one.
namespace Path

def root : String := "$"

def child (path key : String) : String := path ++ "." ++ key

def item (path : String) (index : Nat) : String := path ++ "[" ++ toString index ++ "]"

/-- The path without the mark of the root. -/
def relative (path : String) : String := String.ofList (path.toList.dropWhile (· == '$'))

end Path

end StatementGate
