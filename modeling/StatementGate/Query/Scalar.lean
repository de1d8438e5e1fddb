import StatementGate.Wire.Codec

/-! # Scalars

The values a statement takes as parameters, and their JSON. Decimals and temporal values travel as
text, so they come back as text. -/

namespace StatementGate

inductive Scalar where
  | null
  | bool (value : Bool)
  | int (value : Int64)
  | float (value : Binary64)
  | text (value : String)
  | decimal (value : Decimal)
  | timestamp (value : DateTime)
  | date (value : Date)
  deriving DecidableEq, Inhabited

inductive ScalarError where
  | notFinite
  | temporalOutOfRange
  deriving DecidableEq

namespace ScalarError

def message : ScalarError → String
  | .notFinite => "non-finite float parameter"
  | .temporalOutOfRange => "temporal value out of range"

end ScalarError

namespace Scalar

def kind : Scalar → String
  | .null => "null"
  | .bool _ => "bool"
  | .int _ => "int"
  | .float _ => "float"
  | .text _ => "text"
  | .decimal _ => "decimal"
  | .timestamp _ => "timestamp"
  | .date _ => "date"

def isNull : Scalar → Bool
  | .null => true
  | _ => false

/-- The text of a textual scalar; a moment that RFC 3339 has no room for has none. -/
def textForm : Scalar → Option String
  | .text s => some s
  | .decimal d => some d.render
  | .timestamp t => t.render.toOption
  | .date d => some d.render
  | _ => none

def encode : Scalar → Except ScalarError Json
  | .null => .ok .null
  | .bool b => .ok (.bool b)
  | .int i => .ok (.int i.toInt)
  | .float x => if x.isFinite then .ok (.number (.float x)) else .error .notFinite
  | .text s => .ok (.string s)
  | .decimal d => .ok (.string d.render)
  | .timestamp t =>
    match t.render with
    | .ok s => .ok (.string s)
    | .error _ => .error .temporalOutOfRange
  | .date d => .ok (.string d.render)

def decode? : Json → Option Scalar
  | .null => some .null
  | .bool b => some (.bool b)
  | .number (.int i) => if fitsInt64 i then some (.int (Int64.ofInt i)) else none
  | .number (.float x) => some (.float x)
  | .string s => some (.text s)
  | .array _ | .object _ => none

end Scalar

/-- Parameter values by name. -/
abbrev Parameters := KeyMap Scalar

/-- The JSON object of the parameters; the first value that has no JSON decides the error. -/
def Parameters.encode (parameters : Parameters) : Except ScalarError Json := do
  let members ← parameters.entries.mapM fun (name, value) => do pure (name, ← value.encode)
  pure (.object members)

end StatementGate
