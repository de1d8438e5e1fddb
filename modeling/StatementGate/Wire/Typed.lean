import StatementGate.Wire.Codec

/-! # Typed views of wire values

A conversion reads values as a type and writes them back. Conversions compose: `option` takes
null, `field` takes absence, and `list` reports the index of the first item that does not fit. -/

namespace StatementGate

open CodecError (invalid)

/-- A field that may have been left out. -/
inductive Field (α : Type) where
  | absent
  | present (value : α)
  deriving DecidableEq

def Field.isAbsent : Field α → Bool
  | .absent => true
  | .present _ => false

def Field.toOption : Field α → Option α
  | .absent => none
  | .present a => some a

structure Conversion (α : Type) where
  read : Value → Except CodecError α
  write : α → Value

/-- The error of meeting another kind of value. -/
def kindError (expected : String) (found : Value) : CodecError :=
  invalid Path.root (.mismatch expected found.kind)

/-- Moves the place of an error below `place`. -/
def CodecError.below (place : String) : CodecError → CodecError
  | .invalid path problem => .invalid (place ++ Path.relative path) problem
  | error => error

namespace Conversion

def string : Conversion String where
  read
    | .string s => .ok s
    | v => .error (kindError "str" v)
  write := .string

def integer : Conversion Int64 where
  read
    | .integer i => .ok i
    | v => .error (kindError "int" v)
  write := .integer

/-- Integers are widened. -/
def float : Conversion Binary64 where
  read
    | .float x => .ok x
    | .integer i => .ok (Binary64.ofInt i.toInt)
    | v => .error (kindError "float" v)
  write := .float

def boolean : Conversion Bool where
  read
    | .bool b => .ok b
    | v => .error (kindError "bool" v)
  write := .bool

def decimal : Conversion Decimal where
  read
    | .decimal d => .ok d
    | v => .error (kindError "Decimal" v)
  write := .decimal

def dateTime : Conversion DateTime where
  read
    | .dateTime t => .ok t
    | v => .error (kindError "datetime" v)
  write := .dateTime

def date : Conversion Date where
  read
    | .date d => .ok d
    | v => .error (kindError "date" v)
  write := .date

def value : Conversion Value where
  read := .ok
  write := id

def option (c : Conversion α) : Conversion (Option α) where
  read
    | .null => .ok none
    | v => (c.read v).map some
  write
    | none => .null
    | some a => c.write a

def field (c : Conversion α) : Conversion (Field α) where
  read
    | .absent => .ok .absent
    | v => (c.read v).map .present
  write
    | .absent => .absent
    | .present a => c.write a

def readItems (c : Conversion α) : List Value → (index : Nat) → Except CodecError (List α)
  | [], _ => .ok []
  | v :: rest, index =>
    match c.read v with
    | .error error => .error (error.below (Path.item "" index))
    | .ok a => (readItems c rest (index + 1)).map (a :: ·)

def list (c : Conversion α) : Conversion (List α) where
  read
    | .list items => c.readItems items 0
    | v => .error (kindError "list" v)
  write items := .list (items.map c.write)

end Conversion

/-- The types built from the scalars and whole values by `option`, `list` and `field`. -/
inductive Target where
  | string | integer | float | boolean | decimal | dateTime | date | value
  | option (inner : Target)
  | list (item : Target)
  | field (inner : Target)
  deriving DecidableEq

namespace Target

def Carrier : Target → Type
  | .string => String
  | .integer => Int64
  | .float => Binary64
  | .boolean => Bool
  | .decimal => Decimal
  | .dateTime => DateTime
  | .date => Date
  | .value => Value
  | .option inner => Option inner.Carrier
  | .list item => List item.Carrier
  | .field inner => Field inner.Carrier

def conversion : (t : Target) → Conversion t.Carrier
  | .string => .string
  | .integer => .integer
  | .float => .float
  | .boolean => .boolean
  | .decimal => .decimal
  | .dateTime => .dateTime
  | .date => .date
  | .value => .value
  | .option inner => inner.conversion.option
  | .list item => item.conversion.list
  | .field inner => inner.conversion.field

end Target

namespace Record

/-- Removes a field and reads it; a missing field reads as absent. -/
def take (r : Record) (c : Conversion α) (field : String) : Except CodecError α × Record :=
  let v := (r.get? field).getD .absent
  let result := match c.read v with
    | .ok a => .ok a
    | .error error => .error (error.below (r.type.name ++ "." ++ field))
  (result, r.erase field)

def putAs (r : Record) (c : Conversion α) (field : String) (a : α) : Record :=
  r.put field (c.write a)

end Record

/-- The value as a record of the given type. -/
def Value.toRecord (v : Value) (type : TypeName) : Except CodecError Record :=
  match v with
  | .record found fields =>
    if found = type then .ok ⟨found, fields⟩
    else .error (invalid Path.root (.mismatch type.render found.render))
  | v => .error (kindError type.render v)

end StatementGate
