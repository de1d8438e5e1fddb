import StatementGate.Number.Binary64
import StatementGate.Query.Scalar

/-! # Cells

The values that tables hold. A column has no type: every cell keeps the kind it was given. -/

namespace StatementGate.Store

/-- Text is kept as bytes, which need not be well-formed. -/
inductive Cell where
  | null
  | integer (value : Int64)
  | real (value : Binary64)
  | text (bytes : List UInt8)
  | blob (bytes : List UInt8)
  deriving DecidableEq

namespace Cell

def ofText (s : String) : Cell := .text s.toUTF8.toList

/-- The cell that a parameter is bound as; a textual value without a text as null. -/
def ofScalar : Scalar → Cell
  | .null => .null
  | .bool b => .integer (if b then 1 else 0)
  | .int i => .integer i
  | .float x => .real x
  | .text s => ofText s
  | v =>
    match v.textForm with
    | some s => ofText s
    | none => .null

/-- What a statement sees of a cell: no number is null. -/
def seen : Cell → Cell
  | .real x => if x.isNaN then .null else .real x
  | cell => cell

/-- Whether a finite value is the given integer. -/
def realIsInteger (x : Binary64) (i : Int) : Bool :=
  x.isFinite && (x.isNegative == decide (i < 0) || (i == 0 && x.significand == 0)) &&
    (if 0 ≤ x.binaryExponent then x.significand * Nat.pow 2 x.binaryExponent.toNat == i.natAbs
      else x.significand == i.natAbs * Nat.pow 2 (-x.binaryExponent).toNat)

def sameReal (x y : Binary64) : Bool :=
  x == y || (x.isFinite && y.isFinite && x.significand == 0 && y.significand == 0)

/-- Whether two cells compare equal; null equals nothing. -/
def equals : Cell → Cell → Bool
  | .integer a, .integer b => a == b
  | .integer a, .real x | .real x, .integer a => realIsInteger x a.toInt
  | .real x, .real y => sameReal x y
  | .text a, .text b => a == b
  | .blob a, .blob b => a == b
  | _, _ => false

end Cell

end StatementGate.Store
