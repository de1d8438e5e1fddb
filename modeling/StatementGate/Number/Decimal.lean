/-! # Decimals

Decimal numbers `digits * 10 ^ (-scale)` with arbitrary digits and a 64-bit scale, never
normalized, and their text. Positional text is used near the point; values far below it are
written `1.2E-8`, values far above it as all digits with a power, `100e+16`. -/

namespace StatementGate

/-- Equality is of the representation: `1.0` and `1.00` differ. -/
structure Decimal where
  digits : Int
  scale : Int64
  deriving DecidableEq, Inhabited

inductive DecimalError where
  | emptyText
  | emptyInteger
  | invalidDigit
  | tooLarge
  | tooSmall
  | exponentOverflow (text : String)
  deriving DecidableEq

namespace DecimalError

def message : DecimalError → String
  | .emptyText => "Failed to parse empty string"
  | .emptyInteger => "cannot parse integer from empty string"
  | .invalidDigit => "invalid digit found in string"
  | .tooLarge => "number too large to fit in target type"
  | .tooSmall => "number too small to fit in target type"
  | .exponentOverflow text => s!"Exponent overflow when parsing '{text}'"

end DecimalError

namespace Decimal

def digitValue (c : Char) : Nat := c.toNat - 48

/-- Reads digits behind an accumulator; the first character that is no digit, or the first digit
that passes `limit`, decides the error. -/
def boundedDigits (limit : Nat) (overflow : DecimalError) :
    List Char → Nat → Except DecimalError Nat
  | [], n => .ok n
  | c :: rest, n =>
    if !c.isDigit then .error .invalidDigit
    else
      let next := n * 10 + digitValue c
      if next > limit then .error overflow else boundedDigits limit overflow rest next

/-- An exponent of 128 bits: at most one sign, then digits. -/
def readExponent (s : List Char) : Except DecimalError Int :=
  match s with
  | [] => .error .emptyInteger
  | ['+'] | ['-'] => .error .invalidDigit
  | '-' :: ds => do pure (-((← boundedDigits (Nat.pow 2 127) .tooSmall ds 0) : Int))
  | '+' :: ds => do pure ((← boundedDigits (Nat.pow 2 127 - 1) .tooLarge ds 0) : Int)
  | ds => do pure ((← boundedDigits (Nat.pow 2 127 - 1) .tooLarge ds 0) : Int)

def magnitudeDigits : List Char → Nat → Except DecimalError Nat
  | [], n => .ok n
  | c :: rest, n =>
    if c = '_' then magnitudeDigits rest n
    else if c.isDigit then magnitudeDigits rest (n * 10 + digitValue c)
    else .error .invalidDigit

/-- Digits that may be separated by underscores, behind at most one `+`. -/
def readMagnitude (s : List Char) : Except DecimalError Nat :=
  let s := match s with
    | '+' :: '+' :: _ => s
    | '+' :: rest => rest
    | s => s
  match s with
  | [] => .error .emptyInteger
  | '_' :: _ => .error .invalidDigit
  | s => magnitudeDigits s 0

def readInteger (s : List Char) : Except DecimalError Int :=
  match s with
  | '-' :: '+' :: _ => do pure ((← readMagnitude s) : Int)
  | '-' :: rest => do pure (-((← readMagnitude rest) : Int))
  | s => do pure ((← readMagnitude s) : Int)

def isExponentMark (c : Char) : Bool := c == 'e' || c == 'E'

/-- The least 64-bit scale. -/
def minScale : Int := -9223372036854775808

/-- The greatest 64-bit scale. -/
def maxScale : Int := 9223372036854775807

/-- Reads a decimal text; the scale keeps the zeros at its end. -/
def parse (text : String) : Except DecimalError Decimal := do
  let chars := text.toList
  let base := chars.takeWhile (!isExponentMark ·)
  let exponent ← match chars.dropWhile (!isExponentMark ·) with
    | [] => pure 0
    | _ :: exponent => readExponent exponent
  if base.isEmpty then throw .emptyText
  let decimals := (base.dropWhile (· != '.')).drop 1
  let scale : Int := (decimals.filter (· != '_')).length - exponent
  if scale < minScale ∨ maxScale < scale then throw (.exponentOverflow text)
  let digits ← readInteger (base.takeWhile (· != '.') ++ decimals)
  pure ⟨digits, Int64.ofInt scale⟩

/-- More zeros than this behind the point are not written out. -/
def maxLeadingZeros : Int := 5

/-- More zeros than this before the point are not written out. -/
def maxTrailingZeros : Int := 15

def renderMagnitude (ds : List Char) (scale : Int) : List Char :=
  let n : Int := ds.length
  if maxLeadingZeros < scale - n ∧ 0 < scale then
    let mantissa := match ds with
      | d :: e :: rest => d :: '.' :: e :: rest
      | ds => ds
    mantissa ++ ['E', '-'] ++ Nat.toDigits 10 (scale - n + 1).toNat
  else if scale < -maxTrailingZeros then ds ++ ['e', '+'] ++ Nat.toDigits 10 (-scale).toNat
  else if scale ≤ 0 then ds ++ List.replicate (-scale).toNat '0'
  else if n ≤ scale then '0' :: '.' :: List.replicate (scale - n).toNat '0' ++ ds
  else ds.take (n - scale).toNat ++ '.' :: ds.drop (n - scale).toNat

/-- Zero is written `0` whatever its scale. -/
def render (d : Decimal) : String :=
  if d.digits = 0 then "0"
  else
    let magnitude := renderMagnitude (Nat.toDigits 10 d.digits.natAbs) d.scale.toInt
    String.ofList (if d.digits < 0 then '-' :: magnitude else magnitude)

end Decimal

end StatementGate
