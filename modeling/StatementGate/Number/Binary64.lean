/-! # Binary64

IEEE-754 double precision values as their 64 bits, with exact rounding of integers and decimal
fractions in natural-number arithmetic. -/

namespace StatementGate

/-- Two values are equal when their bits are: `0.0` and `-0.0` differ, a NaN equals itself. -/
structure Binary64 where
  bits : UInt64
  deriving DecidableEq, Inhabited

namespace Binary64

/-- The weight of the sign bit, `2 ^ 63`. -/
def signWeight : Nat := 9223372036854775808

/-- The weight of the leading bit that a normal value does not store, `2 ^ 52`. -/
def hiddenWeight : Nat := 4503599627370496

def isNegative (x : Binary64) : Bool := decide (signWeight ≤ x.bits.toNat)

def biasedExponent (x : Binary64) : Nat := x.bits.toNat / hiddenWeight % 2048

def fraction (x : Binary64) : Nat := x.bits.toNat % hiddenWeight

def isFinite (x : Binary64) : Bool := x.biasedExponent != 2047

def isNaN (x : Binary64) : Bool := x.biasedExponent == 2047 && x.fraction != 0

/-- A finite value is `± significand * 2 ^ binaryExponent`. -/
def significand (x : Binary64) : Nat :=
  if x.biasedExponent = 0 then x.fraction else x.fraction + hiddenWeight

def binaryExponent (x : Binary64) : Int := (max x.biasedExponent 1 : Nat) - 1075

def ofMagnitude (negative : Bool) (magnitude : Nat) : Binary64 :=
  ⟨UInt64.ofNat (magnitude + if negative then signWeight else 0)⟩

def zero (negative : Bool) : Binary64 := ofMagnitude negative 0

def infinity (negative : Bool) : Binary64 := ofMagnitude negative (2047 * hiddenWeight)

def nan (negative : Bool) : Binary64 := ofMagnitude negative (2047 * hiddenWeight + hiddenWeight / 2)

/-- `num / den` to the nearest integer, a half to the even neighbour. -/
def roundHalfEven (num den : Nat) : Nat :=
  let q := num / den
  let r := num % den
  if 2 * r < den ∨ 2 * r = den ∧ q % 2 = 0 then q else q + 1

/-- The quotient `num / den * 2 ^ (-e)` as a pair of naturals. -/
def scaleBinary (num den : Nat) (e : Int) : Nat × Nat :=
  if 0 ≤ e then (num, den * Nat.pow 2 e.toNat) else (num * Nat.pow 2 (-e).toNat, den)

/-- The binary exponent at which the significand of `num / den` is rounded. -/
def roundingExponent (num den : Nat) : Int :=
  let guess : Int := (Nat.log2 num : Int) - Nat.log2 den - 52
  let scaled := scaleBinary num den guess
  max (if scaled.1 < scaled.2 * hiddenWeight then guess - 1 else guess) (-1074)

/-- The magnitude nearest to `num / den`, ties to even. Adding the scaled exponent to the rounded
significand carries a significand that rounds up to `2 ^ 53`. -/
def roundedMagnitude (num den : Nat) : Nat :=
  let e := roundingExponent num den
  let scaled := scaleBinary num den e
  (e + 1074).toNat * hiddenWeight + roundHalfEven scaled.1 scaled.2

/-- The value nearest to `num / den`; `none` when it overflows. -/
def ofRatio? (negative : Bool) (num den : Nat) : Option Binary64 :=
  if num = 0 then some (zero negative)
  else
    let magnitude := roundedMagnitude num den
    if magnitude < 2047 * hiddenWeight then some (ofMagnitude negative magnitude) else none

/-- The value nearest to `digits * 10 ^ exponent`. Beyond 400 places before or behind the point
the answer is known without forming the power. -/
def ofDecimal? (negative : Bool) (digits : Nat) (exponent : Int) : Option Binary64 :=
  if digits = 0 then some (zero negative) else
  let places : Int := (Nat.toDigits 10 digits).length + exponent
  if places < -400 then some (zero negative)
  else if places > 400 then none
  else if 0 ≤ exponent then ofRatio? negative (digits * Nat.pow 10 exponent.toNat) 1
  else ofRatio? negative digits (Nat.pow 10 (-exponent).toNat)

/-- The value nearest to an integer of at most 64 bits; larger ones saturate at infinity. -/
def ofInt (i : Int) : Binary64 :=
  (ofRatio? (decide (i < 0)) i.natAbs 1).getD (infinity (decide (i < 0)))

end Binary64

end StatementGate
