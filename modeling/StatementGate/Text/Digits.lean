/-! # Digits

Digits of the ASCII range in bases up to sixteen, and the numbers that they spell. -/

namespace StatementGate.Digits

/-- The value of a hexadecimal digit of either case. -/
def value? (c : Char) : Option Nat :=
  if c.isDigit then some (c.toNat - 48)
  else if 'a' ≤ c ∧ c ≤ 'f' then some (c.toNat - 87)
  else if 'A' ≤ c ∧ c ≤ 'F' then some (c.toNat - 55)
  else none

def isHex (c : Char) : Bool := (value? c).isSome

/-- The number that digits spell, the first being the highest. -/
def number (base : Nat) (digits : List Char) : Nat :=
  digits.foldl (fun n c => n * base + (value? c).getD 0) 0

end StatementGate.Digits
