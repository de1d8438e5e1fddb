import StatementGate.Number.Binary64

/-! # Shortest decimals

The fewest significant digits that round back to a given binary64 value, and their layout as
text. The digits are found on decimal grids of growing fineness: the first grid with a point
inside the rounding interval of the value gives the answer, and of two points the nearer one. -/

namespace StatementGate

/-- `digits * 10 ^ exponent`. -/
structure DecimalDigits where
  digits : Nat
  exponent : Int
  deriving DecidableEq

namespace Shortest

/-- The interval of reals that round to `m * 2 ^ q`, in quarters of the unit `2 ^ q`; below a
power of two the lower half is narrower. The ends belong to it when `m` is even. -/
private def lowerQuarters (m : Nat) (q : Int) : Nat :=
  if m = Binary64.hiddenWeight ∧ q > -1074 then 4 * m - 1 else 4 * m - 2

private def upperQuarters (m : Nat) : Nat := 4 * m + 2

/-- Compares `d * 10 ^ k` with `n * 2 ^ b`. -/
def compareScaled (d : Nat) (k : Int) (n : Nat) (b : Int) : Ordering :=
  let left := d * Nat.pow 10 k.toNat * Nat.pow 2 (-b).toNat
  let right := n * Nat.pow 2 b.toNat * Nat.pow 10 (-k).toNat
  compare left right

private def inInterval (m : Nat) (q : Int) (d : Nat) (k : Int) : Bool :=
  let low := compareScaled d k (lowerQuarters m q) (q - 2)
  let high := compareScaled d k (upperQuarters m) (q - 2)
  match low, high with
  | .gt, .lt => true
  | .eq, _ | _, .eq => m % 2 == 0
  | _, _ => false

/-- `⌊m * 2 ^ q / 10 ^ k⌋` -/
private def floorOnGrid (m : Nat) (q k : Int) : Nat :=
  m * Nat.pow 2 q.toNat * Nat.pow 10 (-k).toNat /
    (Nat.pow 2 (-q).toNat * Nat.pow 10 k.toNat)

/-- The largest `p` with `10 ^ p ≤ m * 2 ^ q`, from an estimate that is at most one off. -/
private def decimalExponent (m : Nat) (q : Int) : Int :=
  let guess := ((Nat.log2 m : Int) + q) * 30103 / 100000
  if compareScaled 1 (guess + 1) m q != .gt then guess + 1
  else if compareScaled 1 guess m q == .gt then guess - 1
  else guess

/-- The nearer of the two grid neighbours, an exact tie to the even one. -/
private def nearer (m : Nat) (q : Int) (low : Nat) (k : Int) : Nat :=
  match compareScaled (2 * low + 1) k (2 * m) q with
  | .gt => low
  | .lt => low + 1
  | .eq => if low % 2 = 0 then low else low + 1

private def onGrid? (m : Nat) (q : Int) (k : Int) : Option Nat :=
  let low := floorOnGrid m q k
  match inInterval m q low k, inInterval m q (low + 1) k with
  | true, true => some (nearer m q low k)
  | true, false => some low
  | false, true => some (low + 1)
  | false, false => none

/-- Tries the grids `10 ^ k`, `10 ^ (k - 1)`, …; seventeen digits always suffice. -/
private def search (m : Nat) (q : Int) : Nat → Int → DecimalDigits
  | 0, k => ⟨floorOnGrid m q k, k⟩
  | n + 1, k =>
    match onGrid? m q k with
    | some d => ⟨d, k⟩
    | none => search m q n (k - 1)

private def dropZeros : Nat → Nat → Int → DecimalDigits
  | 0, d, k => ⟨d, k⟩
  | n + 1, d, k => if d ≠ 0 ∧ d % 10 = 0 then dropZeros n (d / 10) (k + 1) else ⟨d, k⟩

/-- The shortest digits of `m * 2 ^ q` for `0 < m`, without trailing zeros. -/
def digits (m : Nat) (q : Int) : DecimalDigits :=
  let found := search m q 17 (decimalExponent m q)
  dropZeros 18 found.digits found.exponent

end Shortest

/-- How a float is laid out: which decimal exponents are written positionally, whether a whole
number keeps a fraction of one zero, and whether zero keeps its sign. -/
structure FloatLayout where
  leastPositional : Int
  mostPositional : Int
  keepsFraction : Bool
  keepsZeroSign : Bool

namespace FloatLayout

/-- `d.ddd` with exponent `e`, always signed. -/
private def scientific (ds : List Char) (e : Int) : List Char :=
  let mantissa := match ds with
    | [] => []
    | [d] => [d]
    | d :: rest => d :: '.' :: rest
  mantissa ++ 'e' :: (if e < 0 then '-' else '+') :: Nat.toDigits 10 e.natAbs

/-- The digits `ds` with the point after the first `point` of them. -/
private def positional (layout : FloatLayout) (ds : List Char) (point : Int) : List Char :=
  if point ≤ 0 then '0' :: '.' :: List.replicate (-point).toNat '0' ++ ds
  else
    let whole := point.toNat
    let fraction := ds.drop whole
    ds.take whole ++ List.replicate (whole - ds.length) '0' ++
      (if fraction.isEmpty then (if layout.keepsFraction then ['.', '0'] else [])
        else '.' :: fraction)

/-- The text of a finite value. -/
def render (layout : FloatLayout) (x : Binary64) : String :=
  let unsigned :=
    if x.significand = 0 then if layout.keepsFraction then ['0', '.', '0'] else ['0']
    else
      let shortest := Shortest.digits x.significand x.binaryExponent
      let ds := Nat.toDigits 10 shortest.digits
      let e := shortest.exponent + ds.length - 1
      if layout.leastPositional ≤ e ∧ e ≤ layout.mostPositional then
        layout.positional ds (e + 1)
      else scientific ds e
  let signed := x.isNegative && (x.significand != 0 || layout.keepsZeroSign)
  String.ofList (if signed then '-' :: unsigned else unsigned)

end FloatLayout

end StatementGate
