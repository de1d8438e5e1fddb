import Mathlib.Algebra.Ring.Nat
import StatementGate.Calendar.Text
import StatementGate.Number.Decimal

/-! # Digit texts

Numbers written in decimal digits, padded or not, and the readers that give them back. -/

namespace StatementGate

theorem isDigit_of_mem_toDigits {n : Nat} {c : Char} (h : c ∈ Nat.toDigits 10 n) :
    c.isDigit = true :=
  Nat.isDigit_of_mem_toDigits (by decide) (by decide) h

theorem isDigit_of_mem_zeros {n : Nat} {c : Char} (h : c ∈ List.replicate n '0') :
    c.isDigit = true := by
  rw [List.eq_of_mem_replicate h]
  rfl

theorem ne_of_isDigit {c d : Char} (h : c.isDigit = true) (hd : d.isDigit = false) : c ≠ d := by
  rintro rfl
  rw [h] at hd
  cases hd

/-- A power of ten behind a number stands as zeros behind its digits. -/
theorem toDigits_mul_pow {n : Nat} (h : 0 < n) (k : Nat) :
    Nat.toDigits 10 (n * 10 ^ k) = Nat.toDigits 10 n ++ List.replicate k '0' := by
  induction k with
  | zero => simp
  | succ k ih =>
    have hpos : 0 < n * 10 ^ k := Nat.mul_pos h (Nat.pow_pos (by decide))
    have hnext : n * 10 ^ (k + 1) = 10 * (n * 10 ^ k) + 0 := by
      rw [Nat.pow_succ, ← Nat.mul_assoc, Nat.mul_comm, Nat.add_zero]
    rw [hnext, ← Nat.toDigits_append_toDigits (by decide) hpos (by decide), ih,
      List.replicate_succ', List.append_assoc]
    rfl

theorem Digits.number_eq {ds : List Char} (h : ∀ c ∈ ds, c.isDigit = true) :
    Digits.number 10 ds = Nat.ofDigitChars 10 ds 0 := by
  suffices ∀ n, ds.foldl (fun n c => n * 10 + (value? c).getD 0) n = Nat.ofDigitChars 10 ds n from
    this 0
  intro n
  induction ds generalizing n with
  | nil => rfl
  | cons c ds ih =>
    rw [List.forall_mem_cons] at h
    rw [List.foldl_cons, Nat.ofDigitChars_cons, ih h.2, Digits.value?, if_pos h.1, Nat.mul_comm]
    rfl

theorem isDigit_of_mem_paddedDigits {width n : Nat} {c : Char} (h : c ∈ paddedDigits width n) :
    c.isDigit = true := by
  rcases List.mem_append.1 h with h | h
  · exact isDigit_of_mem_zeros h
  · exact isDigit_of_mem_toDigits h

theorem length_paddedDigits {width n : Nat} (hwidth : 0 < width) (h : n < 10 ^ width) :
    (paddedDigits width n).length = width := by
  have hle := (Nat.length_toDigits_le_iff (n := n) (by decide : 1 < 10) hwidth).2 h
  simp only [paddedDigits]
  rw [List.length_append, List.length_replicate]
  omega

theorem ofDigitChars_paddedDigits (width n : Nat) :
    Nat.ofDigitChars 10 (paddedDigits width n) 0 = n := by
  simp only [paddedDigits]
  rw [Nat.ofDigitChars_append, Nat.ofDigitChars_replicate_zero, Nat.mul_zero,
    Nat.ofDigitChars_ten_toDigits]

theorem number_paddedDigits (width n : Nat) : Digits.number 10 (paddedDigits width n) = n := by
  rw [Digits.number_eq fun _ hc => isDigit_of_mem_paddedDigits hc, ofDigitChars_paddedDigits]

/-- Reading more digits never gives less. -/
theorem le_ofDigitChars (ds : List Char) (n : Nat) : n ≤ Nat.ofDigitChars 10 ds n := by
  rw [Nat.ofDigitChars_eq_ofDigitChars_zero]
  have := Nat.le_mul_of_pos_left n (Nat.pow_pos (n := ds.length) (by decide : 0 < 10))
  omega

end StatementGate
