import Mathlib.Algebra.Order.Ring.Nat
import Mathlib.Data.Nat.Log
import StatementGate.Number.Binary64

/-! # Finite values

Integers of 64 bits, and those above them that still take one word, are far from overflowing. -/

namespace StatementGate.Binary64

theorem isFinite_ofMagnitude (negative : Bool) {magnitude : Nat}
    (h : magnitude < 2047 * hiddenWeight) : (ofMagnitude negative magnitude).isFinite = true := by
  have hbits : (ofMagnitude negative magnitude).bits.toNat =
      magnitude + if negative then signWeight else 0 := by
    apply UInt64.toNat_ofNat_of_lt'
    cases negative
    all_goals simp [hiddenWeight, signWeight, UInt64.size] at h ⊢
    all_goals omega
  rw [isFinite, biasedExponent, hbits]
  cases negative
  all_goals simp [hiddenWeight, signWeight] at h ⊢
  all_goals omega

theorem roundHalfEven_le (num den : Nat) : roundHalfEven num den ≤ num / den + 1 := by
  simp only [roundHalfEven]
  split
  · exact Nat.le_succ _
  · exact Nat.le_refl _

/-- A number of `bits` binary digits, scaled down to about 53 of them. -/
theorem scaleBinary_div_lt {num bits : Nat} (hnum : num < 2 ^ bits) {e : Int}
    (he : (bits : Int) - 54 ≤ e) :
    (scaleBinary num 1 e).1 / (scaleBinary num 1 e).2 < 2 ^ 54 := by
  rw [scaleBinary]
  by_cases hsign : 0 ≤ e
  · rw [if_pos hsign]
    dsimp only
    have hpow : 2 ^ bits ≤ 2 ^ 54 * 2 ^ e.toNat := by
      rw [← Nat.pow_add]
      exact Nat.pow_le_pow_right Nat.two_pos (by omega)
    rw [Nat.one_mul, Nat.pow_eq, Nat.div_lt_iff_lt_mul (Nat.two_pow_pos _)]
    exact hnum.trans_le hpow
  · rw [if_neg hsign]
    dsimp only
    have hpow : 2 ^ bits * 2 ^ (-e).toNat ≤ 2 ^ 54 := by
      rw [← Nat.pow_add]
      exact Nat.pow_le_pow_right Nat.two_pos (by omega)
    rw [Nat.div_one, Nat.pow_eq]
    exact (Nat.mul_lt_mul_of_pos_right hnum (Nat.two_pow_pos _)).trans_le hpow

theorem roundingExponent_range {num : Nat} (hnum : num < 2 ^ 64) :
    (num.log2 + 1 : Nat) - 54 ≤ roundingExponent num 1 ∧ roundingExponent num 1 ≤ 12 := by
  have hlog : num.log2 < 64 := by
    by_cases hzero : num = 0
    · subst hzero
      decide
    · exact (Nat.log2_lt hzero).2 hnum
  have hone : Nat.log2 1 = 0 := by decide
  rw [roundingExponent, hone]
  split
  all_goals omega

theorem roundedMagnitude_lt {num : Nat} (hnum : num < 2 ^ 64) :
    roundedMagnitude num 1 < 2047 * hiddenWeight := by
  obtain ⟨hlow, hhigh⟩ := roundingExponent_range hnum
  have hquotient := scaleBinary_div_lt Nat.lt_log2_self hlow
  have hround := roundHalfEven_le (scaleBinary num 1 (roundingExponent num 1)).1
    (scaleBinary num 1 (roundingExponent num 1)).2
  rw [roundedMagnitude, hiddenWeight]
  omega

/-- Integers of one word read as finite values. -/
theorem isFinite_ofInt {i : Int} (h : i.natAbs < 2 ^ 64) : (ofInt i).isFinite = true := by
  rw [ofInt, ofRatio?]
  by_cases hzero : i.natAbs = 0
  · rw [if_pos hzero]
    exact isFinite_ofMagnitude _ (by decide)
  · rw [if_neg hzero, if_pos (roundedMagnitude_lt h)]
    exact isFinite_ofMagnitude _ (roundedMagnitude_lt h)

end StatementGate.Binary64
