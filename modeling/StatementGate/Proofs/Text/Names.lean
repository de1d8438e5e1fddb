import StatementGate.Text.Ascii
import StatementGate.Text.CharClass

/-! # Names

The characters of plain names. -/

namespace StatementGate

theorem Ascii.isNamePart_of_isNameStart {c : Char} (h : isNameStart c = true) :
    isNamePart c = true := by
  simp only [isNameStart, Bool.or_eq_true] at h
  simp only [isNamePart, Char.isAlphanum, Bool.or_eq_true]
  exact h.imp_left .inl

theorem isBlank_of_isNameStart {c : Char} (h : Ascii.isNameStart c = true) : isBlank c = false := by
  unfold Ascii.isNameStart Char.isAlpha Char.isUpper Char.isLower at h
  simp only [Bool.or_eq_true, Bool.and_eq_true, decide_eq_true_eq, beq_iff_eq, ge_iff_le,
    UInt32.le_iff_toNat_le] at h
  have hrange : 65 ≤ c.toNat ∧ c.toNat ≤ 122 := by
    change ((65 ≤ c.toNat ∧ c.toNat ≤ 90) ∨ (97 ≤ c.toNat ∧ c.toNat ≤ 122)) ∨ c = '_' at h
    rcases h with (h | h) | rfl
    · omega
    · omega
    · decide
  simp only [isBlank, CharClass.whiteSpace, CharClass.Ranges.covers, List.any_eq_false,
    List.forall_mem_cons, decide_eq_true_eq]
  refine ⟨?_, ?_, ?_, ?_, ?_, ?_, ?_, ?_, ?_, ?_, List.forall_mem_nil _⟩ <;> omega

theorem isNamePart_of_mem_plainName {name : List Char} (h : isPlainName name = true) {c : Char}
    (hc : c ∈ name) : Ascii.isNamePart c = true := by
  cases name with
  | nil => cases hc
  | cons first rest =>
    obtain ⟨hfirst, hrest⟩ := Bool.and_eq_true_iff.1 h
    rcases List.mem_cons.1 hc with rfl | hc
    · exact Ascii.isNamePart_of_isNameStart hfirst
    · exact List.all_eq_true.1 hrest c hc

theorem dot_not_mem_of_plainName {name : List Char} (h : isPlainName name = true) : '.' ∉ name :=
  fun hmem => absurd (isNamePart_of_mem_plainName h hmem) (by decide)

end StatementGate
