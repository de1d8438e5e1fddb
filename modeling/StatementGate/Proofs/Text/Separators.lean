import Mathlib.Data.List.Infix

/-! # Texts with separators

Where a text ends is seen from the separator behind it, if the text has none in itself and no
separator begins inside another. -/

namespace StatementGate

/-- None of the separators occurs in the text. -/
def Lacks (separators : List String) (text : String) : Prop :=
  ∀ s ∈ separators, ¬s.toList <:+: text.toList

instance (separators : List String) (text : String) : Decidable (Lacks separators text) :=
  inferInstanceAs (Decidable (∀ s ∈ separators, _))

/-- A text ends here: with everything, or with one of the separators. -/
def Stops (separators : List String) (rest : List Char) : Prop :=
  rest = [] ∨ ∃ s ∈ separators, s.toList <+: rest

/-- No separator has behind its first character the first one of a separator. -/
def NoOverlap (separators : List String) : Prop :=
  ∀ s ∈ separators, ∀ s' ∈ separators, s'.toList.head? ∉ s.toList.tail.map some

instance (separators : List String) : Decidable (NoOverlap separators) :=
  inferInstanceAs (Decidable (∀ s ∈ separators, ∀ s' ∈ separators, _))

variable {separators : List String}

theorem Stops.mono {separators' : List String} {rest : List Char} (h : Stops separators rest)
    (hsub : separators ⊆ separators') : Stops separators' rest :=
  h.imp_right fun ⟨s, hs, hrest⟩ => ⟨s, hsub hs, hrest⟩

theorem stops_append {s : String} (rest : List Char) :
    Stops (s :: separators) (s.toList ++ rest) :=
  .inr ⟨s, List.mem_cons_self, List.prefix_append _ _⟩

theorem not_stops_append {s t : String} (hst : ¬s.toList <+: t.toList) (hts : ¬t.toList <+: s.toList)
    (rest : List Char) : ¬Stops [s] (t.toList ++ rest) := by
  rintro (hnil | ⟨_, hs, hprefix⟩)
  · rw [(List.append_eq_nil_iff.1 hnil).1] at hts
    exact hts List.nil_prefix
  · rw [List.mem_singleton.1 hs] at hprefix
    exact (List.prefix_or_prefix_of_prefix hprefix (List.prefix_append _ _)).elim hst hts

/-- A text without a separator does not go on behind a place where it could end. -/
theorem eq_nil_of_stops (hover : NoOverlap separators) {a x rest : List Char}
    (hlacks : ∀ s ∈ separators, ¬s.toList <:+: a ++ x) (hstops : Stops separators (x ++ rest))
    (hrest : Stops separators rest) : x = [] := by
  rcases hstops with hnil | ⟨s, hs, t, ht⟩
  · exact (List.append_eq_nil_iff.1 hnil).1
  · rcases List.append_eq_append_iff.1 ht with ⟨y, rfl, -⟩ | ⟨y, hsx, hrest'⟩
    · exact absurd ⟨a, y, by simp⟩ (hlacks s hs)
    · cases y with
      | nil =>
        rw [List.append_nil] at hsx
        exact absurd ⟨a, [], by simp [hsx]⟩ (hlacks s hs)
      | cons c y =>
        -- a separator that began before the rest would have the first character of the next inside
        by_contra hx
        obtain ⟨d, x, rfl⟩ := List.exists_cons_of_ne_nil hx
        rcases hrest with hnil | ⟨s', hs', t', ht'⟩
        · rw [hnil] at hrest'
          cases hrest'
        · cases hhead : s'.toList with
          | nil => exact hlacks s' hs' (by rw [hhead]; exact List.nil_infix)
          | cons c' s'' =>
            rw [hhead, hrest'] at ht'
            obtain rfl : c' = c := (List.cons.inj ht').1
            refine hover s hs s' hs' ?_
            rw [hhead, hsx, List.head?_cons]
            simp

/-- Texts without a separator, each before one or at the end, are determined by the whole. -/
theorem append_inj_of_lacks (hover : NoOverlap separators) {a a' : String} {rest rest' : List Char}
    (ha : Lacks separators a) (ha' : Lacks separators a') (hrest : Stops separators rest)
    (hrest' : Stops separators rest') (h : a.toList ++ rest = a'.toList ++ rest') :
    a = a' ∧ rest = rest' := by
  rcases List.append_eq_append_iff.1 h with ⟨x, hx, rfl⟩ | ⟨x, hx, rfl⟩
  · have hnil : x = [] := eq_nil_of_stops hover (by rwa [← hx]) hrest hrest'
    rw [hnil, List.append_nil] at hx
    exact ⟨(String.toList_inj.1 hx).symm, by rw [hnil, List.nil_append]⟩
  · have hnil : x = [] := eq_nil_of_stops hover (by rwa [← hx]) hrest' hrest
    rw [hnil, List.append_nil] at hx
    exact ⟨String.toList_inj.1 hx, by rw [hnil, List.nil_append]⟩

/-- Texts that are told apart from each other: the same text, or two without a separator. -/
def Separable (separators : List String) (a a' : String) : Prop :=
  a = a' ∨ Lacks separators a ∧ Lacks separators a'

instance (separators : List String) (a a' : String) : Decidable (Separable separators a a') :=
  inferInstanceAs (Decidable (_ ∨ _))

theorem Separable.append_inj {a a' : String} (h : Separable separators a a')
    (hover : NoOverlap separators) {rest rest' : List Char} (hrest : Stops separators rest)
    (hrest' : Stops separators rest') (heq : a.toList ++ rest = a'.toList ++ rest') :
    a = a' ∧ rest = rest' := by
  rcases h with rfl | ⟨ha, ha'⟩
  · exact ⟨rfl, List.append_cancel_left heq⟩
  · exact append_inj_of_lacks hover ha ha' hrest hrest' heq

end StatementGate
