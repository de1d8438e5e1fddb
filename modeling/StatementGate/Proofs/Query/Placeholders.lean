import StatementGate.Proofs.Lookup
import StatementGate.Query.Statement

/-! # Placeholders

What a reader of a statement's text takes for placeholders, and the pieces whose text shows one
placeholder for each of their values and no other. No colon comes from anything but a value, and
no word follows a value directly, so no text can introduce or extend a placeholder. -/

namespace StatementGate

/-- The name after each colon, as long as name characters go on. -/
def placeholders : List Char → List String
  | [] => []
  | c :: rest =>
    if c = ':' then String.ofList (rest.takeWhile Ascii.isNamePart) :: placeholders rest
    else placeholders rest

theorem placeholders_append {text : List Char} (h : ':' ∉ text) (rest : List Char) :
    placeholders (text ++ rest) = placeholders rest := by
  induction text with
  | nil => rfl
  | cons c text ih =>
    rw [List.mem_cons, not_or] at h
    rw [List.cons_append, placeholders, if_neg (Ne.symm h.1), ih h.2]

theorem colon_not_mem_of_name {name : List Char} (h : ∀ c ∈ name, Ascii.isNamePart c = true) :
    ':' ∉ name := fun hmem => absurd (h ':' hmem) (by decide)

/-- A name that is not followed by a name character is read as it stands. -/
theorem placeholders_name {name rest : List Char} (h : ∀ c ∈ name, Ascii.isNamePart c = true)
    (hrest : rest.takeWhile Ascii.isNamePart = []) :
    placeholders (':' :: (name ++ rest)) = String.ofList name :: placeholders rest := by
  rw [placeholders, if_pos rfl, List.takeWhile_append_of_pos h, hrest, List.append_nil,
    placeholders_append (colon_not_mem_of_name h)]

namespace Piece

theorem toList_parameterName (i : Nat) :
    (parameterName i).toList = 'p' :: Nat.toDigits 10 i := by
  simp [parameterName, Nat.toString_eq_repr]

theorem parameterName_injective {i j : Nat} (h : parameterName i = parameterName j) : i = j := by
  have hlist := congrArg String.toList h
  rw [toList_parameterName, toList_parameterName, List.cons_inj_right] at hlist
  have hdigits := congrArg (Nat.ofDigitChars 10 · 0) hlist
  simpa using hdigits

theorem isNamePart_parameterName {i : Nat} {c : Char} (h : c ∈ (parameterName i).toList) :
    Ascii.isNamePart c = true := by
  rw [toList_parameterName] at h
  rcases List.mem_cons.1 h with rfl | h
  · decide
  · have hdigit := Nat.isDigit_of_mem_toDigits (by decide) (by decide) h
    simp [Ascii.isNamePart, Char.isAlphanum, hdigit]

/-- Text that neither starts like a name nor holds a colon. -/
def isPunctuation (s : String) : Bool :=
  match s.toList with
  | [] => false
  | c :: rest => !Ascii.isNamePart c && !(c :: rest).contains ':'

def startsWithWord : Pieces → Bool
  | .word _ :: _ => true
  | _ => false

theorem startsWithWord_append_of_ne_nil {ps : Pieces} (hne : ps ≠ [])
    (hps : startsWithWord ps = false) (qs : Pieces) : startsWithWord (ps ++ qs) = false := by
  cases ps with
  | nil => exact absurd rfl hne
  | cons p ps =>
    cases p with
    | word => cases hps
    | _ => rfl

theorem startsWithWord_append {ps qs : Pieces} (hps : startsWithWord ps = false)
    (hqs : startsWithWord qs = false) : startsWithWord (ps ++ qs) = false := by
  by_cases hne : ps = []
  · subst hne
    exact hqs
  · exact startsWithWord_append_of_ne_nil hne hps qs

/-- Pieces that bind the given values from left to right. -/
inductive Renders : Pieces → List Scalar → Prop where
  | nil : Renders [] []
  | word {s : String} {ps : Pieces} {vs : List Scalar} :
    ':' ∉ s.toList → Renders ps vs → Renders (.word s :: ps) vs
  | symbol {s : String} {ps : Pieces} {vs : List Scalar} :
    isPunctuation s = true → Renders ps vs → Renders (.symbol s :: ps) vs
  | space {ps : Pieces} {vs : List Scalar} : Renders ps vs → Renders (.space :: ps) vs
  | bind {v : Scalar} {ps : Pieces} {vs : List Scalar} :
    startsWithWord ps = false → Renders ps vs → Renders (.bind v :: ps) (v :: vs)

namespace Renders

variable {ps qs : Pieces} {vs ws : List Scalar}

theorem values_eq (h : Renders ps vs) : values ps = vs := by
  induction h with
  | nil => rfl
  | word _ _ ih => exact ih
  | symbol _ _ ih => exact ih
  | space _ ih => exact ih
  | bind _ _ ih => exact congrArg _ ih

theorem takeWhile_textFrom (h : Renders ps vs) (hstart : startsWithWord ps = false) (next : Nat) :
    (textFrom next ps).toList.takeWhile Ascii.isNamePart = [] := by
  cases h with
  | nil => rfl
  | word hs hps => cases hstart
  | @symbol s ps vs hs hps =>
    rw [textFrom, String.toList_append]
    simp only [isPunctuation] at hs
    split at hs
    · cases hs
    · rename_i c rest heq
      rw [heq, List.cons_append, List.takeWhile_cons, if_neg]
      intro hc
      simp [hc] at hs
  | space hps =>
    rw [textFrom, String.toList_append]
    rfl
  | bind hps =>
    rw [textFrom, String.toList_append, String.toList_append]
    rfl

/-- The placeholders of the text are the numbered ones, one for each value. -/
theorem placeholders_textFrom (h : Renders ps vs) (next : Nat) :
    placeholders (textFrom next ps).toList =
      (List.range' next vs.length).map parameterName := by
  induction h generalizing next with
  | nil => rfl
  | word hs _ ih => rw [textFrom, String.toList_append, placeholders_append hs, ih]
  | @symbol s ps vs hs _ ih =>
    have hcolon : ':' ∉ s.toList := by
      simp only [isPunctuation] at hs
      split at hs
      · cases hs
      · rename_i c rest heq
        rw [heq]
        simpa using (Bool.and_eq_true_iff.1 hs).2
    rw [textFrom, String.toList_append, placeholders_append hcolon, ih]
  | space _ ih =>
    rw [textFrom, String.toList_append, placeholders_append (by decide), ih]
  | @bind v ps vs hstart hps ih =>
    have hname : ∀ c ∈ (parameterName next).toList, Ascii.isNamePart c = true :=
      fun _ hc => isNamePart_parameterName hc
    rw [textFrom, String.toList_append, String.toList_append]
    rw [show ":".toList = [':'] from rfl, List.append_assoc, List.singleton_append,
      placeholders_name hname (hps.takeWhile_textFrom hstart _), String.ofList_toList, ih,
      List.length_cons, List.range'_succ, List.map_cons]

theorem append (h : Renders ps vs) (h' : Renders qs ws) (hstart : startsWithWord qs = false) :
    Renders (ps ++ qs) (vs ++ ws) := by
  induction h with
  | nil => exact h'
  | word hs _ ih => exact .word hs ih
  | symbol hs _ ih => exact .symbol hs ih
  | space _ ih => exact .space ih
  | bind hps _ ih => exact .bind (startsWithWord_append hps hstart) ih

theorem parenthesized (h : Renders ps vs) : Renders (Piece.parenthesized ps) vs := by
  have hclose : Renders [.symbol ")"] [] := .symbol (by decide) .nil
  have := h.append hclose rfl
  rw [List.append_nil] at this
  exact .symbol (by decide) this

/-- Words with spaces between them may stand before anything. -/
theorem words_append {texts : List String} (htexts : ∀ s ∈ texts, ':' ∉ s.toList)
    (h : Renders ps vs) : Renders (words texts ++ ps) vs := by
  induction texts with
  | nil => exact h
  | cons s texts ih =>
    rw [List.forall_mem_cons] at htexts
    cases texts with
    | nil => exact .word htexts.1 h
    | cons s' texts =>
      exact .word htexts.1 (.space (ih htexts.2))

theorem phrase_append {texts : List String} (htexts : ∀ s ∈ texts, ':' ∉ s.toList)
    (h : Renders ps vs) : Renders (phrase texts ++ ps) vs := by
  simp only [phrase]
  rw [List.cons_append, List.cons_append, List.append_assoc]
  exact .space (words_append htexts (.space h))

end Renders

/-- Parts that bind the given values one after the other. -/
inductive RendersAll : List Pieces → List Scalar → Prop where
  | nil : RendersAll [] []
  | cons {ps : Pieces} {vs ws : List Scalar} {parts : List Pieces} :
    Renders ps vs → RendersAll parts ws → RendersAll (ps :: parts) (vs ++ ws)

theorem RendersAll.of_forall {parts : List Pieces} (h : ∀ part ∈ parts, Renders part []) :
    RendersAll parts [] := by
  induction parts with
  | nil => exact .nil
  | cons part parts ih =>
    rw [List.forall_mem_cons] at h
    exact .cons h.1 (ih h.2)

/-- Pieces without values that may stand between any two parts. -/
def Separates (separator : Pieces) : Prop :=
  startsWithWord separator = false ∧ separator ≠ [] ∧
    ∀ ps vs, Renders ps vs → Renders (separator ++ ps) vs

theorem separates_comma : Separates comma :=
  ⟨rfl, by simp [comma], fun _ _ h => .symbol (by decide) (.space h)⟩

theorem separates_phrase {texts : List String} (htexts : ∀ s ∈ texts, ':' ∉ s.toList) :
    Separates (phrase texts) :=
  ⟨rfl, by simp [phrase], fun _ _ h => h.phrase_append htexts⟩

theorem RendersAll.separated {separator : Pieces} (hseparator : Separates separator)
    {parts : List Pieces} {vs : List Scalar} (h : RendersAll parts vs) :
    Renders (Piece.separated separator parts) vs := by
  obtain ⟨hstart, hne, hbefore⟩ := hseparator
  induction h with
  | nil => exact .nil
  | @cons ps vs ws parts hps hparts ih =>
    cases parts with
    | nil =>
      cases hparts
      rw [List.append_nil]
      exact hps
    | cons part parts =>
      rw [Piece.separated, List.append_assoc]
      · exact hps.append (hbefore _ _ ih) (startsWithWord_append_of_ne_nil hne hstart _)
      · simp

end Piece

end StatementGate
