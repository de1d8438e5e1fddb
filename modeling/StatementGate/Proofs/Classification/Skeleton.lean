import Mathlib.Data.List.Infix
import Mathlib.Data.List.TakeWhile
import StatementGate.Classification
import StatementGate.Proofs.Text.Names

/-! # The skeleton of a text

A text scanned from left to right into quoted text, comments, bare words, semicolons and other
characters. Every text has a scan, and its lexemes in their order are the text. -/

namespace StatementGate.Sql

/-- A piece of a text. The quoted text or the comment at the end of a text may be left open. -/
inductive Lexeme where
  | quoted (opening closing : Char) (content : List Char)
  | openQuote (opening : Char) (content : List Char)
  | line (content : List Char)
  | block (content : List Char)
  | openBlock (content : List Char)
  | word (text : List Char)
  | semicolon
  | other (c : Char)
  deriving DecidableEq

def Lexeme.text : Lexeme → List Char
  | .quoted opening closing content => opening :: (content ++ [closing])
  | .openQuote opening content => opening :: content
  | .line content => '-' :: '-' :: content
  | .block content => '/' :: '*' :: (content ++ ['*', '/'])
  | .openBlock content => '/' :: '*' :: content
  | .word text => text
  | .semicolon => [';']
  | .other c => [c]

/-- A lexeme without what it quotes or comments, a word in upper case. -/
def Lexeme.outline : Lexeme → Lexeme
  | .quoted opening closing _ => .quoted opening closing []
  | .openQuote opening _ => .openQuote opening []
  | .line _ => .line []
  | .block _ => .block []
  | .openBlock _ => .openBlock []
  | .word text => .word (text.map Char.toUpper)
  | .semicolon => .semicolon
  | .other c => .other c

def skeleton (ls : List Lexeme) : List Lexeme := ls.map Lexeme.outline

/-- Text in which the delimiter stands doubled only, or not at all if it is a bracket. -/
inductive Enclosed (closing : Char) : List Char → Prop
  | nil : Enclosed closing []
  | cons {c : Char} {s : List Char} (hc : c ≠ closing) (hs : Enclosed closing s) :
      Enclosed closing (c :: s)
  | doubled {s : List Char} (hclosing : closing ≠ ']') (hs : Enclosed closing s) :
      Enclosed closing (closing :: closing :: s)

theorem Enclosed.of_not_mem {closing : Char} {s : List Char} (h : closing ∉ s) :
    Enclosed closing s := by
  induction s with
  | nil => exact .nil
  | cons c s ih =>
    rw [List.mem_cons, not_or] at h
    exact .cons (Ne.symm h.1) (ih h.2)

/-- The lexeme that a text starts with and what follows it. A quoted text goes to the first delimiter
that is not doubled, a comment to the end of its line or to the first end mark, and a word as far as
it can. -/
inductive Begins : List Char → Lexeme → List Char → Prop
  | quoted {opening closing : Char} {content s : List Char}
      (hopening : closing? opening = some closing) (hcontent : Enclosed closing content)
      (hend : closing ≠ ']' → s.head? ≠ some closing) :
      Begins (opening :: (content ++ closing :: s)) (.quoted opening closing content) s
  | openQuote {opening closing : Char} {content : List Char}
      (hopening : closing? opening = some closing) (hcontent : Enclosed closing content) :
      Begins (opening :: content) (.openQuote opening content) []
  | line {content s : List Char} (hcontent : '\n' ∉ content) :
      Begins ('-' :: '-' :: (content ++ '\n' :: s)) (.line (content ++ ['\n'])) s
  | lastLine {content : List Char} (hcontent : '\n' ∉ content) :
      Begins ('-' :: '-' :: content) (.line content) []
  | block {content s : List Char} (hcontent : ¬['*', '/'] <:+: content ++ ['*']) :
      Begins ('/' :: '*' :: (content ++ '*' :: '/' :: s)) (.block content) s
  | openBlock {content : List Char} (hcontent : ¬['*', '/'] <:+: content) :
      Begins ('/' :: '*' :: content) (.openBlock content) []
  | word {text s : List Char} (htext : isPlainName text = true)
      (hlongest : ∀ c ∈ s.head?, Ascii.isNamePart c = false) :
      Begins (text ++ s) (.word text) s
  | semicolon {s : List Char} : Begins (';' :: s) .semicolon s
  | other {c : Char} {s : List Char} (hsemicolon : c ≠ ';') (hword : Ascii.isNameStart c = false)
      (hquote : closing? c = none) (hline : ¬['-', '-'] <+: c :: s)
      (hblock : ¬['/', '*'] <+: c :: s) :
      Begins (c :: s) (.other c) s

/-- The scans of a text, from left to right. -/
inductive Scans : List Char → List Lexeme → Prop
  | nil : Scans [] []
  | cons {s rest : List Char} {l : Lexeme} {ls : List Lexeme} (hl : Begins s l rest)
      (hls : Scans rest ls) : Scans s (l :: ls)

theorem Begins.text_append {s rest : List Char} {l : Lexeme} (h : Begins s l rest) :
    l.text ++ rest = s := by
  cases h <;> simp [Lexeme.text]

/-- The lexemes of a scan are the text. -/
theorem Scans.text_eq {s : List Char} {ls : List Lexeme} (h : Scans s ls) :
    ls.flatMap Lexeme.text = s := by
  induction h with
  | nil => rfl
  | cons hl _ ih => rw [List.flatMap_cons, ih, hl.text_append]

section Ends

variable {closing : Char} {s rest content : List Char}

theorem afterQuote?_eq_none_iff : afterQuote? closing s = none ↔ Enclosed closing s := by
  fun_induction afterQuote? closing s with
  | case1 => simp [Enclosed.nil]
  | case2 d more h ih =>
    obtain ⟨hbracket, rfl⟩ := h
    rw [ih]
    constructor
    · exact .doubled hbracket
    · intro h
      cases h with
      | cons hc => exact absurd rfl hc
      | doubled _ h => exact h
  | case3 d more h =>
    refine iff_of_false (by simp) fun henclosed => ?_
    cases henclosed with
    | cons hc => exact hc rfl
    | doubled hbracket => exact h ⟨hbracket, rfl⟩
  | case4 =>
    refine iff_of_false (by simp) fun henclosed => ?_
    cases henclosed with
    | cons hc => exact hc rfl
  | case5 c more hc ih =>
    rw [ih]
    constructor
    · exact .cons hc
    · intro h
      cases h with
      | cons _ h => exact h
      | doubled => exact absurd rfl hc

theorem afterQuote?_closing (hend : closing ≠ ']' → rest.head? ≠ some closing) :
    afterQuote? closing (closing :: rest) = some rest := by
  unfold afterQuote?
  rw [if_pos rfl]
  cases rest with
  | nil => rfl
  | cons d more => exact if_neg fun h => hend h.1 (congrArg some h.2)

theorem afterQuote?_of_enclosed (h : Enclosed closing content)
    (hend : closing ≠ ']' → rest.head? ≠ some closing) :
    afterQuote? closing (content ++ closing :: rest) = some rest := by
  induction h with
  | nil => exact afterQuote?_closing hend
  | cons hc _ ih =>
    rw [List.cons_append, afterQuote?.eq_def]
    exact (if_neg hc).trans ih
  | doubled hbracket _ ih => simp [afterQuote?, hbracket, ih]

theorem exists_of_afterQuote? (h : afterQuote? closing s = some rest) :
    ∃ content, s = content ++ closing :: rest ∧ Enclosed closing content ∧
      (closing ≠ ']' → rest.head? ≠ some closing) := by
  fun_induction afterQuote? closing s with
  | case1 => cases h
  | case2 d more hdoubled ih =>
    obtain ⟨hbracket, rfl⟩ := hdoubled
    obtain ⟨content, rfl, hcontent, hend⟩ := ih h
    exact ⟨d :: d :: content, rfl, .doubled hbracket hcontent, hend⟩
  | case3 d more hdoubled =>
    cases h
    refine ⟨[], rfl, .nil, fun hbracket hd => hdoubled ⟨hbracket, ?_⟩⟩
    exact Option.some.inj hd
  | case4 =>
    cases h
    exact ⟨[], rfl, .nil, fun _ => by simp⟩
  | case5 c more hc ih =>
    obtain ⟨content, rfl, hcontent, hend⟩ := ih h
    exact ⟨c :: content, rfl, .cons hc hcontent, hend⟩

theorem afterComment?_eq_none_iff : afterComment? s = none ↔ ¬['*', '/'] <:+: s := by
  fun_induction afterComment? s with
  | case1 rest =>
    refine iff_of_false (by simp) fun h => h ?_
    exact (List.prefix_append ['*', '/'] rest).isInfix
  | case2 c rest hne ih =>
    have hstart : ¬['*', '/'] <+: c :: rest := by
      rintro ⟨more, hmore⟩
      cases hmore
      exact hne more rfl rfl
    rw [ih, List.infix_cons_iff, not_or]
    exact ⟨fun h => ⟨hstart, h⟩, fun h => h.2⟩
  | case3 => simp

theorem afterComment?_of_not_infix (h : ¬['*', '/'] <:+: content ++ ['*']) :
    afterComment? (content ++ '*' :: '/' :: rest) = some rest := by
  induction content with
  | nil => rfl
  | cons c content ih =>
    rw [List.cons_append, List.infix_cons_iff, not_or] at h
    rw [List.cons_append, afterComment?, ih h.2]
    rintro more rfl hmore
    cases content with
    | nil => cases hmore
    | cons d content =>
      cases hmore
      exact h.1 (List.prefix_append ['*', '/'] _)

theorem exists_of_afterComment? (h : afterComment? s = some rest) :
    ∃ content, s = content ++ '*' :: '/' :: rest ∧ ¬['*', '/'] <:+: content ++ ['*'] := by
  fun_induction afterComment? s with
  | case1 =>
    cases h
    exact ⟨[], rfl, by decide⟩
  | case2 c more hne ih =>
    obtain ⟨content, rfl, hcontent⟩ := ih h
    refine ⟨c :: content, rfl, ?_⟩
    rw [List.cons_append, List.infix_cons_iff, not_or]
    refine ⟨?_, hcontent⟩
    rintro ⟨others, hothers⟩
    cases content with
    | nil => cases hothers
    | cons d content =>
      cases hothers
      exact hne _ rfl rfl
  | case3 => cases h

theorem afterLine_append (h : '\n' ∉ content) : afterLine (content ++ '\n' :: rest) = rest := by
  have hinside : ∀ c ∈ content, (c != '\n') = true := by
    intro c hc
    rw [bne_iff_ne]
    rintro rfl
    exact h hc
  rw [afterLine, List.dropWhile_append_of_pos hinside, List.dropWhile_cons_of_neg (by simp)]
  rfl

theorem afterLine_eq_nil (h : '\n' ∉ content) : afterLine content = [] := by
  have hdrop : content.dropWhile (· != '\n') = [] := by
    rw [List.dropWhile_eq_nil_iff]
    intro c hc
    rw [bne_iff_ne]
    rintro rfl
    exact h hc
  rw [afterLine, hdrop, List.drop_nil]

end Ends

theorem Begins.length_lt {s rest : List Char} {l : Lexeme} (h : Begins s l rest) :
    rest.length < s.length := by
  rw [← h.text_append, List.length_append, Nat.lt_add_left_iff_pos, List.length_pos_iff]
  cases h with
  | @word text _ htext =>
    rintro rfl
    cases htext
  | _ => exact List.cons_ne_nil _ _

section Existence

variable {c closing : Char}

theorem exists_begins_line (s : List Char) : ∃ l rest, Begins ('-' :: '-' :: s) l rest := by
  by_cases hend : '\n' ∈ s
  · obtain ⟨content, rest, rfl, hcontent⟩ := List.eq_append_cons_of_mem hend
    exact ⟨_, rest, .line hcontent⟩
  · exact ⟨_, [], .lastLine hend⟩

theorem exists_begins_block (s : List Char) : ∃ l rest, Begins ('/' :: '*' :: s) l rest := by
  cases hend : afterComment? s with
  | none => exact ⟨_, [], .openBlock (afterComment?_eq_none_iff.1 hend)⟩
  | some rest =>
    obtain ⟨content, rfl, hcontent⟩ := exists_of_afterComment? hend
    exact ⟨_, rest, .block hcontent⟩

theorem exists_begins_word (hc : Ascii.isNameStart c = true) (s : List Char) :
    ∃ l rest, Begins (c :: s) l rest := by
  have htext : isPlainName (c :: s.takeWhile Ascii.isNamePart) = true := by
    simp [isPlainName, hc]
  have hlongest : ∀ d ∈ (s.dropWhile Ascii.isNamePart).head?, Ascii.isNamePart d = false := by
    intro d hd
    have hnot := List.head?_dropWhile_not Ascii.isNamePart s
    rw [Option.mem_def.1 hd] at hnot
    exact hnot
  have hbegins := Begins.word htext hlongest
  rw [List.cons_append, List.takeWhile_append_dropWhile] at hbegins
  exact ⟨_, _, hbegins⟩

theorem exists_begins_quote (hc : closing? c = some closing) (s : List Char) :
    ∃ l rest, Begins (c :: s) l rest := by
  cases hend : afterQuote? closing s with
  | none => exact ⟨_, [], .openQuote hc (afterQuote?_eq_none_iff.1 hend)⟩
  | some rest =>
    obtain ⟨content, rfl, hcontent, hfirst⟩ := exists_of_afterQuote? hend
    exact ⟨_, rest, .quoted hc hcontent hfirst⟩

/-- Every text that is not empty starts with a lexeme. -/
theorem exists_begins (c : Char) (s : List Char) : ∃ l rest, Begins (c :: s) l rest := by
  by_cases hline : ['-', '-'] <+: c :: s
  · obtain ⟨s, hs⟩ := hline
    rw [← hs]
    exact exists_begins_line s
  by_cases hblock : ['/', '*'] <+: c :: s
  · obtain ⟨s, hs⟩ := hblock
    rw [← hs]
    exact exists_begins_block s
  by_cases hsemicolon : c = ';'
  · rw [hsemicolon]
    exact ⟨_, s, .semicolon⟩
  by_cases hword : Ascii.isNameStart c = true
  · exact exists_begins_word hword s
  cases hquote : closing? c with
  | some closing => exact exists_begins_quote hquote s
  | none => exact ⟨_, s, .other hsemicolon (Bool.not_eq_true _ ▸ hword) hquote hline hblock⟩

end Existence

/-- Every text has a scan. -/
theorem exists_scans (s : List Char) : ∃ ls, Scans s ls := by
  match s with
  | [] => exact ⟨[], .nil⟩
  | c :: s =>
    obtain ⟨l, rest, hl⟩ := exists_begins c s
    obtain ⟨ls, hls⟩ := exists_scans rest
    exact ⟨l :: ls, .cons hl hls⟩
termination_by s.length
decreasing_by exact hl.length_lt

end StatementGate.Sql
