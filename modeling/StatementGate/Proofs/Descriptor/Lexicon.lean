import Mathlib.Data.List.TakeWhile
import StatementGate.Descriptor.Token
import StatementGate.Proofs.Outcome
import StatementGate.Proofs.Text.Names

/-! # The words of descriptors

Dotted names by their grammar, and the split of a text into tokens, each name as long as the text
allows. The scanner finds a split exactly when there is one, and no text has two. -/

namespace StatementGate

/-- One plain name or more, with single dots between them. -/
inductive IsDotted : List Char → Prop
  | plain {name : List Char} (h : isPlainName name = true) : IsDotted name
  | dot {name rest : List Char} (h : isPlainName name = true) (hrest : IsDotted rest) :
      IsDotted (name ++ '.' :: rest)

theorem isPlainName_append {name : List Char} (h : isPlainName name = true) {c : Char}
    (hc : Ascii.isNamePart c = true) : isPlainName (name ++ [c]) = true := by
  cases name with
  | nil => cases h
  | cons first rest =>
    obtain ⟨hfirst, hrest⟩ := Bool.and_eq_true_iff.1 h
    rw [List.cons_append, isPlainName, List.all_append, hfirst, hrest]
    simp [hc]

namespace IsDotted

theorem isNameChar {text : List Char} (h : IsDotted text) {c : Char} (hc : c ∈ text) :
    Token.isNameChar c = true := by
  induction h with
  | plain h => simp [Token.isNameChar, isNamePart_of_mem_plainName h hc]
  | dot h _ ih =>
    simp only [List.mem_append, List.mem_cons] at hc
    rcases hc with hc | rfl | hc
    · simp [Token.isNameChar, isNamePart_of_mem_plainName h hc]
    · rfl
    · exact ih hc

/-- An identifier starts like a name. -/
theorem exists_head {text : List Char} (h : IsDotted text) :
    ∃ c rest, text = c :: rest ∧ Ascii.isNameStart c = true := by
  have hplain : ∀ name, isPlainName name = true →
      ∃ c rest, name = c :: rest ∧ Ascii.isNameStart c = true := by
    intro name hname
    cases name with
    | nil => cases hname
    | cons c rest => exact ⟨c, rest, rfl, (Bool.and_eq_true_iff.1 hname).1⟩
  cases h with
  | plain h => exact hplain _ h
  | @dot name rest h _ =>
    obtain ⟨c, more, rfl, hc⟩ := hplain name h
    exact ⟨c, more ++ '.' :: rest, rfl, hc⟩

theorem append {text : List Char} (h : IsDotted text) {c : Char} (hc : Ascii.isNamePart c = true) :
    IsDotted (text ++ [c]) := by
  induction h with
  | plain h => exact .plain (isPlainName_append h hc)
  | dot h _ ih =>
    rw [List.append_assoc, List.cons_append]
    exact .dot h ih

end IsDotted

/-- A text without a dot is its only part. -/
theorem splitDots_of_not_mem {text : List Char} (h : '.' ∉ text) : splitDots text = [text] := by
  induction text with
  | nil => rfl
  | cons c rest ih =>
    rw [List.mem_cons, not_or] at h
    rw [splitDots, if_neg (Ne.symm h.1), ih h.2]

theorem splitDots_append {part : List Char} (h : '.' ∉ part) (rest : List Char) :
    splitDots (part ++ '.' :: rest) = part :: splitDots rest := by
  induction part with
  | nil => rw [List.nil_append, splitDots, if_pos rfl]
  | cons c part ih =>
    rw [List.mem_cons, not_or] at h
    rw [List.cons_append, splitDots, if_neg (Ne.symm h.1), ih h.2]

theorem splitDots_eq_cons (text : List Char) : ∃ part parts, splitDots text = part :: parts := by
  cases text with
  | nil => exact ⟨[], [], rfl⟩
  | cons c rest =>
    rw [splitDots]
    by_cases hc : c = '.'
    · rw [if_pos hc]
      exact ⟨[], _, rfl⟩
    · rw [if_neg hc]
      cases splitDots rest with
      | nil => exact ⟨_, _, rfl⟩
      | cons part parts => exact ⟨_, _, rfl⟩

/-- A text whose parts are plain names is dotted, also when `before` was read of its first part. -/
theorem IsDotted.of_splitDots {text : List Char} :
    ∀ (before : List Char) {part : List Char} {parts : List (List Char)},
      splitDots text = part :: parts → isPlainName (before ++ part) = true →
      parts.all isPlainName = true → IsDotted (before ++ text) := by
  induction text with
  | nil =>
    intro before part parts h hpart _
    cases h
    exact .plain hpart
  | cons c rest ih =>
    intro before part parts h hpart hparts
    obtain ⟨next, others, hrest⟩ := splitDots_eq_cons rest
    rw [splitDots, hrest] at h
    by_cases hc : c = '.'
    · rw [if_pos hc] at h
      cases h
      rw [List.append_nil] at hpart
      obtain ⟨hnext, hothers⟩ := Bool.and_eq_true_iff.1 hparts
      subst hc
      exact .dot hpart (ih [] hrest hnext hothers)
    · rw [if_neg hc] at h
      cases h
      have hdotted : IsDotted ((before ++ [c]) ++ rest) := by
        apply ih (before ++ [c]) hrest _ hparts
        rw [List.append_assoc]
        exact hpart
      rw [List.append_assoc] at hdotted
      exact hdotted

theorem isDottedIdentifier_iff {s : String} : isDottedIdentifier s = true ↔ IsDotted s.toList := by
  rw [isDottedIdentifier]
  constructor
  · intro h
    obtain ⟨part, parts, hparts⟩ := splitDots_eq_cons s.toList
    rw [hparts] at h
    obtain ⟨hpart, hothers⟩ := Bool.and_eq_true_iff.1 h
    exact IsDotted.of_splitDots [] hparts hpart hothers
  · intro h
    generalize s.toList = text at h
    induction h with
    | plain h =>
      rw [splitDots_of_not_mem (dot_not_mem_of_plainName h)]
      simp [h]
    | dot h _ ih =>
      rw [splitDots_append (dot_not_mem_of_plainName h)]
      simp [h, ih]

theorem isDottedIdentifier_ofList {text : List Char} :
    isDottedIdentifier (String.ofList text) = true ↔ IsDotted text := by
  rw [isDottedIdentifier_iff, String.toList_ofList]

namespace Token

/-- The tokens of a single character. -/
inductive Single : Char → Token → Prop
  | opening : Single '[' .opening
  | closing : Single ']' .closing
  | comma : Single ',' .comma

/-- A text split into tokens. Space may stand between them, and a name is as long as it can be. -/
inductive Splits : List Char → List Token → Prop
  | nil : Splits [] []
  | space {c : Char} {s : List Char} {ts : List Token} (h : Ascii.isSpace c = true)
      (hs : Splits s ts) : Splits (c :: s) ts
  | single {c : Char} {token : Token} {s : List Char} {ts : List Token} (h : Single c token)
      (hs : Splits s ts) : Splits (c :: s) (token :: ts)
  | quoted {q : Char} {text s : List Char} {ts : List Token} (hq : q = '\'' ∨ q = '"')
      (h : IsDotted text) (hs : Splits s ts) :
      Splits (q :: (text ++ q :: s)) (.quoted (String.ofList text) :: ts)
  | name {text s : List Char} {ts : List Token} (h : IsDotted text)
      (hlongest : ∀ more rest, s = more ++ rest → more ≠ [] → ¬IsDotted (text ++ more))
      (hs : Splits s ts) : Splits (text ++ s) (.name (String.ofList text) :: ts)

theorem not_isNameChar_of_isQuote {q : Char} (hq : isQuote q = true) : isNameChar q = false := by
  simp only [isQuote, Bool.or_eq_true, beq_iff_eq] at hq
  rcases hq with rfl | rfl
  · rfl
  · rfl

theorem head_dropWhile {p : Char → Bool} {s : List Char} {c : Char} {rest : List Char}
    (h : s.dropWhile p = c :: rest) : p c = false := by
  have hhead := List.head?_dropWhile_not p s
  rw [h] at hhead
  exact hhead

theorem isQuote_iff {q : Char} : isQuote q = true ↔ q = '\'' ∨ q = '"' := by
  simp [isQuote]

/-- What stands before the next quote, the quote, and what stands behind it. -/
theorem eq_append_quote {q head : Char} {s after : List Char}
    (h : s.dropWhile (· != q) = head :: after) : s = s.takeWhile (· != q) ++ q :: after := by
  have hhead : head = q := by
    have := head_dropWhile h
    simpa using this
  subst hhead
  rw [← h, List.takeWhile_append_dropWhile]

/-- A text that no name goes on with. -/
def Apart (s : List Char) : Prop := ∀ c rest, s = c :: rest → isNameChar c = false

theorem Splits.name_of_apart {text s : List Char} {ts : List Token} (h : IsDotted text)
    (hapart : Apart s) (hs : Splits s ts) :
    Splits (text ++ s) (.name (String.ofList text) :: ts) := by
  apply Splits.name h _ hs
  intro more others hmore hne hlonger
  cases more with
  | nil => exact hne rfl
  | cons c more =>
    have hc := hapart c (more ++ others) hmore
    rw [hlonger.isNameChar (List.mem_append_right _ List.mem_cons_self)] at hc
    cases hc

/-- What the scanner reads is a split of the text. -/
theorem splits_of_scan {offset : Nat} {s : List Char} {located : List LocatedToken}
    (h : scan offset s = .ok located) : Splits s (located.map (·.token)) := by
  fun_induction scan offset s generalizing located with
  | case1 =>
    cases h
    exact .nil
  | case2 _ _ _ hspace ih => exact .space hspace (ih h)
  | case3 =>
    rename_i ih
    obtain ⟨tokens, htokens, hlocated⟩ := bind_eq_ok.1 h
    cases hlocated
    exact .single .opening (ih htokens)
  | case4 =>
    rename_i ih
    obtain ⟨tokens, htokens, hlocated⟩ := bind_eq_ok.1 h
    cases hlocated
    exact .single .closing (ih htokens)
  | case5 =>
    rename_i ih
    obtain ⟨tokens, htokens, hlocated⟩ := bind_eq_ok.1 h
    cases hlocated
    exact .single .comma (ih htokens)
  | case6 => cases h
  | case7 _ q rest _ _ _ _ hquote text head after hdrop hdotted =>
    rename_i ih
    obtain ⟨tokens, htokens, hlocated⟩ := bind_eq_ok.1 h
    cases hlocated
    have hrest : rest = text ++ q :: after := eq_append_quote hdrop
    rw [hrest]
    exact .quoted (isQuote_iff.1 hquote) (isDottedIdentifier_ofList.1 hdotted) (ih htokens)
  | case8 => cases h
  | case9 _ c rest _ _ _ _ _ _ text hdotted =>
    rename_i ih
    obtain ⟨tokens, htokens, hlocated⟩ := bind_eq_ok.1 h
    cases hlocated
    have hrest : c :: rest = text ++ rest.dropWhile isNameChar := by
      rw [List.cons_append, List.takeWhile_append_dropWhile]
    rw [hrest]
    exact .name_of_apart (isDottedIdentifier_ofList.1 hdotted) (fun _ _ => head_dropWhile)
      (ih htokens)
  | case10 => cases h
  | case11 => cases h

theorem scan_single {c : Char} {token : Token} (h : Single c token) (offset : Nat) (s : List Char) :
    scan offset (c :: s) =
      scan (offset + c.utf8Size) s >>= fun tokens => .ok (⟨token, offset⟩ :: tokens) := by
  cases h with
  | opening =>
    rw [scan]
    rfl
  | closing =>
    rw [scan]
    rfl
  | comma =>
    rw [scan]
    rfl

theorem scan_space {c : Char} (h : Ascii.isSpace c = true) (offset : Nat) (s : List Char) :
    scan offset (c :: s) = scan (offset + c.utf8Size) s := by
  rw [scan, if_pos h]

theorem scan_quoted {q : Char} (hq : q = '\'' ∨ q = '"') {text : List Char} (h : IsDotted text)
    (offset : Nat) (s : List Char) :
    scan offset (q :: (text ++ q :: s)) =
      scan (offset + Utf8.size text + 2) s >>= fun tokens =>
        .ok (⟨.quoted (String.ofList text), offset⟩ :: tokens) := by
  have hquote : isQuote q = true := isQuote_iff.2 hq
  have hinside : ∀ c ∈ text, (c != q) = true := by
    intro c hc
    rw [bne_iff_ne]
    rintro rfl
    have := h.isNameChar hc
    rw [not_isNameChar_of_isQuote hquote] at this
    cases this
  have hdrop : (text ++ q :: s).dropWhile (· != q) = q :: s := by
    rw [List.dropWhile_append_of_pos hinside, List.dropWhile_cons_of_neg (by simp)]
  have htake : (text ++ q :: s).takeWhile (· != q) = text := by
    rw [List.takeWhile_append_of_pos hinside, List.takeWhile_cons_of_neg (by simp),
      List.append_nil]
  have hdotted : isDottedIdentifier (String.ofList text) = true := isDottedIdentifier_ofList.2 h
  have hothers : Ascii.isSpace q = false ∧ q ≠ '[' ∧ q ≠ ']' ∧ q ≠ ',' := by
    rcases hq with rfl | rfl
    · decide
    · decide
  obtain ⟨hspace, hopening, hclosing, hcomma⟩ := hothers
  rw [scan, hspace, if_neg (by simp), if_neg hopening, if_neg hclosing, if_neg hcomma,
    if_pos hquote, htake]
  split
  · rename_i heq
    rw [hdrop] at heq
    cases heq
  · rename_i heq
    rw [hdrop] at heq
    cases heq
    rw [if_pos hdotted]
    rfl

theorem scans_as_name {c : Char} (hc : Ascii.isNameStart c = true) :
    Ascii.isSpace c = false ∧ c ≠ '[' ∧ c ≠ ']' ∧ c ≠ ',' ∧ isQuote c = false := by
  refine ⟨?_, ?_, ?_, ?_, ?_⟩
  · rw [Bool.eq_false_iff]
    intro hspace
    simp only [Ascii.isSpace, Bool.or_eq_true, beq_iff_eq] at hspace
    rcases hspace with (((rfl | rfl) | rfl) | rfl) | rfl
    all_goals cases hc
  · rintro rfl
    cases hc
  · rintro rfl
    cases hc
  · rintro rfl
    cases hc
  · rw [Bool.eq_false_iff]
    intro hquote
    simp only [isQuote, Bool.or_eq_true, beq_iff_eq] at hquote
    rcases hquote with rfl | rfl
    all_goals cases hc

theorem scan_name {text : List Char} (h : IsDotted text) {s : List Char}
    (hs : ∀ c rest, s = c :: rest → isNameChar c = false) (offset : Nat) :
    scan offset (text ++ s) =
      scan (offset + Utf8.size text) s >>= fun tokens =>
        .ok (⟨.name (String.ofList text), offset⟩ :: tokens) := by
  obtain ⟨c, more, rfl, hc⟩ := h.exists_head
  have hinside : ∀ c ∈ more, isNameChar c = true :=
    fun c hc => h.isNameChar (List.mem_cons_of_mem _ hc)
  have hdrop : (more ++ s).dropWhile isNameChar = s := by
    rw [List.dropWhile_append_of_pos hinside]
    cases s with
    | nil => rfl
    | cons d s => rw [List.dropWhile_cons_of_neg (by simp [hs d s rfl])]
  have htake : (more ++ s).takeWhile isNameChar = more := by
    rw [List.takeWhile_append_of_pos hinside]
    cases s with
    | nil => rw [List.takeWhile_nil, List.append_nil]
    | cons d s => rw [List.takeWhile_cons_of_neg (by simp [hs d s rfl]), List.append_nil]
  have hdotted : isDottedIdentifier (String.ofList (c :: more)) = true :=
    isDottedIdentifier_ofList.2 h
  obtain ⟨hspace, hopening, hclosing, hcomma, hquote⟩ := scans_as_name hc
  rw [List.cons_append, scan, hspace, hquote, if_neg (by simp), if_neg hopening, if_neg hclosing,
    if_neg hcomma, if_neg (by simp), if_pos hc, htake, hdrop, if_pos hdotted]
  rfl

theorem Splits.head_ne_dot {s : List Char} {ts : List Token} (h : Splits s ts) {rest : List Char}
    (hs : s = '.' :: rest) : False := by
  cases h with
  | nil => cases hs
  | space h =>
    cases hs
    cases h
  | single h =>
    cases hs
    cases h
  | quoted hq =>
    cases hs
    rcases hq with hq | hq
    · cases hq
    · cases hq
  | name h =>
    obtain ⟨c, more, rfl, hc⟩ := h.exists_head
    cases hs
    cases hc

/-- A name that could not be longer ends before a character of names. -/
theorem Splits.not_isNameChar {text s : List Char} {ts : List Token} (hs : Splits s ts)
    (h : IsDotted text)
    (hlongest : ∀ more rest, s = more ++ rest → more ≠ [] → ¬IsDotted (text ++ more)) (c : Char)
    (rest : List Char) (hc : s = c :: rest) : isNameChar c = false := by
  rw [Bool.eq_false_iff]
  intro hname
  rw [isNameChar, Bool.or_eq_true, beq_iff_eq] at hname
  rcases hname with hname | rfl
  · exact hlongest [c] rest hc (by simp) (h.append hname)
  · exact hs.head_ne_dot hc

/-- The scanner reads every split there is. -/
theorem Splits.scan_eq {s : List Char} {ts : List Token} (h : Splits s ts) (offset : Nat) :
    ∃ located, scan offset s = .ok located ∧ located.map (·.token) = ts := by
  induction h generalizing offset with
  | nil => exact ⟨[], by rw [scan], rfl⟩
  | space h _ ih =>
    rw [scan_space h]
    exact ih _
  | single h _ ih =>
    obtain ⟨located, hscan, rfl⟩ := ih _
    rw [scan_single h, hscan]
    exact ⟨_, rfl, rfl⟩
  | @quoted q text s ts hq h _ ih =>
    obtain ⟨located, hscan, rfl⟩ := ih _
    rw [scan_quoted hq h, hscan]
    exact ⟨_, rfl, rfl⟩
  | @name text s ts h hlongest hs ih =>
    obtain ⟨located, hscan, rfl⟩ := ih _
    rw [scan_name h (hs.not_isNameChar h hlongest), hscan]
    exact ⟨_, rfl, rfl⟩

/-- No text splits in two ways. -/
theorem Splits.unique {s : List Char} {ts ts' : List Token} (h : Splits s ts) (h' : Splits s ts') :
    ts = ts' := by
  obtain ⟨located, hscan, rfl⟩ := h.scan_eq 0
  obtain ⟨located', hscan', rfl⟩ := h'.scan_eq 0
  rw [hscan] at hscan'
  cases hscan'
  rfl

end Token

end StatementGate
