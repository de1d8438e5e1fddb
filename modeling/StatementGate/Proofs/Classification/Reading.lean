import StatementGate.Proofs.Classification.Skeleton
import StatementGate.Proofs.Outcome

/-! # Reading a skeleton

What a statement is classified as, read off the scan of its text: the first fault, and without one
the first bare word and the mutating words behind it. What quoted text and comments hold, and the
case of the words, do not matter. -/

namespace StatementGate

namespace Sql

/-- Whether a lexeme may stand behind a semicolon. -/
def Lexeme.mayFollow : Lexeme → Bool
  | .line _ | .block _ | .openBlock _ | .semicolon => true
  | .other c => isBlank c
  | .quoted .. | .openQuote .. | .word _ => false

/-- The error of a quoted text or a comment that is left open. -/
def Lexeme.leftOpen? : Lexeme → Option ClassifyError
  | .openQuote .. => some .unterminatedQuote
  | .openBlock _ => some .unterminatedComment
  | _ => none

/-- What is wrong with a lexeme, `behind` a semicolon or not. -/
def Lexeme.fault? (behind : Bool) (l : Lexeme) : Option ClassifyError :=
  if behind && !l.mayFollow then some .multipleStatements else l.leftOpen?

def Lexeme.word? : Lexeme → Option String
  | .word text => some (String.ofList text)
  | _ => none

/-- No lexeme is at fault, if the first stands `behind` a semicolon or not. -/
def Faultless (behind : Bool) (ls : List Lexeme) : Prop :=
  ∀ before l after, ls = before ++ l :: after →
    l.fault? (behind || decide (.semicolon ∈ before)) = none

/-- What is wrong with the first lexeme at fault. -/
def FirstFault (behind : Bool) (ls : List Lexeme) (e : ClassifyError) : Prop :=
  ∃ before l after, ls = before ++ l :: after ∧ Faultless behind before ∧
    l.fault? (behind || decide (.semicolon ∈ before)) = some e

variable {behind : Bool} {l : Lexeme} {ls : List Lexeme} {e : ClassifyError}

theorem faultless_nil : Faultless behind [] := by
  intro before l after h
  exact absurd h.symm (by simp)

theorem not_firstFault_nil : ¬FirstFault behind [] e := by
  rintro ⟨before, l, after, h, _⟩
  exact absurd h.symm (by simp)

theorem behind_cons (before : List Lexeme) :
    (behind || decide (.semicolon ∈ l :: before)) =
      (behind || decide (l = .semicolon) || decide (.semicolon ∈ before)) := by
  simp [Bool.or_assoc, eq_comm]

theorem faultless_cons :
    Faultless behind (l :: ls) ↔
      l.fault? behind = none ∧ Faultless (behind || decide (l = .semicolon)) ls := by
  constructor
  · intro h
    constructor
    · simpa using h [] l ls rfl
    · rintro before l' after rfl
      rw [← behind_cons]
      exact h (l :: before) l' after rfl
  · rintro ⟨hl, hls⟩ before l' after h
    cases before with
    | nil =>
      cases h
      simpa using hl
    | cons l before =>
      cases h
      rw [behind_cons]
      exact hls before l' after rfl

theorem firstFault_cons :
    FirstFault behind (l :: ls) e ↔
      l.fault? behind = some e ∨
        l.fault? behind = none ∧ FirstFault (behind || decide (l = .semicolon)) ls e := by
  constructor
  · rintro ⟨before, l', after, h, hbefore, hl⟩
    cases before with
    | nil =>
      cases h
      exact .inl (by simpa using hl)
    | cons l before =>
      cases h
      rw [faultless_cons] at hbefore
      rw [behind_cons] at hl
      exact .inr ⟨hbefore.1, before, l', after, rfl, hbefore.2, hl⟩
  · rintro (hl | ⟨hl, before, l', after, rfl, hbefore, hl'⟩)
    · exact ⟨[], l, ls, rfl, faultless_nil, by simpa using hl⟩
    · rw [← behind_cons] at hl'
      exact ⟨l :: before, l', after, rfl, faultless_cons.2 ⟨hl, hbefore⟩, hl'⟩

/-- The bare words of a skeleton, or its first fault. -/
def keywordsOf (behind : Bool) : List Lexeme → Except ClassifyError (List String)
  | [] => .ok []
  | l :: ls =>
    match l.fault? behind with
    | some e => .error e
    | none => (l.word?.toList ++ ·) <$> keywordsOf (behind || decide (l = .semicolon)) ls

theorem keywordsOf_eq_error : keywordsOf behind ls = .error e ↔ FirstFault behind ls e := by
  induction ls generalizing behind with
  | nil => exact iff_of_false nofun not_firstFault_nil
  | cons l ls ih =>
    rw [firstFault_cons, keywordsOf]
    cases l.fault? behind with
    | some e' => simp
    | none => simp [map_eq_error, ih]

theorem keywordsOf_eq_ok {words : List String} :
    keywordsOf behind ls = .ok words ↔ Faultless behind ls ∧ ls.filterMap Lexeme.word? = words := by
  induction ls generalizing behind words with
  | nil => simp [keywordsOf, faultless_nil]
  | cons l ls ih =>
    have hwords : (l :: ls).filterMap Lexeme.word? =
        l.word?.toList ++ ls.filterMap Lexeme.word? := by
      cases h : l.word? <;> simp [h]
    rw [faultless_cons, hwords, keywordsOf]
    cases l.fault? behind with
    | some e' => simp
    | none => simp [map_eq_ok, ih]

section Steps

variable {c closing : Char} {s rest : List Char}

theorem prefix_pair_iff {a b : Char} : [a, b] <+: c :: s ↔ c = a ∧ s.head? = some b := by
  cases s with
  | nil => simp
  | cons d s => simp [eq_comm]

/-- A character that starts no comment and may not stand behind a semicolon. -/
structure Significant (c : Char) : Prop where
  blank : isBlank c = false
  dash : c ≠ '-'
  slash : c ≠ '/'
  semicolon : c ≠ ';'

theorem significant_of_isNameStart (h : Ascii.isNameStart c = true) : Significant c where
  blank := isBlank_of_isNameStart h
  dash := by
    rintro rfl
    cases h
  slash := by
    rintro rfl
    cases h
  semicolon := by
    rintro rfl
    cases h

theorem mem_of_closing? (h : closing? c = some closing) : c ∈ ['\'', '"', '\x60', '['] := by
  have hbacktick : c.toNat = 0x60 → c = '\x60' := fun h => Char.toNat_inj.1 h
  simp only [List.mem_cons, closing?] at h ⊢
  split at h
  · tauto
  · split at h
    · tauto
    · cases h

theorem significant_of_closing? (h : closing? c = some closing) :
    Significant c ∧ Ascii.isNameStart c = false := by
  have hc := mem_of_closing? h
  simp only [List.mem_cons, List.not_mem_nil, or_false] at hc
  rcases hc with rfl | rfl | rfl | rfl
  all_goals exact ⟨⟨by decide, by decide, by decide, by decide⟩, by decide⟩

theorem keywords_line : keywords behind ('-' :: '-' :: s) = keywords behind (afterLine s) := by
  rw [keywords, if_neg (by simp), if_pos (by simp)]
  rfl

theorem keywords_block : keywords behind ('/' :: '*' :: s) =
    match afterComment? s with
    | none => .error .unterminatedComment
    | some rest => keywords behind rest := by
  rw [keywords, if_neg (by simp), if_neg (by simp), if_pos (by simp), List.tail_cons]
  cases afterComment? s with
  | none => rfl
  | some rest => rfl

theorem keywords_semicolon : keywords behind (';' :: s) = keywords true s := by
  rw [keywords, if_neg (by simp), if_neg (by simp), if_neg (by simp), if_pos rfl]

/-- Behind a semicolon nothing but blanks, comments and semicolons may start. -/
theorem keywords_ended (hblank : isBlank c = false) (hsemicolon : c ≠ ';')
    (hline : ¬['-', '-'] <+: c :: s) (hblock : ¬['/', '*'] <+: c :: s) :
    keywords true (c :: s) = .error .multipleStatements := by
  rw [prefix_pair_iff] at hline hblock
  rw [keywords, if_pos (by simp [hblank, hsemicolon, hline, hblock])]

theorem keywords_other (hbehind : behind = true → isBlank c = true) (hsemicolon : c ≠ ';')
    (hword : Ascii.isNameStart c = false) (hquote : closing? c = none)
    (hline : ¬['-', '-'] <+: c :: s) (hblock : ¬['/', '*'] <+: c :: s) :
    keywords behind (c :: s) = keywords behind s := by
  have hallowed : (behind && !isBlank c) = false := by simpa using hbehind
  rw [prefix_pair_iff] at hline hblock
  rw [keywords, if_neg (by simp [hallowed]), if_neg hline, if_neg hblock, if_neg hsemicolon,
    if_neg (by simp [hword])]
  simp only [hquote]

theorem Significant.keywords_ended (hc : Significant c) :
    keywords true (c :: s) = .error .multipleStatements := by
  apply Sql.keywords_ended hc.blank hc.semicolon
  · rw [prefix_pair_iff]
    exact fun h => hc.dash h.1
  · rw [prefix_pair_iff]
    exact fun h => hc.slash h.1

theorem keywords_word (hc : Ascii.isNameStart c = true) : keywords false (c :: s) =
    (Ascii.upper (String.ofList (c :: s.takeWhile Ascii.isNamePart)) :: ·) <$>
      keywords false (s.dropWhile Ascii.isNamePart) := by
  obtain ⟨_, hdash, hslash, hsemicolon⟩ := significant_of_isNameStart hc
  rw [keywords, if_neg (by simp), if_neg (by simp [hdash]), if_neg (by simp [hslash]),
    if_neg hsemicolon, if_pos hc, map_eq_pure_bind]

theorem keywords_quote (hc : closing? c = some closing) : keywords false (c :: s) =
    match afterQuote? closing s with
    | none => .error .unterminatedQuote
    | some rest => keywords false rest := by
  obtain ⟨⟨_, hdash, hslash, hsemicolon⟩, hword⟩ := significant_of_closing? hc
  rw [keywords, if_neg (by simp), if_neg (by simp [hdash]), if_neg (by simp [hslash]),
    if_neg hsemicolon, if_neg (by simp [hword])]
  simp only [hc]
  cases afterQuote? closing s with
  | none => rfl
  | some rest => rfl

theorem keywords_plainName {text : List Char} (htext : isPlainName text = true)
    (hlongest : ∀ c ∈ rest.head?, Ascii.isNamePart c = false) :
    keywords false (text ++ rest) =
      (Ascii.upper (String.ofList text) :: ·) <$> keywords false rest := by
  have hinside : ∀ c ∈ text, Ascii.isNamePart c = true :=
    fun c hc => isNamePart_of_mem_plainName htext hc
  have hrest : rest.takeWhile Ascii.isNamePart = [] ∧ rest.dropWhile Ascii.isNamePart = rest := by
    cases rest with
    | nil => simp
    | cons c rest => simp [hlongest c rfl]
  cases text with
  | nil => cases htext
  | cons c text =>
    rw [List.forall_mem_cons] at hinside
    rw [List.cons_append, keywords_word (Bool.and_eq_true_iff.1 htext).1,
      List.takeWhile_append_of_pos hinside.2, List.dropWhile_append_of_pos hinside.2, hrest.1,
      hrest.2, List.append_nil]

/-- Behind a semicolon a text that starts with a lexeme that may not follow is refused. -/
theorem Begins.keywords_ended (h : Begins s l rest) (hl : l.mayFollow = false) :
    keywords true s = .error .multipleStatements := by
  cases h with
  | quoted hopening => exact (significant_of_closing? hopening).1.keywords_ended
  | openQuote hopening => exact (significant_of_closing? hopening).1.keywords_ended
  | @word text _ htext =>
    cases text with
    | nil => cases htext
    | cons c text =>
      have hc := (Bool.and_eq_true_iff.1 htext).1
      exact (significant_of_isNameStart hc).keywords_ended
  | other hsemicolon _ _ hline hblock => exact Sql.keywords_ended hl hsemicolon hline hblock
  | _ => cases hl

theorem outline_mayFollow : l.outline.mayFollow = l.mayFollow := by
  cases l <;> rfl

/-- What one lexeme at the start of a text adds to its bare words. -/
theorem Begins.keywords_eq (h : Begins s l rest) (behind : Bool) :
    keywords behind s =
      match l.outline.fault? behind with
      | some e => .error e
      | none => (l.outline.word?.toList ++ ·) <$>
          keywords (behind || decide (l.outline = .semicolon)) rest := by
  by_cases hended : (behind && !l.mayFollow) = true
  · rw [Lexeme.fault?, outline_mayFollow, if_pos hended]
    rw [Bool.and_eq_true, Bool.not_eq_true'] at hended
    rw [hended.1, h.keywords_ended hended.2]
  rw [Lexeme.fault?, outline_mayFollow, if_neg hended]
  cases h with
  | quoted hopening hcontent hend =>
    cases behind with
    | true => exact absurd rfl hended
    | false =>
      rw [keywords_quote hopening, afterQuote?_of_enclosed hcontent hend]
      simp [Lexeme.outline, Lexeme.leftOpen?, Lexeme.word?]
  | openQuote hopening hcontent =>
    cases behind with
    | true => exact absurd rfl hended
    | false =>
      rw [keywords_quote hopening, afterQuote?_eq_none_iff.2 hcontent]
      rfl
  | line hcontent =>
    rw [keywords_line, afterLine_append hcontent]
    simp [Lexeme.outline, Lexeme.leftOpen?, Lexeme.word?]
  | lastLine hcontent =>
    rw [keywords_line, afterLine_eq_nil hcontent]
    simp [Lexeme.outline, Lexeme.leftOpen?, Lexeme.word?]
  | block hcontent =>
    rw [keywords_block, afterComment?_of_not_infix hcontent]
    simp [Lexeme.outline, Lexeme.leftOpen?, Lexeme.word?]
  | openBlock hcontent =>
    rw [keywords_block, afterComment?_eq_none_iff.2 hcontent]
    rfl
  | word htext hlongest =>
    cases behind with
    | true => exact absurd rfl hended
    | false =>
      rw [keywords_plainName htext hlongest, Ascii.upper, String.toList_ofList]
      simp [Lexeme.outline, Lexeme.leftOpen?, Lexeme.word?]
  | semicolon =>
    rw [keywords_semicolon]
    simp [Lexeme.outline, Lexeme.leftOpen?, Lexeme.word?]
  | @other c _ hsemicolon hword hquote hline hblock =>
    have hblank : behind = true → isBlank c = true := by
      simpa [Lexeme.mayFollow] using hended
    rw [keywords_other hblank hsemicolon hword hquote hline hblock]
    simp [Lexeme.outline, Lexeme.leftOpen?, Lexeme.word?]

/-- The bare words of a text are those of its skeleton. -/
theorem Scans.keywords_eq (h : Scans s ls) (behind : Bool) :
    keywords behind s = keywordsOf behind (skeleton ls) := by
  induction h generalizing behind with
  | nil => rw [keywords, skeleton, List.map_nil, keywordsOf]
  | cons hl _ ih => rw [hl.keywords_eq, skeleton, List.map_cons, keywordsOf, ih, skeleton]

end Steps

/-- Whether a statement of these bare words only reads. -/
def ReadsOnly (first : String) (later : List String) : Prop :=
  first = "SELECT" ∨ first = "VALUES" ∨
    first = "WITH" ∧ ∀ word ∈ later, word ∉ ["INSERT", "UPDATE", "DELETE", "REPLACE", "UPSERT"]

instance (first : String) (later : List String) : Decidable (ReadsOnly first later) :=
  inferInstanceAs (Decidable (_ ∨ _ ∨ _))

/-- What a skeleton is classified as. -/
structure Classified (ls : List Lexeme) (result : Except ClassifyError StatementClass) : Prop where
  fault (e : ClassifyError) : result = .error e ∧ e ≠ .empty ↔ FirstFault false ls e
  empty : result = .error .empty ↔ Faultless false ls ∧ ls.filterMap Lexeme.word? = []
  read : result = .ok .read ↔ Faultless false ls ∧
    ∃ first later, ls.filterMap Lexeme.word? = first :: later ∧ ReadsOnly first later
  write : result = .ok .write ↔ Faultless false ls ∧
    ∃ first later, ls.filterMap Lexeme.word? = first :: later ∧ ¬ReadsOnly first later

theorem FirstFault.ne_empty (h : FirstFault behind ls e) : e ≠ .empty := by
  obtain ⟨_, l, _, _, _, hl⟩ := h
  rintro rfl
  rw [Lexeme.fault?] at hl
  split at hl
  · cases hl
  · cases l <;> cases hl

end Sql

/-- The class of a statement is that of its bare words. -/
theorem classify_eq (sql : String) :
    classify sql =
      match Sql.keywords false sql.toList with
      | .error e => .error e
      | .ok [] => .error .empty
      | .ok (first :: later) => .ok (if Sql.ReadsOnly first later then .read else .write) := by
  rw [classify]
  cases Sql.keywords false sql.toList with
  | error e => rfl
  | ok words =>
    cases words with
    | nil => rfl
    | cons first later =>
      change (if first = "WITH" then _ else _) = _
      by_cases hwith : first = "WITH"
      · have hreads : Sql.ReadsOnly first later ↔ ¬later.any isMutatingKeyword = true := by
          simp [Sql.ReadsOnly, isMutatingKeyword, hwith]
        rw [if_pos hwith]
        simp only [hreads, ite_not]
        rfl
      · have hreads : Sql.ReadsOnly first later ↔ isReadKeyword first = true := by
          simp [Sql.ReadsOnly, isReadKeyword, hwith]
        rw [if_neg hwith]
        simp only [hreads]
        rfl

theorem Sql.Scans.classified {sql : String} {ls : List Lexeme} (h : Scans sql.toList ls) :
    Classified (skeleton ls) (classify sql) := by
  rw [classify_eq, h.keywords_eq]
  cases hread : keywordsOf false (skeleton ls) with
  | error e =>
    have hfault := keywordsOf_eq_error.1 hread
    have hnot : ¬Faultless false (skeleton ls) := by
      intro h
      cases hread.symm.trans (keywordsOf_eq_ok.2 ⟨h, rfl⟩)
    constructor
    · intro e'
      simp only [← keywordsOf_eq_error, hread, Except.error.injEq]
      apply and_iff_left_of_imp
      rintro rfl
      exact hfault.ne_empty
    · exact iff_of_false (fun h => hfault.ne_empty (Except.error.inj h)) fun h => hnot h.1
    · exact iff_of_false nofun fun h => hnot h.1
    · exact iff_of_false nofun fun h => hnot h.1
  | ok words =>
    obtain ⟨hfaultless, hwords⟩ := keywordsOf_eq_ok.1 hread
    have hnot (e : ClassifyError) : ¬FirstFault false (skeleton ls) e := by
      rw [← keywordsOf_eq_error, hread]
      nofun
    cases words with
    | nil => constructor <;> simp [hnot, hfaultless, hwords, eq_comm]
    | cons first later =>
      by_cases hreads : ReadsOnly first later
      · constructor <;> simp [hnot, hfaultless, hwords, hreads]
      · constructor <;> simp [hnot, hfaultless, hwords, hreads]

/-- Classification depends on the skeleton of the text only. -/
theorem classify_of_skeleton :
    (∀ sql : String, (∃ ls, Sql.Scans sql.toList ls) ∧
      ∀ ls, Sql.Scans sql.toList ls → Sql.Classified (Sql.skeleton ls) (classify sql)) ∧
    ∀ (sql sql' : String) (ls ls' : List Sql.Lexeme), Sql.Scans sql.toList ls →
      Sql.Scans sql'.toList ls' → Sql.skeleton ls = Sql.skeleton ls' →
        classify sql = classify sql' := by
  constructor
  · intro sql
    exact ⟨Sql.exists_scans sql.toList, fun ls h => h.classified⟩
  · intro sql sql' ls ls' h h' hskeleton
    rw [classify_eq, classify_eq, h.keywords_eq, h'.keywords_eq, hskeleton]

/-- Words in another case and other quoted text make no difference, though it looks like a second
statement. -/
theorem classify_of_skeleton_quoted :
    Sql.Classified [.word ['S', 'E', 'L', 'E', 'C', 'T'], .other ' ', .quoted '\'' '\'' []]
        (classify "select ';delete'") ∧
      classify "select ';delete'" = classify "SELECT ''" := by
  have hscan (text content : List Char) (htext : isPlainName text = true)
      (hcontent : '\'' ∉ content) : Sql.Scans (text ++ ' ' :: '\'' :: (content ++ ['\'']))
        [.word text, .other ' ', .quoted '\'' '\'' content] := by
    have hquoted : Sql.Begins ('\'' :: (content ++ ['\''])) (.quoted '\'' '\'' content) [] :=
      .quoted rfl (.of_not_mem hcontent) fun _ => nofun
    apply Sql.Scans.cons (.word htext (by rintro c ⟨⟩; rfl))
    apply Sql.Scans.cons (.other (by decide) rfl rfl (by simp) (by simp))
    exact .cons hquoted .nil
  have hdelete := hscan "select".toList ";delete".toList (by decide) (by decide)
  have hempty := hscan "SELECT".toList [] (by decide) (by decide)
  constructor
  · exact (classify_of_skeleton.1 "select ';delete'").2 _ hdelete
  · exact classify_of_skeleton.2 "select ';delete'" "SELECT ''" _ _ hdelete hempty (by decide)

end StatementGate
