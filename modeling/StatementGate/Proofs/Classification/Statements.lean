import StatementGate.Proofs.Classification.Reading
import StatementGate.Proofs.Query.Reading

/-! # Serialized statements are what they are classified as

The text of a serialized statement holds no character that opens quoted text or a comment and no
semicolon, and its first word is the keyword of its kind. So it is always classified, a selection as
a read and every other statement as a write. -/

namespace StatementGate

/-- The characters that statements are written with. -/
def Sql.isStatementChar (c : Char) : Bool :=
  isWordChar c || isOperatorChar c || [' ', '(', ')', ',', ':'].contains c

namespace Piece

theorem isStatementChar_symbol {op : CompareOp} (hop : op ≠ .like) :
    op.symbol.toList.all Sql.isStatementChar = true := by
  cases op with
  | like => exact absurd rfl hop
  | _ => decide

theorem isStatementChar_mark {s : String} (hs : isMark s = true) :
    s.toList.all Sql.isStatementChar = true := by
  simp only [isMark, Bool.or_eq_true, decide_eq_true_eq] at hs
  rcases hs with (rfl | rfl) | rfl
  all_goals decide

theorem isStatementChar_word {s : String} (hs : s.toList.all Sql.isWordChar = true) :
    s.toList.all Sql.isStatementChar = true := by
  rw [List.all_eq_true] at hs ⊢
  intro c hc
  rw [Sql.isStatementChar, hs c hc, Bool.true_or, Bool.true_or]

/-- Whatever is cut into words, marks, operators and placeholders is written with them. -/
theorem Lexed.isStatementChar {ps : Pieces} (h : Lexed ps) (next : Nat) :
    (textFrom next ps).toList.all Sql.isStatementChar = true := by
  induction h generalizing next with
  | nil => rfl
  | word hs _ _ ih =>
    rw [textFrom, String.toList_append, List.all_append, ih, Bool.and_true]
    exact isStatementChar_word (Bool.and_eq_true_iff.1 hs).2
  | mark hs _ ih =>
    rw [textFrom, String.toList_append, List.all_append, ih, Bool.and_true]
    exact isStatementChar_mark hs
  | operator hop _ ih =>
    rw [textFrom, textFrom, String.toList_append, String.toList_append, List.all_append,
      List.all_append, ih, isStatementChar_symbol hop]
    rfl
  | space _ ih =>
    rw [textFrom, String.toList_append, List.all_append, ih]
    rfl
  | bind _ _ ih =>
    have hname : (parameterName next).toList.all Sql.isWordChar = true := by
      rw [List.all_eq_true]
      intro c hc
      rw [Sql.isWordChar, isNamePart_parameterName hc, Bool.true_or]
    rw [textFrom, String.toList_append, String.toList_append, List.all_append, List.all_append, ih,
      isStatementChar_word hname]
    rfl

end Piece

namespace Sql

variable {c closing : Char} {s : List Char} {l : Lexeme} {ls : List Lexeme}

theorem closing?_of_isStatementChar (h : isStatementChar c = true) : closing? c = none := by
  cases hc : closing? c with
  | none => rfl
  | some closing =>
    have hopening := mem_of_closing? hc
    simp only [List.mem_cons, List.not_mem_nil, or_false] at hopening
    rcases hopening with rfl | rfl | rfl | rfl
    all_goals cases h

/-- A bare word or a character by itself. -/
def Lexeme.isBare : Lexeme → Bool
  | .word _ | .other _ => true
  | _ => false

/-- What is written with the characters of statements is scanned into bare words and characters. -/
theorem Scans.isBare (h : Scans s ls) (hs : ∀ c ∈ s, isStatementChar c = true) :
    ∀ l ∈ ls, l.isBare = true := by
  induction h with
  | nil => exact List.forall_mem_nil _
  | @cons s rest l ls hl _ ih =>
    have hrest : ∀ c ∈ rest, isStatementChar c = true := by
      rw [← hl.text_append, List.forall_mem_append] at hs
      exact hs.2
    refine List.forall_mem_cons.2 ⟨?_, ih hrest⟩
    cases hl with
    | word => rfl
    | other => rfl
    | quoted hopening => 
      have := closing?_of_isStatementChar (hs _ List.mem_cons_self)
      cases hopening.symm.trans this
    | openQuote hopening => 
      have := closing?_of_isStatementChar (hs _ List.mem_cons_self)
      cases hopening.symm.trans this
    | _ => cases hs _ List.mem_cons_self

theorem faultless_of_isBare (h : ∀ l ∈ ls, l.isBare = true) : Faultless false (skeleton ls) := by
  induction ls with
  | nil => exact faultless_nil
  | cons l ls ih =>
    rw [List.forall_mem_cons] at h
    rw [skeleton, List.map_cons, faultless_cons]
    cases l with
    | word => exact ⟨rfl, ih h.2⟩
    | other => exact ⟨rfl, ih h.2⟩
    | _ => cases h.1

end Sql

/-- A text of such characters that starts with a word is classified by its words. -/
theorem classify_of_isStatementChar {sql keyword rest : String}
    (hchars : sql.toList.all Sql.isStatementChar = true)
    (hkeyword : isPlainIdentifier keyword = true) (hsql : sql = keyword ++ (" " ++ rest)) :
    ∃ later, classify sql =
      .ok (if Sql.ReadsOnly (Ascii.upper keyword) later then .read else .write) := by
  obtain ⟨ls, hls⟩ := Sql.exists_scans (" " ++ rest).toList
  have hscan : Sql.Scans sql.toList (.word keyword.toList :: ls) := by
    rw [hsql, String.toList_append]
    apply Sql.Scans.cons (.word hkeyword _) hls
    rw [String.toList_append]
    rintro c ⟨⟩
    rfl
  have hfaultless := Sql.faultless_of_isBare (hscan.isBare (List.all_eq_true.1 hchars))
  refine ⟨(Sql.skeleton ls).filterMap Sql.Lexeme.word?, ?_⟩
  rw [classify_eq, hscan.keywords_eq, Sql.keywordsOf_eq_ok.2 ⟨hfaultless, rfl⟩]
  rfl

/-- Only the keyword of selections reads. -/
theorem StatementKind.readsOnly_keyword (kind : StatementKind) (later : List String) :
    Sql.ReadsOnly (Ascii.upper kind.keyword) later ↔ kind = .select := by
  have hupper : Ascii.upper kind.keyword = kind.keyword := by
    cases kind <;> decide
  rw [hupper, Sql.ReadsOnly]
  cases kind <;> simp [keyword]

namespace Statement

variable {s : Statement} {ps : Pieces}

theorem exists_pieces_eq (h : s.pieces = .ok ps) :
    ∃ rest, ps = .word s.kind.keyword :: .space :: rest := by
  cases s with
  | select s =>
    obtain ⟨_, _, h⟩ := bind_eq_ok.1 h
    obtain ⟨_, _, h⟩ := bind_eq_ok.1 h
    obtain ⟨_, _, h⟩ := bind_eq_ok.1 h
    obtain ⟨_, _, h⟩ := bind_eq_ok.1 h
    obtain ⟨_, _, h⟩ := bind_eq_ok.1 h
    obtain ⟨_, _, h⟩ := bind_eq_ok.1 h
    obtain ⟨_, _, h⟩ := bind_eq_ok.1 h
    cases h
    exact ⟨_, rfl⟩
  | insert s =>
    obtain ⟨_, _, rfl⟩ := Insert.pieces_eq_ok h
    exact ⟨_, rfl⟩
  | update s =>
    obtain ⟨_, _, _, _, rfl⟩ := Update.pieces_eq_ok h
    exact ⟨_, rfl⟩
  | delete s =>
    obtain ⟨_, _, h⟩ := bind_eq_ok.1 h
    obtain ⟨_, h⟩ := throwIf_eq_ok.1 h
    obtain ⟨_, _, h⟩ := bind_eq_ok.1 h
    cases h
    exact ⟨_, rfl⟩

theorem lexed_insert {s : Insert} (h : s.pieces = .ok ps) : Piece.Lexed ps := by
  obtain ⟨hentity, hcolumns, rfl⟩ := Insert.pieces_eq_ok h
  have hwords : ∀ text ∈ ["INSERT", "INTO", s.entity.table], Sql.isWord text = true := by
    simp [Sql.isWord_of_identifier hentity.1]
    decide
  have hnames : ∀ part ∈ (s.values.map Prod.fst).map fun column => [Piece.word column],
      Piece.Lexed part := by
    intro part hpart
    obtain ⟨column, hcolumn, rfl⟩ := List.mem_map.1 hpart
    exact .word (Sql.isWord_of_identifier (hcolumns column hcolumn)) rfl .nil
  have hvalues : ∀ part ∈ (s.values.map Prod.snd).map fun v => [Piece.bind v],
      Piece.Lexed part := by
    intro part hpart
    obtain ⟨v, _, rfl⟩ := List.mem_map.1 hpart
    exact .bind rfl .nil
  rw [List.append_assoc, List.append_assoc, List.cons_append]
  apply Piece.Lexed.words_append hwords (.space _) rfl
  apply (Piece.Lexed.separated_comma hnames).parenthesized.append _ rfl
  exact .phrase_append (by decide) (Piece.Lexed.separated_comma hvalues).parenthesized

theorem lexed (h : s.pieces = .ok ps) : Piece.Lexed ps := by
  by_cases hkind : s.kind = .insert
  · cases s with
    | insert s => exact lexed_insert h
    | _ => cases hkind
  · obtain ⟨head, joins, condition, closing, rfl, hlayout⟩ := exists_layout hkind h
    exact hlayout.lexed

end Statement

/-- A serialized statement is classified, as a read exactly if it is a selection and as a write
exactly if it intends to write. -/
theorem classify_of_serialize {s : Statement} {q : SerializedQuery} (h : s.serialize = .ok q) :
    ∃ c, classify q.sql = .ok c ∧ (c = .read ↔ q.kind = .select) ∧
      (c = .write ↔ q.writeIntent = true) := by
  obtain ⟨ps, hps, rfl⟩ := Statement.serialize_eq_ok h
  obtain ⟨rest, rfl⟩ := Statement.exists_pieces_eq hps
  have hchars := (Statement.lexed hps).isStatementChar 0
  have hkeyword : isPlainIdentifier s.kind.keyword = true := by
    cases s.kind <;> decide
  obtain ⟨later, hclass⟩ := classify_of_isStatementChar hchars hkeyword rfl
  simp only [StatementKind.readsOnly_keyword] at hclass
  refine ⟨_, hclass, ?_⟩
  change (_ ↔ s.kind = .select) ∧ (_ ↔ s.kind.isWrite = true)
  cases s.kind <;> simp [StatementKind.isWrite]

/-- A selection from a table, and of columns, that have the names of other keywords. -/
def namesakes : Select :=
  (Select.of ⟨"Delete", "delete", ["update", "values"]⟩).filter
    (.compare (.column ⟨none, "update"⟩) .eq (.literal (.text "'; DROP TABLE delete; --")))

theorem namesakes_read : ∃ q, (Statement.select namesakes).serialize = .ok q ∧
    q.sql = "SELECT update, values FROM delete WHERE update = :p0" ∧
    classify q.sql = .ok .read := by
  obtain ⟨c, hc, hread, _⟩ := @classify_of_serialize (.select namesakes) _ rfl
  rw [hread.2 rfl] at hc
  exact ⟨_, rfl, rfl, hc⟩

end StatementGate
