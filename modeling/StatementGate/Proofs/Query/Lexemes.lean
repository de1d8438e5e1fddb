import Mathlib.Data.List.SplitBy
import StatementGate.Proofs.Query.Clauses

/-! # Lexemes

The text of a statement as its reader cuts it up: words, placeholders, operators and single marks.
What the conditions and clauses of a statement are rendered to is cut where its pieces end. -/

namespace StatementGate

namespace Sql

def isWordChar (c : Char) : Bool := Ascii.isNamePart c || c == '.'

def isOperatorChar (c : Char) : Bool := c == '<' || c == '=' || c == '>'

/-- Whether a token that has come to `c` goes on with `d`. -/
def touches (c d : Char) : Bool :=
  (isWordChar c || c == ':') && isWordChar d || isOperatorChar c && isOperatorChar d

/-- The tokens of a text, each as long as it can be, without the blanks between them. -/
def tokens (text : String) : List String :=
  ((text.toList.splitBy touches).filter (· ≠ [' '])).map String.ofList

theorem tokens_append {a b : String}
    (h : ∀ c ∈ a.toList.getLast?, ∀ d ∈ b.toList.head?, touches c d = false) :
    tokens (a ++ b) = tokens a ++ tokens b := by
  rw [tokens, String.toList_append, List.splitBy_append h, List.filter_append, List.map_append]
  rfl

theorem tokens_eq_singleton {s : String} (hne : s ≠ "") (hblank : s ≠ " ")
    (h : s.toList.IsChain fun c d => touches c d = true) : tokens s = [s] := by
  have hne : s.toList ≠ [] := by simpa using hne
  have hblank : s.toList ≠ [' '] := fun heq => hblank (String.toList_injective heq)
  rw [tokens, List.splitBy_of_isChain hne h]
  simp [hblank]

/-- A word without a blank, a mark or an operator in it. -/
def isWord (s : String) : Bool := s ≠ "" && s.toList.all isWordChar

theorem pairwise_of_words {cs : List Char} (h : ∀ c ∈ cs, isWordChar c = true) :
    cs.Pairwise fun c d => touches c d = true := by
  rw [List.pairwise_iff_forall_sublist]
  intro c d hsub
  have hc := h c (hsub.subset (by simp))
  have hd := h d (hsub.subset (by simp))
  simp [touches, hc, hd]

theorem tokens_word {s : String} (h : isWord s = true) : tokens s = [s] := by
  simp only [isWord, Bool.and_eq_true, decide_eq_true_eq, List.all_eq_true] at h
  apply tokens_eq_singleton h.1
  · rintro rfl
    exact absurd (h.2 ' ' (by decide)) (by decide)
  · exact (pairwise_of_words h.2).isChain

theorem tokens_placeholder {name : String} (h : ∀ c ∈ name.toList, isWordChar c = true) :
    tokens (":" ++ name) = [":" ++ name] := by
  have hlist : (":" ++ name).toList = ':' :: name.toList := String.toList_append
  apply tokens_eq_singleton
  · simp
  · intro heq
    rw [heq] at hlist
    cases hlist
  · rw [hlist]
    apply List.Pairwise.isChain
    rw [List.pairwise_cons]
    refine ⟨?_, pairwise_of_words h⟩
    intro d hd
    simp [touches, h d hd]

theorem tokens_space (s : String) : tokens (" " ++ s) = tokens s := by
  rw [tokens_append]
  · rfl
  · intro c hc d _
    cases hc
    rfl

/-- A word ends before whatever is no character of words. -/
theorem touches_eq_false {c d : Char} (hc : isWordChar c = true) (hd : isWordChar d = false) :
    touches c d = false := by
  have hoperator : isOperatorChar c = false := by
    rw [Bool.eq_false_iff]
    intro h
    simp only [isOperatorChar, Bool.or_eq_true, beq_iff_eq] at h
    rcases h with (rfl | rfl) | rfl
    all_goals cases hc
  simp [touches, hd, hoperator]

theorem isWord_of_identifier {s : String} (h : isPlainIdentifier s = true) : isWord s = true := by
  have hne : s ≠ "" := by
    rintro rfl
    cases h
  have hchars : ∀ c ∈ s.toList, isWordChar c = true := by
    intro c hc
    rw [isWordChar, isNamePart_of_mem_plainName h hc, Bool.true_or]
  simp only [isWord, Bool.and_eq_true, decide_eq_true_eq, List.all_eq_true]
  exact ⟨hne, hchars⟩

theorem isWord_append {a b : String} (ha : isWord a = true) (hb : isWord b = true) :
    isWord (a ++ b) = true := by
  simp only [isWord, Bool.and_eq_true, decide_eq_true_eq, List.all_eq_true] at ha hb ⊢
  constructor
  · intro h
    exact ha.1 (String.append_eq_empty_iff.1 h).1
  · intro c hc
    rw [String.toList_append, List.mem_append] at hc
    rcases hc with hc | hc
    · exact ha.2 c hc
    · exact hb.2 c hc

/-- A word that starts with no digit. -/
def isName (s : String) : Bool := isWord s && s.toList.head?.any Ascii.isNameStart

theorem isWord_of_isName {s : String} (h : isName s = true) : isWord s = true :=
  (Bool.and_eq_true_iff.1 h).1

theorem isName_of_identifier {s : String} (h : isPlainIdentifier s = true) : isName s = true := by
  rw [isName, isWord_of_identifier h, Bool.true_and]
  rw [isPlainIdentifier] at h
  cases hs : s.toList with
  | nil =>
    rw [hs] at h
    cases h
  | cons c cs =>
    rw [hs] at h
    exact (Bool.and_eq_true_iff.1 h).1

theorem isName_append {a b : String} (ha : isName a = true) (hb : isWord b = true) :
    isName (a ++ b) = true := by
  obtain ⟨hword, hstart⟩ := Bool.and_eq_true_iff.1 ha
  have hne : a.toList ≠ [] := by
    intro h
    rw [h] at hstart
    cases hstart
  rw [isName, isWord_append hword hb, Bool.true_and, String.toList_append,
    List.head?_append_of_ne_nil _ hne, hstart]

end Sql

namespace Piece

/-- The tokens of pieces whose first value has the given number. -/
def spell : (next : Nat) → Pieces → List String
  | _, [] => []
  | next, .word s :: rest | next, .symbol s :: rest => s :: spell next rest
  | next, .space :: rest => spell next rest
  | next, .bind _ :: rest => (":" ++ parameterName next) :: spell (next + 1) rest

theorem spell_append (next : Nat) (ps qs : Pieces) :
    spell next (ps ++ qs) = spell next ps ++ spell (next + (values ps).length) qs := by
  induction ps generalizing next with
  | nil => rfl
  | cons p ps ih =>
    cases p with
    | bind v =>
      simp only [List.cons_append, spell, values, ih, List.length_cons]
      rw [Nat.add_assoc, Nat.add_comm 1]
    | _ => simp only [List.cons_append, spell, values, ih]

/-- A mark that is a token by itself wherever it stands. -/
def isMark (s : String) : Bool := s = "(" || s = ")" || s = ","

/-- Pieces whose text is cut where they end. -/
inductive Lexed : Pieces → Prop
  | nil : Lexed []
  | word {s : String} {ps : Pieces} (hs : Sql.isWord s = true) (hnext : startsWithWord ps = false)
      (h : Lexed ps) : Lexed (.word s :: ps)
  | mark {s : String} {ps : Pieces} (hs : isMark s = true) (h : Lexed ps) : Lexed (.symbol s :: ps)
  | operator {op : CompareOp} {ps : Pieces} (hop : op ≠ .like) (h : Lexed ps) :
      Lexed (.symbol op.symbol :: .space :: ps)
  | space {ps : Pieces} (h : Lexed ps) : Lexed (.space :: ps)
  | bind {v : Scalar} {ps : Pieces} (hnext : startsWithWord ps = false) (h : Lexed ps) :
      Lexed (.bind v :: ps)

/-- More text behind it leaves the head of a text. -/
theorem head_append {a : String} {c : Char} (ha : a.toList.head? = some c) (b : String)
    {P : Char → Prop} (hc : P c) : ∀ d ∈ (a ++ b).toList.head?, P d := by
  intro d hd
  rw [String.toList_append, List.head?_append, ha] at hd
  cases hd
  exact hc

namespace Lexed

variable {ps qs : Pieces}

theorem head_textFrom (h : Lexed ps) (hstart : startsWithWord ps = false) (next : Nat) :
    ∀ d ∈ (textFrom next ps).toList.head?, Sql.isWordChar d = false := by
  cases h with
  | nil => exact fun _ hd => nomatch hd
  | word => cases hstart
  | mark hs =>
    simp only [isMark, Bool.or_eq_true, decide_eq_true_eq] at hs
    rcases hs with (rfl | rfl) | rfl
    all_goals exact head_append rfl _ rfl
  | @operator op _ hop =>
    cases op with
    | like => exact absurd rfl hop
    | _ => exact head_append rfl _ rfl
  | space => exact head_append rfl _ rfl
  | bind =>
    rw [textFrom, String.append_assoc]
    exact head_append rfl _ rfl

/-- The text of pieces is cut into their tokens. -/
theorem tokens_textFrom (h : Lexed ps) (next : Nat) :
    Sql.tokens (textFrom next ps) = spell next ps := by
  induction h generalizing next with
  | nil => rfl
  | @word s ps hs hnext h ih =>
    rw [textFrom, spell, Sql.tokens_append, Sql.tokens_word hs, ih, List.singleton_append]
    intro c hc d hd
    simp only [Sql.isWord, Bool.and_eq_true, List.all_eq_true] at hs
    exact Sql.touches_eq_false (hs.2 c (List.mem_of_getLast? hc)) (h.head_textFrom hnext _ d hd)
  | mark hs _ ih =>
    simp only [isMark, Bool.or_eq_true, decide_eq_true_eq] at hs
    rcases hs with (rfl | rfl) | rfl
    all_goals
      rw [textFrom, spell, Sql.tokens_append, ih]
      · rfl
      · rintro c hc d _
        cases hc
        rfl
  | @operator op ps hop _ ih =>
    rw [textFrom, textFrom, spell, spell, Sql.tokens_append, Sql.tokens_space, ih]
    · cases op with
      | like => exact absurd rfl hop
      | _ => rfl
    · intro c hc
      cases op with
      | like => exact absurd rfl hop
      | _ =>
        cases hc
        exact head_append rfl _ rfl
  | space _ ih => rw [textFrom, spell, Sql.tokens_space, ih]
  | @bind v ps hnext h ih =>
    have hname : ∀ c ∈ (parameterName next).toList, Sql.isWordChar c = true := by
      intro c hc
      rw [Sql.isWordChar, isNamePart_parameterName hc, Bool.true_or]
    rw [textFrom, spell, Sql.tokens_append, Sql.tokens_placeholder hname, ih, List.singleton_append]
    intro c hc d hd
    have hlast : Sql.isWordChar c = true := by
      have hne : (parameterName next).toList ≠ [] := by simp [toList_parameterName]
      rw [String.toList_append, List.getLast?_append_of_ne_nil _ hne] at hc
      exact hname c (List.mem_of_getLast? hc)
    exact Sql.touches_eq_false hlast (h.head_textFrom hnext _ d hd)

theorem append (h : Lexed ps) (h' : Lexed qs) (hstart : startsWithWord qs = false) :
    Lexed (ps ++ qs) := by
  induction h with
  | nil => exact h'
  | word hs hnext _ ih => exact .word hs (startsWithWord_append hnext hstart) ih
  | mark hs _ ih => exact .mark hs ih
  | operator hop _ ih => exact .operator hop ih
  | space _ ih => exact .space ih
  | bind hnext _ ih => exact .bind (startsWithWord_append hnext hstart) ih

theorem parenthesized (h : Lexed ps) : Lexed (Piece.parenthesized ps) :=
  .mark rfl (h.append (.mark rfl .nil) rfl)

theorem words_append {texts : List String} (htexts : ∀ s ∈ texts, Sql.isWord s = true)
    (h : Lexed ps) (hstart : startsWithWord ps = false) : Lexed (words texts ++ ps) := by
  induction texts with
  | nil => exact h
  | cons s texts ih =>
    rw [List.forall_mem_cons] at htexts
    cases texts with
    | nil => exact .word htexts.1 hstart h
    | cons s' texts => exact .word htexts.1 rfl (.space (ih htexts.2))

theorem phrase_append {texts : List String} (htexts : ∀ s ∈ texts, Sql.isWord s = true)
    (h : Lexed ps) : Lexed (phrase texts ++ ps) := by
  rw [phrase, List.cons_append, List.cons_append, List.append_assoc]
  exact .space (words_append htexts (.space h) rfl)

/-- Parts with a separator between them that is no part of a word. -/
theorem separated {separator : Pieces} (hstart : startsWithWord separator = false)
    (hne : separator ≠ []) (hseparator : ∀ ps, Lexed ps → Lexed (separator ++ ps))
    {parts : List Pieces} (h : ∀ part ∈ parts, Lexed part) :
    Lexed (Piece.separated separator parts) := by
  induction parts with
  | nil => exact .nil
  | cons part parts ih =>
    rw [List.forall_mem_cons] at h
    cases parts with
    | nil => exact h.1
    | cons part' parts =>
      rw [Piece.separated, List.append_assoc]
      · exact h.1.append (hseparator _ (ih h.2)) (startsWithWord_append_of_ne_nil hne hstart _)
      · simp

theorem separated_comma {parts : List Pieces} (h : ∀ part ∈ parts, Lexed part) :
    Lexed (Piece.separated comma parts) :=
  separated rfl (by simp [comma]) (fun _ h => .mark rfl (.space h)) h

theorem separated_phrase {texts : List String} (htexts : ∀ s ∈ texts, Sql.isWord s = true)
    {parts : List Pieces} (h : ∀ part ∈ parts, Lexed part) :
    Lexed (Piece.separated (phrase texts) parts) :=
  separated rfl (by simp [phrase]) (fun _ h => h.phrase_append htexts) h

end Lexed

end Piece

open Piece (Lexed)

variable {scope : Scope} {ps : Pieces}

/-- A column is one word, and starts as its table or itself does. -/
theorem Scope.column_eq_name (hscope : scope.Plain) {ref : ColumnRef}
    (h : scope.column ref = .ok ps) : ∃ text, Sql.isName text = true ∧ ps = [.word text] := by
  obtain ⟨table, htable, rfl⟩ := column_eq_ok h
  obtain ⟨hname, e, he, rfl⟩ := resolve_eq_ok htable
  refine ⟨_, ?_, rfl⟩
  rw [columnText]
  split
  · rw [String.append_assoc]
    apply Sql.isName_append (Sql.isName_of_identifier (hscope e he).1)
    exact Sql.isWord_append (by decide) (Sql.isWord_of_identifier hname)
  · exact Sql.isName_of_identifier hname

mutual

theorem Operand.lexed (hscope : scope.Plain) (operand : Operand) {ps : Pieces}
    (h : operand.render scope = .ok ps) : Lexed ps := by
  cases operand with
  | column ref =>
    rw [Operand.render] at h
    obtain ⟨text, htext, rfl⟩ := Scope.column_eq_name hscope h
    exact .word (Sql.isWord_of_isName htext) rfl .nil
  | literal value =>
    rw [Operand.render] at h
    cases h
    exact .bind rfl .nil
  | function name arguments =>
    rw [Operand.render] at h
    obtain ⟨f, _, h⟩ := bind_eq_ok.1 h
    obtain ⟨parts, hparts, h⟩ := bind_eq_ok.1 h
    cases h
    apply Lexed.word _ rfl (Lexed.separated_comma (Operand.lexedAll hscope arguments hparts)).parenthesized
    cases f <;> decide
  | window name partition =>
    rw [Operand.render] at h
    cases h

theorem Operand.lexedAll (hscope : scope.Plain) (operands : List Operand) {parts : List Pieces}
    (h : Operand.renderAll scope operands = .ok parts) : ∀ part ∈ parts, Lexed part := by
  cases operands with
  | nil =>
    rw [Operand.renderAll] at h
    cases h
    exact List.forall_mem_nil _
  | cons operand rest =>
    rw [Operand.renderAll] at h
    obtain ⟨part, hpart, h⟩ := bind_eq_ok.1 h
    obtain ⟨parts, hparts, h⟩ := bind_eq_ok.1 h
    cases h
    exact List.forall_mem_cons.2
      ⟨Operand.lexed hscope operand hpart, Operand.lexedAll hscope rest hparts⟩

end

namespace Predicate

theorem lexed_constant (truth : Bool) : Lexed (constant truth) := by
  cases truth
  all_goals exact .word (by decide) rfl (.space (.operator (by decide : CompareOp.eq ≠ .like)
    (.word (by decide) rfl .nil)))

theorem lexed_operator (op : CompareOp) (h : Lexed ps) :
    Lexed (.space :: operator op :: .space :: ps) := by
  cases op with
  | like => exact .space (.word (by decide) rfl (.space h))
  | eq => exact .space (.operator (by decide : CompareOp.eq ≠ .like) h)
  | ne => exact .space (.operator (by decide : CompareOp.ne ≠ .like) h)
  | lt => exact .space (.operator (by decide : CompareOp.lt ≠ .like) h)
  | le => exact .space (.operator (by decide : CompareOp.le ≠ .like) h)
  | gt => exact .space (.operator (by decide : CompareOp.gt ≠ .like) h)
  | ge => exact .space (.operator (by decide : CompareOp.ge ≠ .like) h)

end Predicate

mutual

theorem Predicate.lexed (hscope : scope.Plain) (p : Predicate) {ps : Pieces}
    (h : p.render scope = .ok ps) : Lexed ps := by
  cases p with
  | compare left op right =>
    rw [Predicate.render] at h
    obtain ⟨_, h⟩ := throwIf_eq_ok.1 h
    obtain ⟨l, hl, h⟩ := bind_eq_ok.1 h
    obtain ⟨r, hr, h⟩ := bind_eq_ok.1 h
    cases h
    rw [List.append_assoc]
    exact (Operand.lexed hscope left hl).append
      (Predicate.lexed_operator op (Operand.lexed hscope right hr)) rfl
  | member operand values negated =>
    rw [Predicate.render] at h
    obtain ⟨_, h⟩ := throwIf_eq_ok.1 h
    split at h
    · obtain ⟨_, _, h⟩ := bind_eq_ok.1 h
      cases h
      exact Predicate.lexed_constant negated
    · obtain ⟨o, ho, h⟩ := bind_eq_ok.1 h
      cases h
      have hvalues : ∀ part ∈ values.map fun v => [.bind v], Lexed part := by
        intro part hpart
        obtain ⟨v, _, rfl⟩ := List.mem_map.1 hpart
        exact .bind rfl .nil
      rw [List.append_assoc]
      apply (Operand.lexed hscope operand ho).append _ rfl
      apply Lexed.phrase_append _ (Lexed.separated_comma hvalues).parenthesized
      cases negated <;> decide
  | isNull operand negated =>
    rw [Predicate.render] at h
    obtain ⟨o, ho, h⟩ := bind_eq_ok.1 h
    cases h
    apply (Operand.lexed hscope operand ho).append (.space _) rfl
    rw [← List.append_nil (Piece.words _)]
    apply Lexed.words_append _ .nil rfl
    cases negated <;> decide
  | all items =>
    rw [Predicate.render] at h
    split at h
    · cases h
      exact Predicate.lexed_constant true
    · obtain ⟨parts, hparts, h⟩ := bind_eq_ok.1 h
      cases h
      exact Lexed.separated_phrase (by decide) (Predicate.lexedAll hscope items hparts)
  | any items =>
    rw [Predicate.render] at h
    split at h
    · cases h
      exact Predicate.lexed_constant false
    · obtain ⟨parts, hparts, h⟩ := bind_eq_ok.1 h
      cases h
      exact Lexed.separated_phrase (by decide) (Predicate.lexedAll hscope items hparts)
  | not inner =>
    rw [Predicate.render] at h
    obtain ⟨part, hpart, h⟩ := bind_eq_ok.1 h
    cases h
    exact .word (by decide) rfl (.space (Predicate.lexed hscope inner hpart).parenthesized)

theorem Predicate.lexedAll (hscope : scope.Plain) (items : List Predicate) {parts : List Pieces}
    (h : Predicate.renderItems scope items = .ok parts) : ∀ part ∈ parts, Lexed part := by
  cases items with
  | nil =>
    rw [Predicate.renderItems] at h
    cases h
    exact List.forall_mem_nil _
  | cons item rest =>
    rw [Predicate.renderItems] at h
    obtain ⟨part, hpart, h⟩ := bind_eq_ok.1 h
    obtain ⟨parts, hparts, h⟩ := bind_eq_ok.1 h
    cases h
    apply List.forall_mem_cons.2 ⟨_, Predicate.lexedAll hscope rest hparts⟩
    have hitem := Predicate.lexed hscope item hpart
    split
    · exact hitem.parenthesized
    · exact hitem

end

end StatementGate
