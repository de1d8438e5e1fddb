import StatementGate.Proofs.Query.Meaning

/-! # Reading statements

A reader of the conditions in a statement's text: those of its joins and the one behind `WHERE`.
What it reads is what was asked for, under any valuation of the tests in it. -/

namespace StatementGate

open Piece (Lexed spell values)

namespace Sql

/-- Reads the joins at the head of tokens and returns the conditions of them. -/
def readJoins (tokens : List String) : Option (List Formula × List String) :=
  match tokens with
  | [] => some ([], [])
  | kind :: rest =>
    if kind = "INNER" ∨ kind = "LEFT" then
      match rest with
      | "JOIN" :: _ :: "ON" :: condition =>
        match condition? condition with
        | none => none
        | some (f, after) =>
          if after.length ≤ condition.length then
            (readJoins after).map fun (fs, last) => (f :: fs, last)
          else none
      | _ => none
    else some ([], kind :: rest)
termination_by tokens.length

def readWhere : List String → Option (Option Formula × List String)
  | "WHERE" :: tokens => (condition? tokens).map fun (f, rest) => (some f, rest)
  | tokens => some (none, tokens)

/-- The conditions of a statement, and what stands behind them. -/
structure Conditions where
  ons : List Formula
  condition : Option Formula
  rest : List String

def readConditions (tokens : List String) : Option Conditions := do
  let (ons, tokens) ← readJoins tokens
  let (condition, rest) ← readWhere tokens
  pure ⟨ons, condition, rest⟩

/-- Tokens that are none or start with one of the given ones. -/
def Starts (starts : List String) (tokens : List String) : Prop := ∀ t ∈ tokens.head?, t ∈ starts

/-- The words that may follow a statement's conditions. -/
def closing : List String := ["ORDER", "LIMIT", "OFFSET"]

theorem Starts.ends {starts stops tokens : List String} (h : Starts starts tokens)
    (hapart : ∀ t ∈ starts, t ∉ stops) : Ends stops tokens :=
  fun t ht => hapart t (h t ht)

theorem Starts.mono {starts starts' tokens : List String} (h : Starts starts tokens)
    (hsub : ∀ t ∈ starts, t ∈ starts') : Starts starts' tokens :=
  fun t ht => hsub t (h t ht)

theorem starts_cons {starts tokens : List String} {t : String} (h : t ∈ starts) :
    Starts starts (t :: tokens) := by
  rintro u ⟨⟩
  exact h

theorem readJoins_of_starts {tokens : List String} (h : Starts ("WHERE" :: closing) tokens) :
    readJoins tokens = some ([], tokens) := by
  cases tokens with
  | nil => rw [readJoins]
  | cons kind rest =>
    have hkind : ¬(kind = "INNER" ∨ kind = "LEFT") := by
      have := h kind rfl
      rintro (rfl | rfl)
      · exact absurd this (by decide)
      · exact absurd this (by decide)
    unfold readJoins
    exact if_neg hkind

theorem readWhere_of_starts {tokens : List String} (h : Starts closing tokens) :
    readWhere tokens = some (none, tokens) := by
  unfold readWhere
  split
  · exact absurd (h "WHERE" rfl) (by decide)
  · rfl

theorem readJoins_join (kind : JoinKind) (table : String) {tokens after : List String} {f : Formula}
    (h : condition? tokens = some (f, after)) (hlength : after.length ≤ tokens.length) :
    readJoins (kind.keywords ++ table :: "ON" :: tokens) =
      (readJoins after).map fun (fs, last) => (f :: fs, last) := by
  cases kind
  all_goals
    simp only [JoinKind.keywords, List.cons_append, List.nil_append]
    rw [readJoins, if_pos (by decide), h]
    dsimp only
    rw [if_pos hlength]

end Sql

namespace Select

variable {scope : Scope} {joins : List Join} {parts : List Pieces}

theorem spell_join (j : Join) (on qs : Pieces) (next : Nat) :
    spell next (Piece.phrase j.kind.keywords ++ .word j.entity.table :: Piece.phrase ["ON"] ++ on
      ++ qs) = j.kind.keywords ++ j.entity.table :: "ON" ::
        (spell next on ++ spell (next + (values on).length) qs) := by
  rw [List.append_assoc, List.append_assoc, List.cons_append, Piece.spell_phrase, spell,
    Piece.spell_phrase, Piece.spell_append]
  rfl

theorem joins_lexed (hscope : scope.Plain) (hjoins : ∀ j ∈ joins, j.entity.Plain)
    (h : List.Forall₂ (fun j part => joinPieces scope j = .ok part) joins parts) :
    Lexed parts.flatten := by
  induction h with
  | nil => exact .nil
  | @cons j part joins parts hpart hparts ih =>
    rw [List.forall_mem_cons] at hjoins
    obtain ⟨on, hon, hpart⟩ := bind_eq_ok.1 hpart
    cases hpart
    have hapart := (joins_clause hscope hjoins.2 hparts).apart
    have hlexed := (j.on.lexed hscope hon).append (ih hjoins.2) hapart
    rw [List.flatten_cons, List.append_assoc, List.append_assoc, List.cons_append]
    apply Lexed.phrase_append
    · cases j.kind <;> decide
    · exact .word (Sql.isWord_of_identifier hjoins.1.1) rfl (.phrase_append (by decide) hlexed)

/-- Joins start with what cannot go on with a condition. -/
theorem joins_starts
    (h : List.Forall₂ (fun j part => joinPieces scope j = .ok part) joins parts) (next : Nat)
    {rest : List String} (hrest : Sql.Starts ("WHERE" :: Sql.closing) rest) :
    Sql.Starts ("INNER" :: "LEFT" :: "WHERE" :: Sql.closing)
      (spell next parts.flatten ++ rest) := by
  cases h with
  | nil =>
    apply hrest.mono
    intro t ht
    exact List.mem_cons_of_mem _ (List.mem_cons_of_mem _ ht)
  | @cons j part joins parts hpart hparts =>
    obtain ⟨on, _, hpart⟩ := bind_eq_ok.1 hpart
    cases hpart
    rw [List.flatten_cons, spell_join]
    cases j.kind
    all_goals exact Sql.starts_cons (by decide)

/-- Each join is read with the condition it was given. -/
theorem readJoins_joins (hscope : scope.Plain)
    (h : List.Forall₂ (fun j part => joinPieces scope j = .ok part) joins parts) (next : Nat)
    {rest : List String} (hrest : Sql.Starts ("WHERE" :: Sql.closing) rest) :
    ∃ fs, Sql.readJoins (spell next parts.flatten ++ rest) = some (fs, rest) ∧
      ∀ atoms, fs.map (Sql.Formula.eval atoms) =
        Predicate.truthEach scope atoms next (joins.map fun j => j.on) := by
  induction h generalizing next with
  | nil => exact ⟨[], Sql.readJoins_of_starts hrest, fun _ => rfl⟩
  | @cons j part joins parts hpart hparts ih =>
    obtain ⟨on, hon, hpart⟩ := bind_eq_ok.1 hpart
    cases hpart
    have hends := (joins_starts hparts (next + (values on).length) hrest).ends
      (by decide : ∀ t ∈ _, t ∉ ["OR", "AND", "("])
    obtain ⟨f, hf, heval⟩ := Predicate.condition?_eq_some hscope hon next hends
    obtain ⟨fs, hfs, hevals⟩ := ih (next + (values on).length)
    refine ⟨f :: fs, ?_, ?_⟩
    · rw [List.flatten_cons, spell_join, List.append_assoc, List.cons_append, List.cons_append,
        List.append_assoc, Sql.readJoins_join j.kind j.entity.table hf (by simp), hfs]
      rfl
    · intro atoms
      rw [List.map_cons, List.map_cons, Predicate.truthEach, heval, hevals,
        (j.on.renders hscope hon).values_eq]

end Select

section Where

variable {scope : Scope} {p : Option Predicate} {condition : Pieces} {rest : List String}

theorem wherePieces_starts (h : wherePieces scope p = .ok condition) (next : Nat)
    (hrest : Sql.Starts Sql.closing rest) :
    Sql.Starts ("WHERE" :: Sql.closing) (spell next condition ++ rest) := by
  rcases wherePieces_eq_ok h with rfl | ⟨qs, rfl⟩
  · exact hrest.mono fun _ => List.mem_cons_of_mem _
  · exact Sql.starts_cons List.mem_cons_self

theorem wherePieces_lexed (hscope : scope.Plain) (h : wherePieces scope p = .ok condition) :
    Lexed condition := by
  cases p with
  | none =>
    cases h
    exact .nil
  | some p =>
    obtain ⟨ps, hps, h⟩ := bind_eq_ok.1 h
    cases h
    exact .phrase_append (by decide) (p.lexed hscope hps)

/-- The condition behind `WHERE` is read as it was given. -/
theorem readWhere_wherePieces (hscope : scope.Plain) (h : wherePieces scope p = .ok condition)
    (next : Nat) (hrest : Sql.Starts Sql.closing rest) :
    ∃ f, Sql.readWhere (spell next condition ++ rest) = some (f, rest) ∧
      ∀ atoms, f.map (Sql.Formula.eval atoms) =
        p.map (Predicate.truth scope atoms next) := by
  cases p with
  | none =>
    cases h
    exact ⟨none, Sql.readWhere_of_starts hrest, fun _ => rfl⟩
  | some p =>
    obtain ⟨ps, hps, h⟩ := bind_eq_ok.1 h
    cases h
    have hends := hrest.ends (by decide : ∀ t ∈ _, t ∉ ["OR", "AND", "("])
    obtain ⟨f, hf, heval⟩ := Predicate.condition?_eq_some hscope hps next hends
    refine ⟨some f, ?_, fun atoms => congrArg some (heval atoms)⟩
    rw [Piece.spell_phrase, List.singleton_append, List.cons_append, Sql.readWhere, hf]
    rfl

end Where

namespace Piece

/-- A list of names. -/
def names (texts : List String) : Pieces := separated comma (texts.map fun text => [.word text])

theorem spell_names (next : Nat) (texts : List String) :
    spell next (names texts) = texts.intersperse "," := by
  induction texts with
  | nil => rfl
  | cons text texts ih =>
    cases texts with
    | nil => rfl
    | cons text' texts =>
      rw [names, List.map_cons, List.map_cons, spell_separated spell_comma]
      exact congrArg (fun ts => text :: "," :: ts) ih

theorem names_lexed {texts : List String} (h : ∀ text ∈ texts, Sql.isName text = true) :
    Lexed (names texts) := by
  apply Lexed.separated_comma
  intro part hpart
  obtain ⟨text, htext, rfl⟩ := List.mem_map.1 hpart
  exact .word (Sql.isWord_of_isName (h text htext)) rfl .nil

theorem exists_names {parts : List Pieces}
    (h : ∀ part ∈ parts, ∃ text, Sql.isName text = true ∧ part = [.word text]) :
    ∃ texts : List String, (∀ text ∈ texts, Sql.isName text = true) ∧
      parts = texts.map fun text => [.word text] := by
  induction parts with
  | nil => exact ⟨[], List.forall_mem_nil _, rfl⟩
  | cons part parts ih =>
    rw [List.forall_mem_cons] at h
    obtain ⟨text, htext, rfl⟩ := h.1
    obtain ⟨texts, htexts, rfl⟩ := ih h.2
    exact ⟨text :: texts, List.forall_mem_cons.2 ⟨htext, htexts⟩, rfl⟩

end Piece

theorem Update.spell_assignments (next : Nat) (assignments : List (String × Scalar)) :
    spell next (Piece.separated Piece.comma (assignments.map assignmentPieces)) =
      [","].intercalate
        ((assignments.zipIdx next).map fun (a, i) => [a.1, "=", Piece.placeholder i]) := by
  induction assignments generalizing next with
  | nil => rfl
  | cons a assignments ih =>
    cases assignments with
    | nil => rfl
    | cons a' assignments =>
      have hvalues : (values (assignmentPieces a)).length = 1 := rfl
      rw [List.map_cons, List.map_cons, Piece.spell_separated Piece.spell_comma, ← List.map_cons,
        hvalues, ih]
      simp only [List.zipIdx_cons, List.map_cons, List.intercalate_cons_cons, List.append_assoc,
        List.singleton_append]
      rfl

theorem columnList_eq_names {scope : Scope} (hscope : scope.Plain) {refs : List ColumnRef}
    {ps : Pieces} (h : columnList scope refs = .ok ps) :
    ∃ texts, (∀ text ∈ texts, Sql.isName text = true) ∧ ps = Piece.names texts := by
  obtain ⟨parts, hparts, h⟩ := bind_eq_ok.1 h
  cases h
  have hnames : ∀ part ∈ parts, ∃ text, Sql.isName text = true ∧ part = [.word text] := by
    intro part hpart
    obtain ⟨ref, _, href⟩ := exists_of_mem_mapM hparts hpart
    exact Scope.column_eq_name hscope href
  obtain ⟨texts, htexts, rfl⟩ := Piece.exists_names hnames
  exact ⟨texts, htexts, rfl⟩

theorem Select.outputPieces_eq_names {s : Select} {scope : Scope} (hscope : scope.Plain)
    (htarget : s.entity.Plain) {ps : Pieces} (h : s.outputPieces scope = .ok ps) :
    ∃ texts, (∀ text ∈ texts, Sql.isName text = true) ∧ ps = Piece.names texts := by
  simp only [outputPieces] at h
  split at h
  · obtain ⟨refs, _, h⟩ := bind_eq_ok.1 h
    exact columnList_eq_names hscope h
  · split at h
    · cases h
      exact ⟨s.entity.columns, fun c hc => Sql.isName_of_identifier (htarget.2 c hc), rfl⟩
    · exact columnList_eq_names hscope h

namespace Statement

def scope (s : Statement) : Scope := ⟨s.entity, s.joins.map fun j => j.entity⟩

/-- The tokens of a statement up to its conditions. -/
def IsHead : Statement → List String → Prop
  | .select s, head => ∃ columns : List String, (∀ column ∈ columns, Sql.isName column = true) ∧
      head = "SELECT" :: (columns.intersperse "," ++ ["FROM", s.entity.table])
  | .insert _, _ => False
  | .update s, head =>
    head = "UPDATE" :: s.entity.table :: "SET" :: [","].intercalate
      (s.assignments.zipIdx.map fun (a, i) => [a.1, "=", Piece.placeholder i])
  | .delete s, head => head = ["DELETE", "FROM", s.entity.table]

/-- Pieces behind the conditions of a statement. -/
structure Closing (ps : Pieces) : Prop where
  lexed : Lexed ps
  starts : ps = [] ∨ ∃ keyword ∈ Sql.closing, ∃ rest, ps = .space :: .word keyword :: rest

/-- The pieces of a statement: its head, its joins, its condition, and what orders and pages it. -/
structure Layout (s : Statement) (head joins condition closing : Pieces) : Prop where
  plain : s.scope.Plain
  isHead : s.IsHead (spell 0 head)
  head_lexed : Lexed head
  head_values : (values head).length = s.assignments.length
  joins : ∃ parts, List.Forall₂ (fun j part => Select.joinPieces s.scope j = .ok part) s.joins parts ∧
    joins = parts.flatten
  condition : wherePieces s.scope s.predicate = .ok condition
  unclosed : s.kind ≠ .select → closing = []
  closing : Closing closing

namespace Closing

variable {ps qs : Pieces}

theorem nil : Closing [] := ⟨.nil, .inl rfl⟩

theorem startsWithWord (h : Closing ps) : Piece.startsWithWord ps = false := by
  rcases h.starts with rfl | ⟨keyword, _, rest, rfl⟩
  · rfl
  · rfl

theorem append (h : Closing ps) (h' : Closing qs) : Closing (ps ++ qs) := by
  refine ⟨h.lexed.append h'.lexed h'.startsWithWord, ?_⟩
  rcases h.starts with rfl | ⟨keyword, hkeyword, rest, rfl⟩
  · exact h'.starts
  · exact .inr ⟨keyword, hkeyword, rest ++ qs, rfl⟩

theorem spell_starts (h : Closing ps) (next : Nat) : Sql.Starts Sql.closing (spell next ps) := by
  rcases h.starts with rfl | ⟨keyword, hkeyword, rest, rfl⟩
  · rintro _ ⟨⟩
  · exact Sql.starts_cons hkeyword

theorem ofPaging {keyword : String} (hword : Sql.isWord keyword = true)
    (hkeyword : keyword ∈ Sql.closing) {n : Option Nat} (h : pagingPieces keyword n = .ok ps) :
    Closing ps := by
  cases n with
  | none =>
    cases h
    exact .nil
  | some n =>
    unfold pagingPieces at h
    dsimp only at h
    split at h
    · cases h
      refine ⟨.phrase_append (List.forall_mem_singleton.2 hword) (.bind rfl .nil), .inr ?_⟩
      exact ⟨keyword, hkeyword, _, rfl⟩
    · cases h

theorem ofOrder {scope : Scope} (hscope : scope.Plain) {s : Select}
    (h : s.orderPieces scope = .ok ps) : Closing ps := by
  simp only [Select.orderPieces] at h
  split at h
  · cases h
    exact .nil
  · obtain ⟨keys, hkeys, h⟩ := bind_eq_ok.1 h
    cases h
    have hlexed : ∀ part ∈ keys, Lexed part := by
      intro part hpart
      obtain ⟨⟨column, direction⟩, _, hkey⟩ := exists_of_mem_mapM hkeys hpart
      obtain ⟨name, hname, hkey⟩ := bind_eq_ok.1 hkey
      cases hkey
      obtain ⟨text, htext, rfl⟩ := Scope.column_eq_name hscope hname
      have hdirection : Sql.isWord direction.keyword = true := by
        cases direction <;> decide
      exact .word (Sql.isWord_of_isName htext) rfl (.space (.word hdirection rfl .nil))
    refine ⟨.phrase_append (by decide) (.separated_comma hlexed), .inr ?_⟩
    exact ⟨"ORDER", by decide, _, rfl⟩

end Closing

theorem exists_layout_select {s : Select} {ps : Pieces} (h : s.pieces = .ok ps) :
    ∃ head joins condition closing, ps = head ++ (joins ++ (condition ++ closing)) ∧
      (select s).Layout head joins condition closing := by
  obtain ⟨output, joins, condition, order, limit, offset, hplain, houtput, hjoins, hcondition, horder,
    hlimit, hoffset, rfl⟩ := Select.pieces_eq_ok h
  have htarget : s.entity.Plain := hplain _ List.mem_cons_self
  have htable := Sql.isWord_of_identifier htarget.1
  have hnone := (Select.outputPieces_renders hplain htarget houtput).values_eq
  obtain ⟨texts, htexts, rfl⟩ := Select.outputPieces_eq_names hplain htarget houtput
  have hclosing := (Closing.ofOrder hplain horder).append
    ((Closing.ofPaging (by decide) (by decide) hlimit).append
      (Closing.ofPaging (by decide) (by decide) hoffset))
  have hfrom : Lexed (Piece.phrase ["FROM"] ++ [.word s.entity.table]) :=
    .phrase_append (by decide) (.word htable rfl .nil)
  refine ⟨.word "SELECT" :: .space :: (Piece.names texts ++
    (Piece.phrase ["FROM"] ++ [.word s.entity.table])), joins.flatten, condition,
    order ++ (limit ++ offset), by simp only [List.append_assoc, List.cons_append, List.nil_append],
    hplain, ?_, ?_, ?_, ⟨joins, hjoins, rfl⟩, hcondition, fun h => absurd rfl h, hclosing⟩
  · refine ⟨texts, htexts, ?_⟩
    rw [spell, spell, Piece.spell_append, Piece.spell_names, Piece.spell_phrase]
    rfl
  · exact .word (by decide) rfl (.space ((Piece.names_lexed htexts).append hfrom rfl))
  · simp only [values, Piece.values_append, hnone]
    rfl

theorem exists_layout_update {s : Update} {ps : Pieces} (h : s.pieces = .ok ps) :
    ∃ head joins condition closing, ps = head ++ (joins ++ (condition ++ closing)) ∧
      (update s).Layout head joins condition closing := by
  obtain ⟨hplain, hcolumns, condition, hcondition, rfl⟩ := Update.pieces_eq_ok h
  have htable : Sql.isWord s.entity.table = true :=
    Sql.isWord_of_identifier (hplain s.entity List.mem_cons_self).1
  have hassignments := (Update.renders_assignments hcolumns).separated Piece.separates_comma
  have hlexed : ∀ part ∈ s.assignments.map Update.assignmentPieces, Lexed part := by
    intro part hpart
    obtain ⟨a, ha, rfl⟩ := List.mem_map.1 hpart
    exact .word (Sql.isWord_of_identifier (hcolumns a ha)) rfl
      (.space (.operator (by decide : CompareOp.eq ≠ .like) (.bind rfl .nil)))
  refine ⟨Piece.words ["UPDATE", s.entity.table] ++ (Piece.phrase ["SET"] ++
    Piece.separated Piece.comma (s.assignments.map Update.assignmentPieces)), [], condition, [],
    by simp only [List.append_assoc, List.append_nil, List.nil_append],
    hplain, ?_, ?_, ?_, ⟨[], .nil, rfl⟩, hcondition, fun _ => rfl, .nil⟩
  · change _ = _
    rw [Piece.spell_words, Piece.spell_phrase, Update.spell_assignments]
    rfl
  · apply Lexed.words_append _ (.phrase_append (by decide) (.separated_comma hlexed)) rfl
    simp [htable]
    decide
  · rw [Piece.values_append, Piece.values_append, hassignments.values_eq]
    exact List.length_map Prod.snd

theorem exists_layout_delete {s : Delete} {ps : Pieces} (h : s.pieces = .ok ps) :
    ∃ head joins condition closing, ps = head ++ (joins ++ (condition ++ closing)) ∧
      (delete s).Layout head joins condition closing := by
  obtain ⟨scope, hscope, h⟩ := bind_eq_ok.1 h
  obtain ⟨_, h⟩ := throwIf_eq_ok.1 h
  obtain ⟨condition, hcondition, h⟩ := bind_eq_ok.1 h
  cases h
  obtain ⟨rfl, hplain⟩ := Scope.ofEntities_eq_ok hscope
  have htable : Sql.isWord s.entity.table = true :=
    Sql.isWord_of_identifier (hplain s.entity List.mem_cons_self).1
  refine ⟨Piece.words ["DELETE", "FROM", s.entity.table], [], condition, [], by simp, hplain, rfl,
    ?_, rfl, ⟨[], .nil, rfl⟩, hcondition, fun _ => rfl, .nil⟩
  rw [← List.append_nil (Piece.words _)]
  apply Lexed.words_append _ .nil rfl
  simp [htable]
  decide

theorem exists_layout {s : Statement} {ps : Pieces} (hkind : s.kind ≠ .insert)
    (h : s.pieces = .ok ps) :
    ∃ head joins condition closing, ps = head ++ (joins ++ (condition ++ closing)) ∧
      s.Layout head joins condition closing := by
  cases s with
  | select s => exact exists_layout_select h
  | insert s => exact absurd rfl hkind
  | update s => exact exists_layout_update h
  | delete s => exact exists_layout_delete h

namespace Layout

variable {s : Statement} {head joins condition closing : Pieces}

theorem joined_plain (h : s.Layout head joins condition closing) : ∀ j ∈ s.joins, j.entity.Plain :=
  fun _ hj => h.plain _ (List.mem_cons_of_mem _ (List.mem_map_of_mem hj))

theorem joins_clause (h : s.Layout head joins condition closing) :
    Clause joins (s.joins.flatMap fun j => j.on.literals) := by
  obtain ⟨parts, hparts, rfl⟩ := h.joins
  exact Select.joins_clause h.plain h.joined_plain hparts

theorem joins_lexed (h : s.Layout head joins condition closing) : Lexed joins := by
  obtain ⟨parts, hparts, rfl⟩ := h.joins
  exact Select.joins_lexed h.plain h.joined_plain hparts

theorem lexed (h : s.Layout head joins condition closing) :
    Lexed (head ++ (joins ++ (condition ++ closing))) := by
  have hcondition := wherePieces_lexed h.plain h.condition
  have happart := (wherePieces_clause h.plain h.condition).apart
  apply h.head_lexed.append
  · apply h.joins_lexed.append
    · exact hcondition.append h.closing.lexed h.closing.startsWithWord
    · exact Piece.startsWithWord_append happart h.closing.startsWithWord
  · apply Piece.startsWithWord_append h.joins_clause.apart
    exact Piece.startsWithWord_append happart h.closing.startsWithWord

end Layout

end Statement

/-- The number of the first value behind `WHERE`. -/
def Statement.whereNumber (s : Statement) : Nat :=
  s.assignments.length + (s.joins.flatMap fun j => j.on.literals).length

/-- What is read of the conditions of a statement with the given filters: under every valuation of
the tests in it, each join's condition is as true as what it was joined on, and the one behind
`WHERE` as the conjunction of the filters. -/
structure Sql.Conditions.Mean (c : Conditions) (s : Statement) (filters : List Predicate) :
    Prop where
  rest : Starts closing c.rest
  ons : ∀ atoms, c.ons.map (Formula.eval atoms) =
    Predicate.truthEach s.scope atoms s.assignments.length (s.joins.map fun j => j.on)
  condition : ∀ atoms, c.condition.map (Formula.eval atoms) =
    if filters.isEmpty then none
    else some ((Predicate.truthEach s.scope atoms s.whereNumber filters).foldr Truth.and .holds)

namespace Statement

/-- Adds a condition to a statement; an insertion has none. -/
def filter : Statement → Predicate → Statement
  | .select s, p => .select (s.filter p)
  | .insert s, _ => .insert s
  | .update s, p => .update (s.filter p)
  | .delete s, p => .delete (s.filter p)

def withPredicate : Statement → Option Predicate → Statement
  | .select s, p => .select { s with predicate := p }
  | .insert s, _ => .insert s
  | .update s, p => .update { s with predicate := p }
  | .delete s, p => .delete { s with predicate := p }

/-- Filters only change the condition. -/
theorem foldl_filter (s : Statement) (ps : List Predicate) :
    ps.foldl filter s = s.withPredicate (ps.foldl Predicate.conjoin s.predicate) := by
  induction ps generalizing s with
  | nil => cases s <;> rfl
  | cons p ps ih =>
    rw [List.foldl_cons, List.foldl_cons, ih]
    cases s <;> rfl

variable {s : Statement} {p : Option Predicate}

@[simp] theorem withPredicate_kind : (s.withPredicate p).kind = s.kind := by
  cases s <;> rfl

@[simp] theorem withPredicate_scope : (s.withPredicate p).scope = s.scope := by
  cases s <;> rfl

@[simp] theorem withPredicate_joins : (s.withPredicate p).joins = s.joins := by
  cases s <;> rfl

@[simp] theorem withPredicate_assignments : (s.withPredicate p).assignments = s.assignments := by
  cases s <;> rfl

@[simp] theorem withPredicate_whereNumber : (s.withPredicate p).whereNumber = s.whereNumber := by
  cases s <;> rfl

theorem withPredicate_isHead {head : List String} :
    (s.withPredicate p).IsHead head ↔ s.IsHead head := by
  cases s <;> rfl

theorem withPredicate_predicate (hkind : s.kind ≠ .insert) :
    (s.withPredicate p).predicate = p := by
  cases s with
  | insert s => exact absurd rfl hkind
  | _ => rfl

/-- The conditions of a statement are read as they were given. -/
theorem conditions_read {ps : Pieces} (hkind : s.kind ≠ .insert) (h : s.pieces = .ok ps) :
    ∃ head clauses c, Sql.tokens (Piece.text ps) = head ++ clauses ∧ s.IsHead head ∧
      Sql.readConditions clauses = some c ∧ Sql.Starts Sql.closing c.rest ∧
        (∀ atoms, c.ons.map (Sql.Formula.eval atoms) =
          Predicate.truthEach s.scope atoms s.assignments.length (s.joins.map fun j => j.on)) ∧
        ∀ atoms, c.condition.map (Sql.Formula.eval atoms) =
          s.predicate.map (Predicate.truth s.scope atoms s.whereNumber) := by
  obtain ⟨head, joins, condition, closing, rfl, hlayout⟩ := exists_layout hkind h
  have hjoins := hlayout.joins_clause.renders.values_eq
  have htokens : Sql.tokens (Piece.text (head ++ (joins ++ (condition ++ closing)))) =
      spell 0 head ++ (spell s.assignments.length joins ++ (spell s.whereNumber condition ++
        spell (s.whereNumber + (values condition).length) closing)) := by
    rw [Piece.text, hlayout.lexed.tokens_textFrom, Piece.spell_append, Piece.spell_append,
      Piece.spell_append, hlayout.head_values, hjoins, Nat.zero_add, whereNumber]
  have hclosing := hlayout.closing.spell_starts (s.whereNumber + (values condition).length)
  have hstarts := wherePieces_starts hlayout.condition s.whereNumber hclosing
  obtain ⟨f, hf, hcondition⟩ :=
    readWhere_wherePieces hlayout.plain hlayout.condition s.whereNumber hclosing
  obtain ⟨parts, hparts, rfl⟩ := hlayout.joins
  obtain ⟨fs, hfs, hons⟩ :=
    Select.readJoins_joins hlayout.plain hparts s.assignments.length hstarts
  refine ⟨_, _, ⟨fs, f, _⟩, htokens, hlayout.isHead, ?_, hclosing, hons, hcondition⟩
  simp only [Sql.readConditions, hfs, hf, Option.bind_eq_bind, Option.bind_some, pure]

end Statement

/-- The conditions read from a statement's text mean what the statement and its filters say. -/
def Statement.ConditionsMean (s : Statement) (filters : List Predicate) (sql : String) : Prop :=
  ∃ head clauses c, Sql.tokens sql = head ++ clauses ∧ s.IsHead head ∧
    Sql.readConditions clauses = some c ∧ c.Mean s filters

/-- The text of a statement means its joins and the conjunction of its filters, and the builders of
predicates mean the connectives they are named for. -/
theorem conditions_mean {s : Statement} {filters : List Predicate} {q : SerializedQuery}
    (hkind : s.kind ≠ .insert) (hnone : s.predicate = none)
    (h : (filters.foldl Statement.filter s).serialize = .ok q) :
    s.ConditionsMean filters q.sql ∧
      ∀ (scope : Scope) (atoms : List String → Truth) (next : Nat) (p r : Predicate),
        (p.and r).truth scope atoms next =
            (p.truth scope atoms next).and (r.truth scope atoms (next + p.literals.length)) ∧
          (p.or r).truth scope atoms next =
            (p.truth scope atoms next).or (r.truth scope atoms (next + p.literals.length)) ∧
          p.negate.truth scope atoms next = (p.truth scope atoms next).not := by
  refine ⟨?_, fun scope atoms next p r => ⟨Predicate.truth_and next p r,
    Predicate.truth_or next p r, Predicate.truth_negate next p⟩⟩
  obtain ⟨ps, hps, rfl⟩ := Statement.serialize_eq_ok h
  rw [Statement.foldl_filter, hnone] at hps
  have hkind' : (s.withPredicate (filters.foldl Predicate.conjoin none)).kind ≠ .insert := by
    simpa using hkind
  obtain ⟨head, clauses, c, htokens, hhead, hread, hrest, hons, hcondition⟩ :=
    Statement.conditions_read hkind' hps
  refine ⟨head, clauses, c, htokens, Statement.withPredicate_isHead.1 hhead, hread, hrest, ?_, ?_⟩
  · simpa using hons
  · intro atoms
    rw [hcondition, Statement.withPredicate_predicate hkind, Statement.withPredicate_scope,
      Statement.withPredicate_whereNumber, Predicate.truth_conjoined]

/-- Orders with their customers, where those are known. -/
def customerOrders : Select :=
  (((Select.of ⟨"Order", "orders", ["id", "state"]⟩).join .left
    ⟨"Customer", "customers", ["name"]⟩
    (.or (.compare (.column ⟨some "orders", "id"⟩) .lt (.literal (.int 9)))
      (.isNull (.column ⟨some "customers", "name"⟩) true))).orderBy "orders.id"
        .descending).withLimit 5

/-- Conditions of both kinds, some of them empty, on the orders. -/
def orderFilters : List Predicate :=
  [.any [.compare (.column ⟨none, "state"⟩) .eq (.literal (.text "open")),
      .member (.column ⟨none, "id"⟩) [] true],
    .negate (.and (.member (.column ⟨none, "id"⟩) [.int 1, .int 2] false) (.all []))]

theorem customerOrders_mean :
    ∃ q, (orderFilters.foldl Statement.filter (.select customerOrders)).serialize = .ok q ∧
      q.sql = "SELECT orders.id, orders.state FROM orders LEFT JOIN customers ON orders.id < :p0 " ++
        "OR customers.name IS NOT NULL WHERE (orders.state = :p1 OR 1 = 1) AND " ++
        "NOT (orders.id IN (:p2, :p3) AND (1 = 1)) ORDER BY orders.id DESC LIMIT :p4" ∧
      (Statement.select customerOrders).ConditionsMean orderFilters q.sql :=
  ⟨_, rfl, by decide +kernel, (conditions_mean (by decide) rfl rfl).1⟩

end StatementGate
