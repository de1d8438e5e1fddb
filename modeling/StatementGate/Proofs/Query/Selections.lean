import StatementGate.Proofs.Query.Grammar

/-! # Grammar of selections

The clauses of a selection as tokens, with the columns in each of them. What a selection is
rendered to is made of these clauses; it is a selection of the grammar where it puts out columns of
distinct names and skips rows only of a page. -/

namespace StatementGate

open Piece (spell values)

namespace Sql

/-- The tokens of joins, and the columns that the condition of each tests. -/
inductive JoinTokens : List String → List (List ColumnRef) → Prop
  | nil : JoinTokens [] []
  | cons (kind : JoinKind) {table : String} {on ts : List String} {cs : List ColumnRef}
      {css : List (List ColumnRef)} (htable : isPlainIdentifier table = true)
      (hon : ConditionTokens on cs) (h : JoinTokens ts css) :
      JoinTokens (kind.keywords ++ table :: "ON" :: (on ++ ts)) (cs :: css)

/-- The tokens of a condition on the rows, if there is one, and the columns that it tests. -/
inductive WhereTokens : List String → List ColumnRef → Prop
  | absent : WhereTokens [] []
  | condition {ts : List String} {cs : List ColumnRef} (h : ConditionTokens ts cs) :
      WhereTokens ("WHERE" :: ts) cs

/-- The tokens of an order, if there is one, and its columns. -/
inductive OrderTokens : List String → List ColumnRef → Prop
  | absent : OrderTokens [] []
  | keys {keys : List (ColumnRef × Direction)} (hne : keys ≠ [])
      (h : ∀ key ∈ keys, key.1.Plain) :
      OrderTokens ("ORDER" :: "BY" ::
        [","].intercalate (keys.map fun key => [key.1.text, key.2.keyword])) (keys.map Prod.fst)

/-- The tokens of a page: rows are skipped only where their number is limited. -/
inductive PageTokens : List String → Prop
  | absent : PageTokens []
  | limit (i : Nat) : PageTokens ["LIMIT", Piece.placeholder i]
  | offset (i j : Nat) : PageTokens ["LIMIT", Piece.placeholder i, "OFFSET", Piece.placeholder j]

/-- The tokens of the clauses between a target and a page. -/
inductive ClauseTokens :
    List String → List (List ColumnRef) → List ColumnRef → List ColumnRef → Prop
  | mk {joins condition order : List String} {ons : List (List ColumnRef)}
      {tested keys : List ColumnRef} (hjoins : JoinTokens joins ons)
      (hcondition : WhereTokens condition tested) (horder : OrderTokens order keys) :
      ClauseTokens (joins ++ (condition ++ order)) ons tested keys

/-- The tokens of a selection. -/
inductive SelectTokens : List String → Prop
  | mk {output : List ColumnRef} {table : String} {clauses page : List String}
      {ons : List (List ColumnRef)} {tested keys : List ColumnRef} (hne : output ≠ [])
      (hplain : ∀ ref ∈ output, ref.Plain) (hdistinct : (output.map (·.name)).Nodup)
      (htable : isPlainIdentifier table = true) (hclauses : ClauseTokens clauses ons tested keys)
      (hpage : PageTokens page) :
      SelectTokens ("SELECT" :: ((output.map ColumnRef.text).intersperse "," ++
        "FROM" :: table :: (clauses ++ page)))

end Sql

/-- The columns that a condition tests, if there is one. -/
def Statement.conditionTested : Option Predicate → List ColumnRef
  | none => []
  | some p => p.tested

/-- The text of a statement with conditions is cut into the tokens of its pieces. -/
theorem Statement.tokens_text {s : Statement} {ps : Pieces} (hkind : s.kind ≠ .insert)
    (h : s.pieces = .ok ps) : Sql.tokens (Piece.text ps) = spell 0 ps := by
  obtain ⟨_, _, _, _, rfl, hlayout⟩ := exists_layout hkind h
  exact hlayout.lexed.tokens_textFrom 0

section Clauses

variable {scope : Scope} {ps : Pieces}

theorem wherePieces_derives (hscope : scope.Plain) {p : Option Predicate}
    (h : wherePieces scope p = .ok ps) (next : Nat) :
    ∃ cs, Sql.WhereTokens (spell next ps) cs ∧
      List.Forall₂ scope.Writes (Statement.conditionTested p) cs := by
  cases p with
  | none =>
    cases h
    exact ⟨[], .absent, .nil⟩
  | some p =>
    obtain ⟨condition, hcondition, h⟩ := bind_eq_ok.1 h
    cases h
    obtain ⟨cs, hcs, hwrites⟩ := p.derives hscope hcondition next
    rw [Piece.spell_phrase]
    exact ⟨cs, .condition hcs, hwrites⟩

theorem spell_paging {keyword : String} {n : Option Nat} (h : pagingPieces keyword n = .ok ps)
    (next : Nat) : spell next ps = if n.isSome then [keyword, Piece.placeholder next] else [] := by
  cases n with
  | none =>
    cases h
    rfl
  | some n =>
    unfold pagingPieces at h
    dsimp only at h
    split at h
    · cases h
      rfl
    · cases h

namespace Scope

theorem Writes.name_eq {ref column : ColumnRef} (h : scope.Writes ref column) :
    column.name = ref.name := by
  obtain ⟨table, _, rfl⟩ := h
  rfl

/-- Columns are rendered one by one. -/
theorem columns_write {refs : List ColumnRef} {parts : List Pieces}
    (h : refs.mapM scope.column = .ok parts) :
    ∃ columns, List.Forall₂ scope.Writes refs columns ∧
      parts = columns.map fun column => [.word column.text] := by
  rw [mapM_eq_ok] at h
  induction h with
  | nil => exact ⟨[], .nil, rfl⟩
  | cons hcolumn _ ih =>
    obtain ⟨column, hwrites, rfl⟩ := column_writes hcolumn
    obtain ⟨columns, hall, rfl⟩ := ih
    exact ⟨column :: columns, .cons hwrites hall, rfl⟩

theorem Writes.all_plain (hscope : scope.Plain) {refs columns : List ColumnRef}
    (h : List.Forall₂ scope.Writes refs columns) : ∀ column ∈ columns, column.Plain := by
  induction h with
  | nil => exact List.forall_mem_nil _
  | cons hcolumn _ ih => exact List.forall_mem_cons.2 ⟨hcolumn.plain hscope, ih⟩

theorem Writes.names_eq {refs columns : List ColumnRef}
    (h : List.Forall₂ scope.Writes refs columns) :
    columns.map (·.name) = refs.map (·.name) := by
  induction h with
  | nil => rfl
  | cons hcolumn _ ih => rw [List.map_cons, List.map_cons, hcolumn.name_eq, ih]

end Scope

theorem columnList_writes {refs : List ColumnRef} (h : columnList scope refs = .ok ps) :
    ∃ columns, List.Forall₂ scope.Writes refs columns ∧
      ps = Piece.names (columns.map ColumnRef.text) := by
  obtain ⟨parts, hparts, h⟩ := bind_eq_ok.1 h
  cases h
  obtain ⟨columns, hwrites, rfl⟩ := Scope.columns_write hparts
  exact ⟨columns, hwrites, by rw [Piece.names, List.map_map]; rfl⟩

end Clauses

namespace Select

variable {s : Select} {ps : Pieces}

def scope (s : Select) : Scope := ⟨s.entity, s.joins.map (·.entity)⟩

/-- The columns that a selection puts out. -/
def output (s : Select) : List ColumnRef :=
  match s.columns with
  | some columns => columns.map ColumnRef.parse
  | none =>
    let table := if s.joins.isEmpty then none else some s.entity.table
    s.entity.columns.map fun c => ⟨table, c⟩

/-- Where nothing is joined the columns of the target are written as they are. -/
theorem writes_bare (hscope : s.scope.Plain) (hjoins : s.joins = []) {c : String}
    (hc : c ∈ s.entity.columns) : s.scope.Writes ⟨none, c⟩ ⟨none, c⟩ := by
  have htarget : s.entity.Plain := hscope _ List.mem_cons_self
  have hresolves : s.scope.Resolves ⟨none, c⟩ := by
    refine .bare (htarget.2 c hc) ⟨[], s.entity, [], ?_, hc, by simp⟩
    simp [scope, Scope.tables, hjoins]
  obtain ⟨table, htable⟩ := Scope.succeeds_resolve.2 hresolves
  exact ⟨table, htable, by simp [Scope.written, Scope.isJoined, scope, hjoins]⟩

theorem outputPieces_writes (hscope : s.scope.Plain) (h : s.outputPieces s.scope = .ok ps) :
    ∃ columns, List.Forall₂ s.scope.Writes s.output columns ∧
      ps = Piece.names (columns.map ColumnRef.text) := by
  rw [outputPieces] at h
  rw [output]
  cases hcolumns : s.columns with
  | some columns =>
    rw [hcolumns] at h
    obtain ⟨refs, hrefs, h⟩ := bind_eq_ok.1 h
    rw [projection_eq_ok hrefs] at h
    exact columnList_writes h
  | none =>
    rw [hcolumns] at h
    dsimp only at h ⊢
    by_cases hjoins : s.joins.isEmpty = true
    · rw [if_pos hjoins] at h ⊢
      cases h
      refine ⟨s.entity.columns.map fun c => ⟨none, c⟩, ?_, ?_⟩
      · rw [List.forall₂_map_left_iff, List.forall₂_map_right_iff, List.forall₂_same]
        exact fun c hc => writes_bare hscope (List.isEmpty_iff.1 hjoins) hc
      · rw [Piece.names, List.map_map, List.map_map]
        rfl
    · rw [if_neg hjoins] at h ⊢
      exact columnList_writes h

variable {scope : Scope}

theorem joins_derive {joins : List Join} {parts : List Pieces} (hscope : scope.Plain)
    (hjoins : ∀ j ∈ joins, j.entity.Plain)
    (h : List.Forall₂ (fun j part => joinPieces scope j = .ok part) joins parts) (next : Nat) :
    ∃ ons, Sql.JoinTokens (spell next parts.flatten) ons ∧
      List.Forall₂ (fun j cs => List.Forall₂ scope.Writes j.on.tested cs) joins ons := by
  induction h generalizing next with
  | nil => exact ⟨[], .nil, .nil⟩
  | @cons j part joins parts hpart _ ih =>
    rw [List.forall_mem_cons] at hjoins
    obtain ⟨on, hon, hpart⟩ := bind_eq_ok.1 hpart
    cases hpart
    obtain ⟨cs, hcs, hwrites⟩ := j.on.derives hscope hon next
    obtain ⟨ons, hons, hrest⟩ := ih hjoins.2 (next + (values on).length)
    rw [List.flatten_cons, spell_join]
    exact ⟨cs :: ons, .cons j.kind hjoins.1.1 hcs hons, .cons hwrites hrest⟩

/-- A column with the direction that rows are ordered in by it. -/
def keyPieces (key : ColumnRef × Direction) : Pieces :=
  [.word key.1.text, .space, .word key.2.keyword]

theorem spellEach_keys (next : Nat) (keys : List (ColumnRef × Direction)) :
    Piece.spellEach next (keys.map keyPieces) =
      keys.map fun key => [key.1.text, key.2.keyword] := by
  induction keys generalizing next with
  | nil => rfl
  | cons key keys ih =>
    rw [List.map_cons, Piece.spellEach, ih]
    rfl

theorem orderKeys_write {order : List (String × Direction)} {parts : List Pieces}
    (h : List.Forall₂ (fun (key : String × Direction) part => (do
      let column ← scope.column (ColumnRef.parse key.1)
      pure (column ++ [Piece.space, .word key.2.keyword])) = .ok part) order parts) :
    ∃ keys : List (ColumnRef × Direction),
      List.Forall₂ scope.Writes (order.map fun key => ColumnRef.parse key.1) (keys.map Prod.fst) ∧
        parts = keys.map keyPieces := by
  induction h with
  | nil => exact ⟨[], .nil, rfl⟩
  | @cons key _ _ _ hpart _ ih =>
    obtain ⟨_, hcolumn, hpart⟩ := bind_eq_ok.1 hpart
    cases hpart
    obtain ⟨column, hwrites, rfl⟩ := Scope.column_writes hcolumn
    obtain ⟨keys, hrest, rfl⟩ := ih
    exact ⟨(column, key.2) :: keys, .cons hwrites hrest, rfl⟩

theorem orderPieces_derives (hscope : scope.Plain) (h : s.orderPieces scope = .ok ps) (next : Nat) :
    ∃ keys, Sql.OrderTokens (spell next ps) keys ∧
      List.Forall₂ scope.Writes (s.order.map fun key => ColumnRef.parse key.1) keys := by
  rw [orderPieces] at h
  by_cases hempty : s.order.isEmpty = true
  · rw [if_pos hempty] at h
    cases h
    rw [List.isEmpty_iff.1 hempty]
    exact ⟨[], .absent, .nil⟩
  · rw [if_neg hempty] at h
    obtain ⟨parts, hparts, h⟩ := bind_eq_ok.1 h
    cases h
    obtain ⟨keys, hwrites, rfl⟩ := orderKeys_write (mapM_eq_ok.1 hparts)
    rw [Piece.spell_phrase, Piece.spell_separated_comma, spellEach_keys]
    refine ⟨keys.map Prod.fst, .keys ?_ ?_, hwrites⟩
    · rintro rfl
      simp_all
    · exact List.forall_mem_map.1 (Scope.Writes.all_plain hscope hwrites)

/-- The tokens of a selection, clause by clause, and the columns in each clause as the scope writes
them. -/
structure Derives (s : Select) (output : List ColumnRef) (clauses page : List String)
    (ons : List (List ColumnRef)) (tested keys : List ColumnRef) : Prop where
  plain : s.scope.Plain
  projects : ∀ columns, s.columns = some columns → s.scope.Projects columns
  output : List.Forall₂ s.scope.Writes s.output output
  clauses : Sql.ClauseTokens clauses ons tested keys
  ons : List.Forall₂ (fun j cs => List.Forall₂ s.scope.Writes j.on.tested cs) s.joins ons
  tested : List.Forall₂ s.scope.Writes (Statement.conditionTested s.predicate) tested
  keys : List.Forall₂ s.scope.Writes (s.order.map fun key => ColumnRef.parse key.1) keys
  page : ∃ i j, page = (if s.limit.isSome then ["LIMIT", Piece.placeholder i] else []) ++
    if s.offset.isSome then ["OFFSET", Piece.placeholder j] else []

/-- What is rendered for a selection are the tokens of its clauses. -/
theorem exists_derives {q : SerializedQuery} (h : s.serialize = .ok q) :
    ∃ output clauses page ons tested keys,
      Sql.tokens q.sql = "SELECT" :: ((output.map ColumnRef.text).intersperse "," ++
        "FROM" :: s.entity.table :: (clauses ++ page)) ∧
      s.Derives output clauses page ons tested keys := by
  have hstatement : (Statement.select s).serialize = .ok q := h
  obtain ⟨ps, hps, rfl⟩ := Statement.serialize_eq_ok hstatement
  obtain ⟨output, joins, condition, order, limit, offset, hplain, houtput, hjoins, hcondition, horder,
    hlimit, hoffset, heq⟩ := pieces_eq_ok (s := s) hps
  have hjoined : ∀ j ∈ s.joins, j.entity.Plain := fun j hj =>
    hplain _ (List.mem_cons_of_mem _ (List.mem_map_of_mem hj))
  obtain ⟨columns, hcolumns, rfl⟩ := outputPieces_writes hplain houtput
  have hkind : (Statement.select s).kind ≠ .insert := by simp [Statement.kind]
  have htokens := (Statement.tokens_text hkind hps).trans (congrArg (spell 0) heq)
  rw [spell, spell, Piece.spell_append, Piece.spell_names, Piece.spell_phrase, spell,
    Piece.spell_append, Piece.spell_append, Piece.spell_append, Piece.spell_append,
    spell_paging hlimit, spell_paging hoffset, ← List.append_assoc (spell _ condition),
    ← List.append_assoc (spell _ joins.flatten)] at htokens
  obtain ⟨atJoins, atCondition, atOrder, atLimit, atOffset, htokens⟩ :
      ∃ atJoins atCondition atOrder atLimit atOffset, Sql.tokens (Piece.text ps) =
        "SELECT" :: ((columns.map ColumnRef.text).intersperse "," ++ "FROM" :: s.entity.table ::
          ((spell atJoins joins.flatten ++ (spell atCondition condition ++ spell atOrder order)) ++
            ((if s.limit.isSome then ["LIMIT", Piece.placeholder atLimit] else []) ++
              if s.offset.isSome then ["OFFSET", Piece.placeholder atOffset] else []))) :=
    ⟨_, _, _, _, _, htokens⟩
  obtain ⟨ons, hons, hjoinsWrite⟩ := joins_derive hplain hjoined hjoins atJoins
  obtain ⟨tested, htested, hconditionWrites⟩ := wherePieces_derives hplain hcondition atCondition
  obtain ⟨keys, hkeys, horderWrites⟩ := orderPieces_derives hplain horder atOrder
  have hprojects := (succeeds_outputPieces hplain rfl).1 ⟨_, houtput⟩
  exact ⟨columns, _, _, ons, tested, keys, htokens, hplain, hprojects, hcolumns, .mk hons htested hkeys,
    hjoinsWrite, hconditionWrites, horderWrites, atLimit, atOffset, rfl⟩

end Select

end StatementGate
