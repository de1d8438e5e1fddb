import StatementGate.Proofs.Query.Conditions

/-! # Clauses

The four kinds of statements as one type, the values of a statement in the order of its clauses,
and what the pieces of each clause bind. -/

namespace StatementGate

open Piece (Renders RendersAll startsWithWord)

inductive Statement where
  | select (s : Select)
  | insert (s : Insert)
  | update (s : Update)
  | delete (s : Delete)

namespace Statement

def kind : Statement → StatementKind
  | .select _ => .select
  | .insert _ => .insert
  | .update _ => .update
  | .delete _ => .delete

def entity : Statement → Entity
  | .select s => s.entity
  | .insert s => s.entity
  | .update s => s.entity
  | .delete s => s.entity

def pieces : Statement → Except QueryError Pieces
  | .select s => s.pieces
  | .insert s => s.pieces
  | .update s => s.pieces
  | .delete s => s.pieces

def serialize : Statement → Except QueryError SerializedQuery
  | .select s => s.serialize
  | .insert s => s.serialize
  | .update s => s.serialize
  | .delete s => s.serialize

def assignments : Statement → List (String × Scalar)
  | .insert s => s.values
  | .update s => s.assignments
  | _ => []

def joins : Statement → List Join
  | .select s => s.joins
  | _ => []

def predicate : Statement → Option Predicate
  | .select s => s.predicate
  | .insert _ => none
  | .update s => s.predicate
  | .delete s => s.predicate

def limit : Statement → Option Nat
  | .select s => s.limit
  | _ => none

def offset : Statement → Option Nat
  | .select s => s.offset
  | _ => none

def conditionLiterals : Option Predicate → List Scalar
  | none => []
  | some p => p.literals

def pagingLiterals : Option Nat → List Scalar
  | none => []
  | some n => [.int (Int64.ofInt n)]

/-- The values of a statement in the order in which their places come. -/
def literals (s : Statement) : List Scalar :=
  s.assignments.map Prod.snd ++ s.joins.flatMap (fun j => j.on.literals) ++
    conditionLiterals s.predicate ++ pagingLiterals s.limit ++ pagingLiterals s.offset

theorem serialize_eq (s : Statement) :
    s.serialize = s.pieces >>= fun ps => pure (.ofPieces ps s.kind s.entity) := by
  cases s <;> rfl

theorem serialize_eq_ok {s : Statement} {q : SerializedQuery} (h : s.serialize = .ok q) :
    ∃ ps, s.pieces = .ok ps ∧ q = .ofPieces ps s.kind s.entity := by
  rw [serialize_eq] at h
  obtain ⟨ps, hps, h⟩ := bind_eq_ok.1 h
  cases h
  exact ⟨ps, hps, rfl⟩

end Statement

/-- Pieces that may follow any others: they start with no word. -/
structure Clause (ps : Pieces) (vs : List Scalar) : Prop where
  renders : Renders ps vs
  apart : startsWithWord ps = false

namespace Clause

variable {ps qs : Pieces} {vs ws : List Scalar}

theorem nil : Clause [] [] := ⟨.nil, rfl⟩

theorem append (h : Clause ps vs) (h' : Clause qs ws) : Clause (ps ++ qs) (vs ++ ws) :=
  ⟨h.renders.append h'.renders h'.apart, Piece.startsWithWord_append h.apart h'.apart⟩

theorem phrase {texts : List String} (htexts : ∀ s ∈ texts, ':' ∉ s.toList) (h : Renders ps vs) :
    Clause (Piece.phrase texts ++ ps) vs :=
  ⟨h.phrase_append htexts, rfl⟩

end Clause

variable {scope : Scope} {ps : Pieces}

theorem wherePieces_eq_ok {p : Option Predicate} (h : wherePieces scope p = .ok ps) :
    ps = [] ∨ ∃ rest, ps = Piece.phrase ["WHERE"] ++ rest := by
  cases p with
  | none =>
    cases h
    exact .inl rfl
  | some p =>
    obtain ⟨condition, _, h⟩ := bind_eq_ok.1 h
    cases h
    exact .inr ⟨condition, rfl⟩

theorem wherePieces_clause (hscope : scope.Plain) {p : Option Predicate}
    (h : wherePieces scope p = .ok ps) : Clause ps (Statement.conditionLiterals p) := by
  cases p with
  | none =>
    cases h
    exact .nil
  | some p =>
    obtain ⟨condition, hcondition, h⟩ := bind_eq_ok.1 h
    cases h
    exact .phrase (by decide) (p.renders hscope hcondition)

theorem pagingPieces_clause {keyword : String} (hkeyword : ':' ∉ keyword.toList) {n : Option Nat}
    (h : pagingPieces keyword n = .ok ps) : Clause ps (Statement.pagingLiterals n) := by
  cases n with
  | none =>
    cases h
    exact .nil
  | some n =>
    unfold pagingPieces at h
    dsimp only at h
    split at h
    · cases h
      exact .phrase (List.forall_mem_singleton.2 hkeyword) (.bind rfl .nil)
    · cases h

theorem rendersAll_words {names : List String}
    (h : ∀ name ∈ names, isPlainIdentifier name = true) :
    RendersAll (names.map fun name => [.word name]) [] := by
  refine .of_forall fun part hpart => ?_
  obtain ⟨name, hname, rfl⟩ := List.mem_map.1 hpart
  exact .word (colon_not_mem_of_identifier (h name hname)) .nil

theorem columnList_renders (hscope : scope.Plain) {refs : List ColumnRef}
    (h : columnList scope refs = .ok ps) : Renders ps [] := by
  obtain ⟨parts, hparts, h⟩ := bind_eq_ok.1 h
  cases h
  refine RendersAll.separated Piece.separates_comma (.of_forall fun part hpart => ?_)
  obtain ⟨ref, _, href⟩ := exists_of_mem_mapM hparts hpart
  exact Scope.column_renders hscope href

namespace Select

variable {s : Select}

theorem outputPieces_renders (hscope : scope.Plain) (htarget : s.entity.Plain)
    (h : s.outputPieces scope = .ok ps) : Renders ps [] := by
  simp only [outputPieces] at h
  split at h
  · obtain ⟨refs, _, h⟩ := bind_eq_ok.1 h
    exact columnList_renders hscope h
  · split at h
    · cases h
      exact (rendersAll_words htarget.2).separated Piece.separates_comma
    · exact columnList_renders hscope h

theorem joinPieces_clause (hscope : scope.Plain) {j : Join} (hj : j.entity.Plain)
    (h : joinPieces scope j = .ok ps) : Clause ps j.on.literals := by
  obtain ⟨on, hon, h⟩ := bind_eq_ok.1 h
  cases h
  rw [List.append_assoc, List.cons_append]
  refine .phrase ?_ (.word (colon_not_mem_of_identifier hj.1) ?_)
  · cases j.kind <;> decide
  · exact (j.on.renders hscope hon).phrase_append (by decide)

theorem joins_clause (hscope : scope.Plain) {joins : List Join} {parts : List Pieces}
    (hjoins : ∀ j ∈ joins, j.entity.Plain)
    (h : List.Forall₂ (fun j part => joinPieces scope j = .ok part) joins parts) :
    Clause parts.flatten (joins.flatMap fun j => j.on.literals) := by
  induction h with
  | nil => exact .nil
  | cons hpart _ ih =>
    rw [List.forall_mem_cons] at hjoins
    exact (joinPieces_clause hscope hjoins.1 hpart).append (ih hjoins.2)

theorem orderPieces_clause (hscope : scope.Plain) (h : s.orderPieces scope = .ok ps) :
    Clause ps [] := by
  simp only [orderPieces] at h
  split at h
  · cases h
    exact .nil
  · obtain ⟨keys, hkeys, h⟩ := bind_eq_ok.1 h
    cases h
    refine .phrase (by decide)
      (RendersAll.separated Piece.separates_comma (.of_forall fun part hpart => ?_))
    obtain ⟨⟨column, direction⟩, _, hkey⟩ := exists_of_mem_mapM hkeys hpart
    obtain ⟨name, hname, h⟩ := bind_eq_ok.1 hkey
    cases h
    have hdirection : Renders [.space, .word direction.keyword] [] :=
      .space (.word (by cases direction <;> decide) .nil)
    exact (Scope.column_renders hscope hname).append hdirection rfl

/-- The pieces of a selection, clause by clause. -/
theorem pieces_eq_ok (h : s.pieces = .ok ps) :
    ∃ output joins condition order limit offset,
      (Scope.mk s.entity (s.joins.map (·.entity))).Plain ∧
      s.outputPieces ⟨s.entity, s.joins.map (·.entity)⟩ = .ok output ∧
      List.Forall₂ (fun j part => joinPieces ⟨s.entity, s.joins.map (·.entity)⟩ j = .ok part)
        s.joins joins ∧
      wherePieces ⟨s.entity, s.joins.map (·.entity)⟩ s.predicate = .ok condition ∧
      s.orderPieces ⟨s.entity, s.joins.map (·.entity)⟩ = .ok order ∧
      pagingPieces "LIMIT" s.limit = .ok limit ∧ pagingPieces "OFFSET" s.offset = .ok offset ∧
      ps = .word "SELECT" :: .space :: (output ++ (Piece.phrase ["FROM"] ++
        .word s.entity.table :: (joins.flatten ++ (condition ++ (order ++ (limit ++ offset)))))) := by
  obtain ⟨scope, hscope, h⟩ := bind_eq_ok.1 h
  obtain ⟨output, houtput, h⟩ := bind_eq_ok.1 h
  obtain ⟨joins, hjoins, h⟩ := bind_eq_ok.1 h
  obtain ⟨condition, hcondition, h⟩ := bind_eq_ok.1 h
  obtain ⟨order, horder, h⟩ := bind_eq_ok.1 h
  obtain ⟨limit, hlimit, h⟩ := bind_eq_ok.1 h
  obtain ⟨offset, hoffset, h⟩ := bind_eq_ok.1 h
  cases h
  obtain ⟨rfl, hplain⟩ := Scope.ofEntities_eq_ok hscope
  exact ⟨output, joins, condition, order, limit, offset, hplain, houtput, mapM_eq_ok.1 hjoins,
    hcondition, horder, hlimit, hoffset, by simp only [List.append_assoc, List.cons_append]⟩

theorem renders (h : s.pieces = .ok ps) : Renders ps (Statement.select s).literals := by
  obtain ⟨output, joins, condition, order, limit, offset, hplain, houtput, hjoins, hcondition, horder,
    hlimit, hoffset, rfl⟩ := pieces_eq_ok h
  have htarget : s.entity.Plain := hplain _ List.mem_cons_self
  have hjoined : ∀ j ∈ s.joins, j.entity.Plain := fun j hj =>
    hplain _ (List.mem_cons_of_mem _ (List.mem_map_of_mem hj))
  have hpaging := (pagingPieces_clause (by decide) hlimit).append
    (pagingPieces_clause (by decide) hoffset)
  have hclauses := (joins_clause hplain hjoined hjoins).append
    ((wherePieces_clause hplain hcondition).append ((orderPieces_clause hplain horder).append hpaging))
  have hfrom : Clause (Piece.phrase ["FROM"] ++ .word s.entity.table :: _) _ :=
    .phrase (by decide) (.word (colon_not_mem_of_identifier htarget.1) hclauses.renders)
  have hselect := (outputPieces_renders hplain htarget houtput).append hfrom.renders hfrom.apart
  simp only [Statement.literals, Statement.assignments, Statement.joins, Statement.predicate,
    Statement.limit, Statement.offset, List.append_assoc, List.map_nil, List.nil_append]
  exact .word (by decide) (.space hselect)

end Select

theorem parse_of_table_none {column : String} (h : (ColumnRef.parse column).table = none) :
    ColumnRef.parse column = ⟨none, column⟩ := by
  unfold ColumnRef.parse at h ⊢
  dsimp only at h ⊢
  split at h
  · rfl
  · cases h

theorem Scope.checkAssignments_eq_ok {seen : List String} {assignments : List (String × Scalar)}
    (h : scope.checkAssignments seen assignments = .ok ()) :
    ∀ column v, (column, v) ∈ assignments → ColumnRef.parse column = ⟨none, column⟩ := by
  induction assignments generalizing seen with
  | nil => exact fun _ _ hmem => by cases hmem
  | cons assignment rest ih =>
    rw [Scope.checkAssignments] at h
    obtain ⟨hbare, h⟩ := throwIf_eq_ok.1 h
    obtain ⟨_, _, h⟩ := bind_eq_ok.1 h
    obtain ⟨_, h⟩ := throwIf_eq_ok.1 h
    intro column v hmem
    rcases List.mem_cons.1 hmem with rfl | hmem
    · exact parse_of_table_none (by simpa using hbare)
    · exact ih h column v hmem

/-- An assigned column stands in the text as it was given. -/
theorem Scope.column_of_assigned {e : Entity} {column : String} {part : Pieces}
    (hparse : ColumnRef.parse column = ⟨none, column⟩)
    (h : Scope.column ⟨e, []⟩ (ColumnRef.parse column) = .ok part) :
    part = [.word column] ∧ isPlainIdentifier column = true := by
  rw [hparse] at h
  obtain ⟨table, htable, rfl⟩ := column_eq_ok h
  exact ⟨rfl, (resolve_eq_ok htable).1⟩

namespace Insert

variable {s : Insert}

/-- The pieces of an insertion: its columns as they were given, then its values. -/
theorem pieces_eq_ok (h : s.pieces = .ok ps) :
    s.entity.Plain ∧ (∀ column ∈ s.values.map Prod.fst, isPlainIdentifier column = true) ∧
      ps = Piece.words ["INSERT", "INTO", s.entity.table] ++
        .space :: Piece.parenthesized (Piece.separated Piece.comma
          ((s.values.map Prod.fst).map fun column => [.word column])) ++
        Piece.phrase ["VALUES"] ++
        Piece.parenthesized (Piece.separated Piece.comma
          ((s.values.map Prod.snd).map fun v => [.bind v])) := by
  obtain ⟨scope, hscope, h⟩ := bind_eq_ok.1 h
  obtain ⟨_, h⟩ := throwIf_eq_ok.1 h
  obtain ⟨_, hassigned, h⟩ := bind_eq_ok.1 h
  obtain ⟨columns, hcolumns, h⟩ := bind_eq_ok.1 h
  obtain ⟨parts, hparts, hcolumns⟩ := bind_eq_ok.1 hcolumns
  cases h
  cases hcolumns
  obtain ⟨rfl, hplain⟩ := Scope.ofEntities_eq_ok hscope
  rw [List.mapM_map] at hparts
  have hpart : ∀ a ∈ s.values, ∀ part,
      Scope.column ⟨s.entity, []⟩ (ColumnRef.parse a.1) = .ok part →
        part = [.word a.1] ∧ isPlainIdentifier a.1 = true := fun a ha part hcolumn =>
    Scope.column_of_assigned (Scope.checkAssignments_eq_ok hassigned a.1 a.2 ha) hcolumn
  refine ⟨hplain _ List.mem_cons_self, fun column hmem => ?_, ?_⟩
  · obtain ⟨a, ha, rfl⟩ := List.mem_map.1 hmem
    obtain ⟨part, hcolumn⟩ := exists_of_mapM hparts ha
    exact (hpart a ha part hcolumn).2
  · rw [eq_map_of_mapM hparts fun a ha part hcolumn => (hpart a ha part hcolumn).1]
    simp only [List.map_map, Function.comp_def]

theorem renders (h : s.pieces = .ok ps) : Renders ps (Statement.insert s).literals := by
  obtain ⟨hentity, hcolumns, rfl⟩ := pieces_eq_ok h
  have hlist := ((rendersAll_words hcolumns).separated Piece.separates_comma).parenthesized
  have hvalues := ((renders_list (s.values.map Prod.snd)).separated
    Piece.separates_comma).parenthesized
  have hliterals : (Statement.insert s).literals = [] ++ s.values.map Prod.snd := by
    simp [Statement.literals, Statement.assignments, Statement.joins, Statement.predicate,
      Statement.limit, Statement.offset, Statement.conditionLiterals, Statement.pagingLiterals]
  rw [hliterals, List.append_assoc, List.append_assoc, List.cons_append]
  refine .words_append ?_ (.space (hlist.append (hvalues.phrase_append (by decide)) rfl))
  simp [colon_not_mem_of_identifier hentity.1]

end Insert

namespace Update

variable {s : Update}

/-- A column with the place of the value assigned to it. -/
def assignmentPieces (assignment : String × Scalar) : Pieces :=
  [.word assignment.1, .space, .symbol "=", .space, .bind assignment.2]

/-- The pieces of a change: its assignments as they were given, then its condition. -/
theorem pieces_eq_ok (h : s.pieces = .ok ps) :
    Scope.Plain ⟨s.entity, []⟩ ∧ (∀ a ∈ s.assignments, isPlainIdentifier a.1 = true) ∧
      ∃ condition, wherePieces ⟨s.entity, []⟩ s.predicate = .ok condition ∧
        ps = Piece.words ["UPDATE", s.entity.table] ++ Piece.phrase ["SET"] ++
          Piece.separated Piece.comma (s.assignments.map assignmentPieces) ++ condition := by
  obtain ⟨scope, hscope, h⟩ := bind_eq_ok.1 h
  obtain ⟨_, h⟩ := throwIf_eq_ok.1 h
  obtain ⟨_, h⟩ := throwIf_eq_ok.1 h
  obtain ⟨_, hassigned, h⟩ := bind_eq_ok.1 h
  obtain ⟨parts, hparts, h⟩ := bind_eq_ok.1 h
  obtain ⟨condition, hcondition, h⟩ := bind_eq_ok.1 h
  cases h
  obtain ⟨rfl, hplain⟩ := Scope.ofEntities_eq_ok hscope
  have hpart : ∀ a ∈ s.assignments, ∀ part, (do
      let column ← Scope.column ⟨s.entity, []⟩ (ColumnRef.parse a.1)
      pure (column ++ [Piece.space, .symbol "=", .space, .bind a.2])) = .ok part →
        part = assignmentPieces a ∧ isPlainIdentifier a.1 = true := by
    intro a ha part h
    obtain ⟨column, hcolumn, h⟩ := bind_eq_ok.1 h
    cases h
    obtain ⟨rfl, hname⟩ :=
      Scope.column_of_assigned (Scope.checkAssignments_eq_ok hassigned a.1 a.2 ha) hcolumn
    exact ⟨rfl, hname⟩
  refine ⟨hplain, fun a ha => ?_, condition, hcondition, ?_⟩
  · obtain ⟨part, hcolumn⟩ := exists_of_mapM hparts ha
    exact (hpart a ha part hcolumn).2
  · rw [eq_map_of_mapM hparts fun a ha part hcolumn => (hpart a ha part hcolumn).1]

theorem renders_assignments {assignments : List (String × Scalar)}
    (h : ∀ a ∈ assignments, isPlainIdentifier a.1 = true) :
    RendersAll (assignments.map assignmentPieces) (assignments.map Prod.snd) := by
  induction assignments with
  | nil => exact .nil
  | cons a assignments ih =>
    rw [List.forall_mem_cons] at h
    have ha : Renders (assignmentPieces a) [a.2] :=
      .word (colon_not_mem_of_identifier h.1) (.space (.symbol (by decide) (.space (.bind rfl .nil))))
    exact .cons ha (ih h.2)

theorem renders (h : s.pieces = .ok ps) : Renders ps (Statement.update s).literals := by
  obtain ⟨hplain, hcolumns, condition, hwhere, rfl⟩ := pieces_eq_ok h
  have hassignments := (renders_assignments hcolumns).separated Piece.separates_comma
  have hcondition := wherePieces_clause hplain hwhere
  have hentity : s.entity.Plain := hplain _ List.mem_cons_self
  have hliterals : (Statement.update s).literals =
      s.assignments.map Prod.snd ++ Statement.conditionLiterals s.predicate := by
    simp [Statement.literals, Statement.assignments, Statement.joins, Statement.predicate,
      Statement.limit, Statement.offset, Statement.pagingLiterals]
  rw [hliterals, List.append_assoc, List.append_assoc]
  refine .words_append ?_ ?_
  · simp [colon_not_mem_of_identifier hentity.1]
  · exact (hassignments.append hcondition.renders hcondition.apart).phrase_append (by decide)

end Update

theorem Delete.renders {s : Delete} (h : s.pieces = .ok ps) :
    Renders ps (Statement.delete s).literals := by
  obtain ⟨scope, hscope, h⟩ := bind_eq_ok.1 h
  obtain ⟨_, h⟩ := throwIf_eq_ok.1 h
  obtain ⟨condition, hcondition, h⟩ := bind_eq_ok.1 h
  cases h
  obtain ⟨rfl, hplain⟩ := Scope.ofEntities_eq_ok hscope
  have hliterals : (Statement.delete s).literals = Statement.conditionLiterals s.predicate := by
    simp [Statement.literals, Statement.assignments, Statement.joins, Statement.predicate,
      Statement.limit, Statement.offset, Statement.pagingLiterals]
  rw [hliterals]
  refine .words_append ?_ (wherePieces_clause hplain hcondition).renders
  have htarget : Entity.Plain s.entity := hplain _ List.mem_cons_self
  simp [colon_not_mem_of_identifier htarget.1]

/-- The pieces of every statement bind its values in their order. -/
theorem Statement.renders {s : Statement} (h : s.pieces = .ok ps) : Renders ps s.literals := by
  cases s with
  | select s => exact Select.renders h
  | insert s => exact Insert.renders h
  | update s => exact Update.renders h
  | delete s => exact Delete.renders h

end StatementGate
