import StatementGate.Proofs.Query.Reading

/-! # Well-formed statements

What a statement must be like for there to be a text for it, said on the statement and not on how
it is rendered: its names are plain, its columns belong to the tables in scope, its conditions are
made of tests that have a meaning, and it changes rows only where it says which. -/

namespace StatementGate

namespace Scope

variable {scope : Scope}

/-- The first table in scope of the given name declares the column. -/
def FirstDeclares (scope : Scope) (table column : String) : Prop :=
  ∃ before e after, scope.tables = before ++ e :: after ∧ (∀ e' ∈ before, e'.table ≠ table) ∧
    e.table = table ∧ column ∈ e.columns

/-- One table in scope declares the column, and no other does. -/
def OneDeclares (scope : Scope) (column : String) : Prop :=
  ∃ before e after, scope.tables = before ++ e :: after ∧ column ∈ e.columns ∧
    ∀ e' ∈ before ++ after, column ∉ e'.columns

/-- A reference to a column of the tables in scope. -/
inductive Resolves (scope : Scope) : ColumnRef → Prop
  | bare {column : String} (hcolumn : isPlainIdentifier column = true)
      (h : scope.OneDeclares column) : Resolves scope ⟨none, column⟩
  | qualified {table column : String} (htable : isPlainIdentifier table = true)
      (hcolumn : isPlainIdentifier column = true) (h : scope.FirstDeclares table column) :
      Resolves scope ⟨some table, column⟩

theorem resolveIn_eq_ok {table column found : String} :
    scope.resolveIn table column = .ok found ↔ found = table ∧ scope.FirstDeclares table column := by
  simp only [resolveIn]
  constructor
  · intro h
    split at h
    · cases h
    · rename_i e he
      split at h
      · rename_i hcolumn
        cases h
        obtain ⟨htable, before, after, htables, hbefore⟩ := List.find?_eq_some_iff_append.1 he
        refine ⟨by simpa using htable, before, e, after, htables, ?_, by simpa using htable, ?_⟩
        · simpa using hbefore
        · simpa using hcolumn
      · cases h
  · rintro ⟨rfl, before, e, after, htables, hbefore, rfl, hcolumn⟩
    have he : scope.tables.find? (·.table == e.table) = some e := by
      rw [List.find?_eq_some_iff_append]
      exact ⟨by simp, before, after, htables, by simpa using hbefore⟩
    simp [he, hcolumn]

theorem succeeds_resolveBare {column : String} :
    Succeeds (scope.resolveBare column) ↔ scope.OneDeclares column := by
  simp only [resolveBare]
  constructor
  · rintro ⟨found, h⟩
    split at h
    · cases h
    · rename_i e he
      obtain ⟨before, after, htables, hbefore, hcolumn, hafter⟩ := List.filter_eq_cons_iff.1 he
      rw [List.filter_eq_nil_iff] at hafter
      refine ⟨before, e, after, htables, by simpa using hcolumn, ?_⟩
      intro e' he'
      rcases List.mem_append.1 he' with he' | he'
      · simpa using hbefore e' he'
      · simpa using hafter e' he'
    · cases h
  · rintro ⟨before, e, after, htables, hcolumn, hothers⟩
    have he : scope.tables.filter (·.columns.contains column) = [e] := by
      rw [List.filter_eq_cons_iff]
      refine ⟨before, after, htables, ?_, by simpa using hcolumn, List.filter_eq_nil_iff.2 ?_⟩
      · intro e' he'
        simpa using hothers e' (List.mem_append_left after he')
      · intro e' he'
        simpa using hothers e' (List.mem_append_right before he')
    rw [he]
    exact succeeds_ok e.table

theorem succeeds_checkIdentifier {s : String} :
    Succeeds (checkIdentifier s) ↔ isPlainIdentifier s = true := succeeds_ite

theorem succeeds_resolve {ref : ColumnRef} : Succeeds (scope.resolve ref) ↔ scope.Resolves ref := by
  obtain ⟨table, column⟩ := ref
  cases table with
  | none =>
    have hiff : Succeeds (scope.resolve ⟨none, column⟩) ↔
        Succeeds (checkIdentifier column) ∧ Succeeds (scope.resolveBare column) :=
      succeeds_bind fun _ _ => Iff.rfl
    rw [hiff, succeeds_checkIdentifier, succeeds_resolveBare]
    refine ⟨fun h => .bare h.1 h.2, fun h => ?_⟩
    cases h with
    | bare hcolumn h => exact ⟨hcolumn, h⟩
  | some table =>
    have hiff : Succeeds (scope.resolve ⟨some table, column⟩) ↔
        Succeeds (checkIdentifier column) ∧ Succeeds (checkIdentifier table) ∧
          Succeeds (scope.resolveIn table column) :=
      succeeds_bind fun _ _ => succeeds_bind fun _ _ => Iff.rfl
    have hin : Succeeds (scope.resolveIn table column) ↔ scope.FirstDeclares table column := by
      simp only [Succeeds, resolveIn_eq_ok, exists_eq_left]
    rw [hiff, succeeds_checkIdentifier, succeeds_checkIdentifier, hin]
    refine ⟨fun h => .qualified h.2.1 h.1 h.2.2, fun h => ?_⟩
    cases h with
    | qualified htable hcolumn h => exact ⟨hcolumn, htable, h⟩

theorem succeeds_column {ref : ColumnRef} : Succeeds (scope.column ref) ↔ scope.Resolves ref := by
  rw [← succeeds_resolve]
  have hwritten : ∀ table : String, Succeeds
      (if ref.table.isSome || scope.isJoined then pure [.word (table ++ "." ++ ref.name)]
        else pure [.word ref.name] : Except QueryError Pieces) := by
    intro table
    split
    · exact succeeds_ok _
    · exact succeeds_ok _
  exact (succeeds_bind fun table _ => iff_of_true (hwritten table) trivial).trans
    (and_iff_left trivial)

end Scope

/-- A call of one of the functions that conditions may use, in any ASCII case. -/
def IsCall (name : String) (count : Nat) : Prop :=
  Ascii.lower name ∈ ["lower", "upper", "length"] ∧ count = 1 ∨
    Ascii.lower name = "coalesce" ∧ 2 ≤ count

theorem succeeds_ofCall {name : String} {count : Nat} :
    Succeeds (SqlFunction.ofCall name count) ↔ IsCall name count := by
  have hcall : Succeeds (SqlFunction.ofCall name count) ↔
      ∃ f, SqlFunction.ofName? name = some f ∧ f.accepts count = true := by
    rw [SqlFunction.ofCall]
    cases SqlFunction.ofName? name with
    | none => simp [not_succeeds_error]
    | some f => simp [succeeds_ite]
  rw [hcall, SqlFunction.ofName?, IsCall]
  by_cases hlower : Ascii.lower name = "lower"
  · simp [hlower, SqlFunction.accepts]
  by_cases hupper : Ascii.lower name = "upper"
  · simp [hupper, SqlFunction.accepts]
  by_cases hlength : Ascii.lower name = "length"
  · simp [hlength, SqlFunction.accepts]
  by_cases hcoalesce : Ascii.lower name = "coalesce"
  · simp [hcoalesce, SqlFunction.accepts]
  · simp [hlower, hupper, hlength, hcoalesce]

/-- Operands whose columns resolve and whose calls are those of known functions. A window has no
place in a condition. -/
inductive Operand.WellFormed (scope : Scope) : Operand → Prop
  | literal (value : Scalar) : WellFormed scope (.literal value)
  | column {ref : ColumnRef} (h : scope.Resolves ref) : WellFormed scope (.column ref)
  | call {name : String} {arguments : List Operand} (hcall : IsCall name arguments.length)
      (h : ∀ argument ∈ arguments, WellFormed scope argument) :
      WellFormed scope (.function name arguments)

/-- Predicates whose tests are of well-formed operands, none of them against a null. -/
inductive Predicate.WellFormed (scope : Scope) : Predicate → Prop
  | compare {left right : Operand} (op : CompareOp) (hleft : left ≠ .literal .null)
      (hright : right ≠ .literal .null) (hl : left.WellFormed scope) (hr : right.WellFormed scope) :
      WellFormed scope (.compare left op right)
  | member {operand : Operand} {values : List Scalar} (negated : Bool) (hvalues : .null ∉ values)
      (h : operand.WellFormed scope) : WellFormed scope (.member operand values negated)
  | isNull {operand : Operand} (negated : Bool) (h : operand.WellFormed scope) :
      WellFormed scope (.isNull operand negated)
  | all {items : List Predicate} (h : ∀ item ∈ items, WellFormed scope item) :
      WellFormed scope (.all items)
  | any {items : List Predicate} (h : ∀ item ∈ items, WellFormed scope item) :
      WellFormed scope (.any items)
  | not {inner : Predicate} (h : WellFormed scope inner) : WellFormed scope (.not inner)

section Conditions

variable {scope : Scope}

mutual

theorem Operand.succeeds_render (operand : Operand) :
    Succeeds (operand.render scope) ↔ operand.WellFormed scope := by
  cases operand with
  | column ref =>
    rw [Operand.render, Scope.succeeds_column]
    exact ⟨.column, fun | .column h => h⟩
  | literal value =>
    rw [Operand.render]
    exact iff_of_true (succeeds_ok _) (.literal value)
  | function name arguments =>
    have hiff : Succeeds ((Operand.function name arguments).render scope) ↔
        IsCall name arguments.length ∧ ∀ argument ∈ arguments, argument.WellFormed scope := by
      rw [Operand.render, ← succeeds_ofCall, ← Operand.succeeds_renderAll arguments]
      exact succeeds_bind fun _ _ => succeeds_bind_ok
    rw [hiff]
    exact ⟨fun h => .call h.1 h.2, fun | .call hcall h => ⟨hcall, h⟩⟩
  | window name partition =>
    rw [Operand.render]
    exact iff_of_false (not_succeeds_error _) nofun

theorem Operand.succeeds_renderAll (operands : List Operand) :
    Succeeds (Operand.renderAll scope operands) ↔
      ∀ operand ∈ operands, operand.WellFormed scope := by
  cases operands with
  | nil =>
    rw [Operand.renderAll]
    exact iff_of_true (succeeds_ok _) (List.forall_mem_nil _)
  | cons operand rest =>
    rw [Operand.renderAll, List.forall_mem_cons, ← Operand.succeeds_render operand,
      ← Operand.succeeds_renderAll rest]
    exact succeeds_bind fun _ _ => succeeds_bind_ok

end

mutual

/-- An operand is checked as it would be rendered. -/
theorem Operand.check_eq (operand : Operand) :
    operand.check scope = (fun _ => ()) <$> operand.render scope := by
  cases operand with
  | column ref =>
    rw [Operand.check, Operand.render, Scope.column]
    cases scope.resolve ref with
    | error e => rfl
    | ok table =>
      simp only [Except.map, bind, Except.bind]
      split <;> rfl
  | literal value =>
    rw [Operand.check, Operand.render]
    rfl
  | function name arguments =>
    rw [Operand.check, Operand.render, Operand.checkAll_eq arguments]
    cases SqlFunction.ofCall name arguments.length with
    | error e => rfl
    | ok f => cases Operand.renderAll scope arguments <;> rfl
  | window name partition =>
    rw [Operand.check, Operand.render]
    rfl

theorem Operand.checkAll_eq (operands : List Operand) :
    Operand.checkAll scope operands = (fun _ => ()) <$> Operand.renderAll scope operands := by
  cases operands with
  | nil =>
    rw [Operand.checkAll, Operand.renderAll]
    rfl
  | cons operand rest =>
    rw [Operand.checkAll, Operand.renderAll, Operand.check_eq operand, Operand.checkAll_eq rest]
    cases operand.render scope with
    | error e => rfl
    | ok part => cases Operand.renderAll scope rest <;> rfl

end

theorem Operand.succeeds_check (operand : Operand) :
    Succeeds (operand.check scope) ↔ operand.WellFormed scope := by
  rw [Operand.check_eq, succeeds_map, Operand.succeeds_render]

theorem Operand.isNullLiteral_iff {operand : Operand} :
    operand.isNullLiteral = true ↔ operand = .literal .null := by
  cases operand with
  | literal value => cases value <;> simp [isNullLiteral]
  | _ => simp [isNullLiteral]

theorem Scalar.any_isNull_iff {values : List Scalar} : values.any isNull = true ↔ .null ∈ values := by
  have hnull : ∀ v : Scalar, v.isNull = true ↔ v = .null := by
    intro v
    cases v <;> simp [isNull]
  simp [List.any_eq_true, hnull]

mutual

theorem Predicate.succeeds_render (p : Predicate) :
    Succeeds (p.render scope) ↔ p.WellFormed scope := by
  cases p with
  | compare left op right =>
    have hiff : Succeeds ((Predicate.compare left op right).render scope) ↔
        ¬(left = .literal .null ∨ right = .literal .null) ∧
          left.WellFormed scope ∧ right.WellFormed scope := by
      rw [Predicate.render, succeeds_throwIf, Bool.or_eq_true, Operand.isNullLiteral_iff,
        Operand.isNullLiteral_iff, ← left.succeeds_render, ← right.succeeds_render]
      exact and_congr_right fun _ => succeeds_bind fun _ _ => succeeds_bind_ok
    rw [hiff, not_or]
    exact ⟨fun h => .compare op h.1.1 h.1.2 h.2.1 h.2.2,
      fun | .compare _ hleft hright hl hr => ⟨⟨hleft, hright⟩, hl, hr⟩⟩
  | member operand values negated =>
    have hiff : Succeeds ((Predicate.member operand values negated).render scope) ↔
        .null ∉ values ∧ operand.WellFormed scope := by
      rw [Predicate.render, succeeds_throwIf, Scalar.any_isNull_iff]
      refine and_congr_right fun _ => ?_
      split
      · rw [← operand.succeeds_check]
        exact succeeds_bind_ok
      · rw [← operand.succeeds_render]
        exact succeeds_bind_ok
    rw [hiff]
    exact ⟨fun h => .member negated h.1 h.2, fun | .member _ hvalues h => ⟨hvalues, h⟩⟩
  | isNull operand negated =>
    have hiff : Succeeds ((Predicate.isNull operand negated).render scope) ↔
        operand.WellFormed scope := by
      rw [Predicate.render, ← operand.succeeds_render]
      exact succeeds_bind_ok
    rw [hiff]
    exact ⟨.isNull negated, fun | .isNull _ h => h⟩
  | all items =>
    have hiff : Succeeds ((Predicate.all items).render scope) ↔
        ∀ item ∈ items, item.WellFormed scope := by
      rw [Predicate.render, ← Predicate.succeeds_renderItems items]
      cases items with
      | nil => exact iff_of_true (succeeds_ok _) (by rw [Predicate.renderItems]; exact succeeds_ok _)
      | cons item rest => exact succeeds_bind_ok
    rw [hiff]
    exact ⟨.all, fun | .all h => h⟩
  | any items =>
    have hiff : Succeeds ((Predicate.any items).render scope) ↔
        ∀ item ∈ items, item.WellFormed scope := by
      rw [Predicate.render, ← Predicate.succeeds_renderItems items]
      cases items with
      | nil => exact iff_of_true (succeeds_ok _) (by rw [Predicate.renderItems]; exact succeeds_ok _)
      | cons item rest => exact succeeds_bind_ok
    rw [hiff]
    exact ⟨.any, fun | .any h => h⟩
  | not inner =>
    have hiff : Succeeds ((Predicate.not inner).render scope) ↔ inner.WellFormed scope := by
      rw [Predicate.render, ← Predicate.succeeds_render inner]
      exact succeeds_bind_ok
    rw [hiff]
    exact ⟨.not, fun | .not h => h⟩

theorem Predicate.succeeds_renderItems (items : List Predicate) :
    Succeeds (Predicate.renderItems scope items) ↔ ∀ item ∈ items, item.WellFormed scope := by
  cases items with
  | nil =>
    rw [Predicate.renderItems]
    exact iff_of_true (succeeds_ok _) (List.forall_mem_nil _)
  | cons item rest =>
    rw [Predicate.renderItems, List.forall_mem_cons, ← Predicate.succeeds_render item,
      ← Predicate.succeeds_renderItems rest]
    exact succeeds_bind fun _ _ => succeeds_bind_ok

end

end Conditions

/-- The largest number of rows that fits a signed word of 64 bits. -/
def IsPaging (n : Nat) : Prop := n ≤ 9223372036854775807

/-- An explicit projection: columns that resolve, under distinct names. -/
structure Scope.Projects (scope : Scope) (columns : List String) : Prop where
  nonempty : columns ≠ []
  distinct : (columns.map fun column => (ColumnRef.parse column).name).Nodup
  resolves : ∀ column ∈ columns, scope.Resolves (.parse column)

/-- Assignments to distinct columns of the target, none of them qualified. -/
structure Scope.Assigns (scope : Scope) (assignments : List (String × Scalar)) : Prop where
  nonempty : assignments ≠ []
  distinct : (assignments.map Prod.fst).Nodup
  bare : ∀ a ∈ assignments, (ColumnRef.parse a.1).table = none
  resolves : ∀ a ∈ assignments, scope.Resolves (.parse a.1)

/-- What a selection needs in the scope of all its tables. -/
@[mk_iff]
structure Select.WellFormed (s : Select) (scope : Scope) : Prop where
  projection : ∀ columns, s.columns = some columns → scope.Projects columns
  joins : ∀ j ∈ s.joins, j.on.WellFormed scope
  condition : ∀ p, s.predicate = some p → p.WellFormed scope
  order : ∀ key ∈ s.order, scope.Resolves (.parse key.1)
  limit : ∀ n, s.limit = some n → IsPaging n
  offset : ∀ n, s.offset = some n → IsPaging n

@[mk_iff]
structure Update.WellFormed (s : Update) (scope : Scope) : Prop where
  assigns : scope.Assigns s.assignments
  bounded : s.predicate ≠ none ∨ s.allRows = true
  condition : ∀ p, s.predicate = some p → p.WellFormed scope

@[mk_iff]
structure Delete.WellFormed (s : Delete) (scope : Scope) : Prop where
  bounded : s.predicate ≠ none ∨ s.allRows = true
  condition : ∀ p, s.predicate = some p → p.WellFormed scope

/-- What a statement says is about the tables in scope. -/
def Statement.Fits (scope : Scope) : Statement → Prop
  | .select s => s.WellFormed scope
  | .insert s => scope.Assigns s.values
  | .update s => s.WellFormed scope
  | .delete s => s.WellFormed scope

/-- The tables of a statement have plain names and columns, and it fits them. -/
structure Statement.WellFormed (s : Statement) : Prop where
  plain : s.scope.Plain
  fits : s.Fits s.scope

/-- Names that are checked one after the other against those before them. -/
theorem nodup_unseen_cons {α : Type} {seen : List α} {a : α} {as : List α} :
    (a :: as).Nodup ∧ (∀ b ∈ a :: as, b ∉ seen) ↔
      a ∉ seen ∧ as.Nodup ∧ ∀ b ∈ as, b ∉ a :: seen := by
  simp only [List.nodup_cons, List.mem_cons, not_or]
  grind

theorem Select.firstRepeated_eq_none {seen names : List String} :
    firstRepeated seen names = none ↔ names.Nodup ∧ ∀ name ∈ names, name ∉ seen := by
  induction names generalizing seen with
  | nil => simp [firstRepeated]
  | cons name names ih =>
    rw [firstRepeated, nodup_unseen_cons, ← ih]
    by_cases hseen : name ∈ seen <;> simp [hseen]

section Clauses

variable {scope : Scope}

theorem Scope.succeeds_ofEntities {target : Entity} {joined : List Entity} :
    ofEntities target joined = .ok ⟨target, joined⟩ ↔ Scope.Plain ⟨target, joined⟩ := by
  constructor
  · exact fun h => (ofEntities_eq_ok h).2
  · intro hplain
    have htables := List.forall_mem_cons.1 hplain
    rw [ofEntities, bind_eq_ok]
    refine ⟨(), checkEntity_eq_ok.2 htables.1, bind_eq_ok.2 ⟨(), ?_, rfl⟩⟩
    exact forM_eq_ok.2 fun e he => checkEntity_eq_ok.2 (htables.2 e he)

/-- What is done in a scope is done where its tables are plain. -/
theorem Scope.succeeds_ofEntities_bind {α : Type} {target : Entity} {joined : List Entity}
    {f : Scope → Except QueryError α} :
    Succeeds (ofEntities target joined >>= f) ↔
      Scope.Plain ⟨target, joined⟩ ∧ Succeeds (f ⟨target, joined⟩) := by
  have hscope : Succeeds (ofEntities target joined) ↔ Scope.Plain ⟨target, joined⟩ := by
    rw [← succeeds_ofEntities]
    constructor
    · rintro ⟨scope, h⟩
      obtain ⟨rfl, _⟩ := ofEntities_eq_ok h
      exact h
    · exact fun h => ⟨_, h⟩
  rw [← hscope]
  refine succeeds_bind fun scope h => ?_
  obtain ⟨rfl, _⟩ := ofEntities_eq_ok h
  rfl

theorem Scope.succeeds_checkAssignments {seen : List String} {assignments : List (String × Scalar)} :
    Succeeds (scope.checkAssignments seen assignments) ↔
      (∀ a ∈ assignments, (ColumnRef.parse a.1).table = none ∧ scope.Resolves (.parse a.1)) ∧
        (assignments.map Prod.fst).Nodup ∧ ∀ column ∈ assignments.map Prod.fst, column ∉ seen := by
  induction assignments generalizing seen with
  | nil => exact iff_of_true (succeeds_ok ()) (by simp)
  | cons a rest ih =>
    obtain ⟨column, value⟩ := a
    have hiff : Succeeds (scope.checkAssignments seen ((column, value) :: rest)) ↔
        (ColumnRef.parse column).table = none ∧ scope.Resolves (.parse column) ∧
          column ∉ seen ∧ Succeeds (scope.checkAssignments (column :: seen) rest) := by
      rw [checkAssignments, succeeds_throwIf, Bool.not_eq_true, Option.isSome_eq_false_iff,
        Option.isNone_iff_eq_none, ← succeeds_resolve]
      refine and_congr_right fun _ => succeeds_bind fun _ _ => ?_
      rw [succeeds_throwIf, List.contains_iff_mem]
    rw [hiff, ih, List.map_cons, nodup_unseen_cons, List.forall_mem_cons]
    tauto

theorem Scope.succeeds_assigns {assignments : List (String × Scalar)} :
    assignments ≠ [] ∧ Succeeds (scope.checkAssignments [] assignments) ↔
      scope.Assigns assignments := by
  rw [Scope.succeeds_checkAssignments]
  constructor
  · rintro ⟨hne, hcolumns, hdistinct, _⟩
    exact ⟨hne, hdistinct, fun a ha => (hcolumns a ha).1, fun a ha => (hcolumns a ha).2⟩
  · rintro ⟨hne, hdistinct, hbare, hresolves⟩
    exact ⟨hne, fun a ha => ⟨hbare a ha, hresolves a ha⟩, hdistinct, by simp⟩

theorem succeeds_wherePieces {p : Option Predicate} :
    Succeeds (wherePieces scope p) ↔ ∀ q, p = some q → q.WellFormed scope := by
  cases p with
  | none => exact iff_of_true (succeeds_ok _) (by simp)
  | some p =>
    have hiff : Succeeds (wherePieces scope (some p)) ↔ Succeeds (p.render scope) :=
      succeeds_bind_ok
    rw [hiff, p.succeeds_render]
    simp

theorem succeeds_pagingPieces (keyword : String) {n : Option Nat} :
    Succeeds (pagingPieces keyword n) ↔ ∀ m, n = some m → IsPaging m := by
  have hlargest : maxPaging = 9223372036854775807 := by decide
  cases n with
  | none => exact iff_of_true (succeeds_ok _) (by simp)
  | some n =>
    rw [pagingPieces, succeeds_ite, hlargest]
    simp [IsPaging]

theorem succeeds_columnList {refs : List ColumnRef} :
    Succeeds (columnList scope refs) ↔ ∀ ref ∈ refs, scope.Resolves ref := by
  simp only [← Scope.succeeds_column, ← succeeds_mapM]
  exact succeeds_bind_ok

end Clauses

namespace Select

variable {s : Select}

theorem succeeds_projection {columns : List String} :
    Succeeds (s.projection columns) ↔
      columns ≠ [] ∧ (columns.map fun column => (ColumnRef.parse column).name).Nodup := by
  have hdistinct : firstRepeated [] ((columns.map ColumnRef.parse).map (·.name)) = none ↔
      (columns.map fun column => (ColumnRef.parse column).name).Nodup := by
    rw [firstRepeated_eq_none, List.map_map]
    exact and_iff_left (by simp)
  rw [projection, succeeds_throwIf, List.isEmpty_iff, ← hdistinct]
  refine and_congr_right fun _ => ?_
  dsimp only
  split
  · rename_i heq
    exact iff_of_false (not_succeeds_error _) (by rw [heq]; exact Option.some_ne_none _)
  · rename_i heq
    exact iff_of_true (succeeds_ok _) heq

theorem projection_eq_ok {columns : List String} {refs : List ColumnRef}
    (h : s.projection columns = .ok refs) : refs = columns.map ColumnRef.parse := by
  rw [projection, throwIf_eq_ok] at h
  have h := h.2
  dsimp only at h
  split at h
  · cases h
  · cases h
    rfl

/-- The columns of the target resolve under its table's name: it is the first table in scope. -/
theorem resolves_target {scope : Scope} (hplain : scope.Plain) {column : String}
    (hcolumn : column ∈ scope.target.columns) :
    scope.Resolves ⟨some scope.target.table, column⟩ := by
  have htarget : scope.target.Plain := hplain _ List.mem_cons_self
  refine .qualified htarget.1 (htarget.2 column hcolumn) ?_
  exact ⟨[], scope.target, scope.joined, rfl, List.forall_mem_nil _, rfl, hcolumn⟩

theorem succeeds_outputPieces {scope : Scope} (hplain : scope.Plain)
    (htarget : scope.target = s.entity) :
    Succeeds (s.outputPieces scope) ↔ ∀ columns, s.columns = some columns → scope.Projects columns := by
  rw [outputPieces]
  cases hcolumns : s.columns with
  | some columns =>
    have hiff : Succeeds (s.projection columns >>= fun refs => columnList scope refs) ↔
        (columns ≠ [] ∧ (columns.map fun column => (ColumnRef.parse column).name).Nodup) ∧
          ∀ column ∈ columns, scope.Resolves (.parse column) := by
      rw [← succeeds_projection (s := s)]
      refine succeeds_bind fun refs hrefs => ?_
      rw [projection_eq_ok hrefs, succeeds_columnList, List.forall_mem_map]
    dsimp only
    rw [hiff]
    constructor
    · rintro ⟨⟨hne, hdistinct⟩, hresolves⟩ _ ⟨⟩
      exact ⟨hne, hdistinct, hresolves⟩
    · intro h
      obtain ⟨hne, hdistinct, hresolves⟩ := h columns rfl
      exact ⟨⟨hne, hdistinct⟩, hresolves⟩
  | none =>
    refine iff_of_true ?_ (by simp)
    dsimp only
    split
    · exact succeeds_ok _
    · rw [succeeds_columnList, List.forall_mem_map]
      intro column hcolumn
      rw [← htarget] at hcolumn ⊢
      exact resolves_target hplain hcolumn

theorem succeeds_orderPieces {scope : Scope} :
    Succeeds (s.orderPieces scope) ↔ ∀ key ∈ s.order, scope.Resolves (.parse key.1) := by
  rw [orderPieces]
  split
  · rename_i hempty
    rw [List.isEmpty_iff.1 hempty]
    exact iff_of_true (succeeds_ok _) (List.forall_mem_nil _)
  · refine succeeds_bind_ok.trans (succeeds_mapM.trans (forall₂_congr fun key _ => ?_))
    rw [← Scope.succeeds_column]
    exact succeeds_bind_ok

theorem succeeds_pieces :
    Succeeds s.pieces ↔
      (Statement.scope (.select s)).Plain ∧ s.WellFormed (Statement.scope (.select s)) := by
  rw [pieces, Scope.succeeds_ofEntities_bind]
  refine and_congr_right fun hplain => ?_
  change _ ↔ s.WellFormed ⟨s.entity, s.joins.map (·.entity)⟩
  have hjoins : ∀ scope : Scope, Succeeds (s.joins.mapM (joinPieces scope)) ↔
      ∀ j ∈ s.joins, j.on.WellFormed scope := by
    intro scope
    refine succeeds_mapM.trans (forall₂_congr fun j _ => ?_)
    rw [← j.on.succeeds_render]
    exact succeeds_bind_ok
  rw [wellFormed_iff, ← succeeds_outputPieces hplain rfl]
  simp only [← hjoins, ← succeeds_wherePieces, ← succeeds_orderPieces]
  rw [← succeeds_pagingPieces "LIMIT", ← succeeds_pagingPieces "OFFSET"]
  exact succeeds_bind fun _ _ => succeeds_bind fun _ _ => succeeds_bind fun _ _ =>
    succeeds_bind fun _ _ => succeeds_bind fun _ _ => succeeds_bind_ok

end Select

/-- Assigned columns are rendered where they are accepted. -/
theorem Scope.Assigns.succeeds_mapM {scope : Scope} {assignments : List (String × Scalar)}
    (h : scope.Assigns assignments) {α : Type} (f : Pieces → Scalar → α) :
    Succeeds (assignments.mapM fun (column, v) => do
      let part ← scope.column (.parse column)
      pure (f part v)) := by
  rw [StatementGate.succeeds_mapM]
  intro a ha
  exact succeeds_bind_ok.2 (Scope.succeeds_column.2 (h.resolves a ha))

theorem Insert.succeeds_pieces {s : Insert} :
    Succeeds s.pieces ↔ Scope.Plain ⟨s.entity, []⟩ ∧ Scope.Assigns ⟨s.entity, []⟩ s.values := by
  rw [pieces, Scope.succeeds_ofEntities_bind]
  refine and_congr_right fun _ => ?_
  rw [succeeds_throwIf, List.isEmpty_iff, ← Scope.succeeds_assigns]
  refine and_congr_right fun hne => ?_
  refine (succeeds_bind (P := True) fun _ hassigned => iff_true_intro ?_).trans (and_iff_left trivial)
  have hassigns := Scope.succeeds_assigns.1 ⟨hne, (), hassigned⟩
  refine succeeds_bind_ok.2 (succeeds_columnList.2 ?_)
  rw [List.forall_mem_map]
  exact hassigns.resolves

/-- A mutation goes through where it has a condition or was permitted to go without one. -/
theorem bounded_iff {p : Option Predicate} {allRows : Bool} :
    ¬(p.isNone && !allRows) = true ↔ p ≠ none ∨ allRows = true := by
  cases p <;> cases allRows <;> simp

theorem Update.succeeds_pieces {s : Update} :
    Succeeds s.pieces ↔ Scope.Plain ⟨s.entity, []⟩ ∧ s.WellFormed ⟨s.entity, []⟩ := by
  rw [pieces, Scope.succeeds_ofEntities_bind]
  refine and_congr_right fun _ => ?_
  rw [succeeds_throwIf, List.isEmpty_iff, succeeds_throwIf, bounded_iff, wellFormed_iff,
    ← Scope.succeeds_assigns, ← succeeds_wherePieces]
  have hrest : ∀ a, Scope.checkAssignments ⟨s.entity, []⟩ [] s.assignments = .ok a →
      s.assignments ≠ [] → (Succeeds (do
        let assignments ← s.assignments.mapM fun (column, v) => do
          let column ← Scope.column ⟨s.entity, []⟩ (ColumnRef.parse column)
          pure (column ++ [.space, .symbol "=", .space, .bind v])
        let condition ← wherePieces ⟨s.entity, []⟩ s.predicate
        pure (Piece.words ["UPDATE", s.entity.table] ++ Piece.phrase ["SET"] ++
          Piece.separated Piece.comma assignments ++ condition)) ↔
        Succeeds (wherePieces ⟨s.entity, []⟩ s.predicate)) := by
    intro a ha hne
    have hassigns := Scope.succeeds_assigns.1 ⟨hne, a, ha⟩
    refine (succeeds_bind fun _ _ => succeeds_bind_ok).trans (and_iff_right ?_)
    exact hassigns.succeeds_mapM fun part v => part ++ [.space, .symbol "=", .space, .bind v]
  by_cases hne : s.assignments = []
  · simp [hne]
  · rw [succeeds_bind fun a ha => hrest a ha hne]
    tauto

theorem Delete.succeeds_pieces {s : Delete} :
    Succeeds s.pieces ↔ Scope.Plain ⟨s.entity, []⟩ ∧ s.WellFormed ⟨s.entity, []⟩ := by
  rw [pieces, Scope.succeeds_ofEntities_bind]
  refine and_congr_right fun _ => ?_
  rw [succeeds_throwIf, bounded_iff, wellFormed_iff, ← succeeds_wherePieces]
  exact and_congr_right fun _ => succeeds_bind_ok

/-- There is a text for exactly the well-formed statements. -/
theorem succeeds_serialize_iff (s : Statement) : Succeeds s.serialize ↔ s.WellFormed := by
  have hpieces : Succeeds s.serialize ↔ Succeeds s.pieces := by
    rw [Statement.serialize_eq]
    exact succeeds_bind_ok
  rw [hpieces]
  cases s with
  | select s => exact Select.succeeds_pieces.trans ⟨fun h => ⟨h.1, h.2⟩, fun h => ⟨h.1, h.2⟩⟩
  | insert s => exact Insert.succeeds_pieces.trans ⟨fun h => ⟨h.1, h.2⟩, fun h => ⟨h.1, h.2⟩⟩
  | update s => exact Update.succeeds_pieces.trans ⟨fun h => ⟨h.1, h.2⟩, fun h => ⟨h.1, h.2⟩⟩
  | delete s => exact Delete.succeeds_pieces.trans ⟨fun h => ⟨h.1, h.2⟩, fun h => ⟨h.1, h.2⟩⟩

end StatementGate
