import StatementGate.Proofs.Query.References

/-! # Conditions of mutations

Changes and deletions that were built without leave to touch all rows. They are rendered with a
condition, and it tests the columns that their filters test. Filters that test none, such as
membership in empty lists, leave a condition of constants and placeholders. -/

namespace StatementGate

open Piece (spell values)

namespace Predicate

theorem testedByAll_eq (ps : List Predicate) : testedByAll ps = ps.flatMap tested := by
  induction ps with
  | nil => rw [testedByAll, List.flatMap_nil]
  | cons p ps ih => rw [testedByAll, ih, List.flatMap_cons]

theorem tested_and (p r : Predicate) : (p.and r).tested = p.tested ++ r.tested := by
  cases p with
  | all items => simp only [Predicate.and, tested, testedByAll_eq, List.flatMap_append,
      List.flatMap_cons, List.flatMap_nil, List.append_nil]
  | _ => simp only [Predicate.and, tested, testedByAll, List.append_nil]

theorem conditionTested_conjoin (condition : Option Predicate) (p : Predicate) :
    Statement.conditionTested (conjoin condition p) =
      Statement.conditionTested condition ++ p.tested := by
  cases condition with
  | none => rfl
  | some first => exact tested_and first p

end Predicate

namespace Statement

/-- Whether a statement may go without a condition. -/
def allRows : Statement → Bool
  | .select _ | .insert _ => true
  | .update s => s.allRows
  | .delete s => s.allRows

/-- Changes and deletions, built call by call without leave for all rows, and the filters among the
calls. -/
inductive Built : Statement → List Predicate → Prop
  | update (entity : Entity) : Built (.update (.of entity)) []
  | delete (entity : Entity) : Built (.delete (.of entity)) []
  | set {s : Update} {filters : List Predicate} (column : String) (v : Scalar)
      (h : Built (.update s) filters) : Built (.update (s.set column v)) filters
  | filter {s : Statement} {filters : List Predicate} (p : Predicate) (h : Built s filters) :
      Built (s.filter p) (filters ++ [p])

variable {s : Statement} {filters : List Predicate}

@[simp] theorem filter_allRows (s : Statement) (p : Predicate) : (s.filter p).allRows = s.allRows := by
  cases s <;> rfl

theorem filter_predicate (p : Predicate) (hkind : s.kind ≠ .insert) :
    (s.filter p).predicate = Predicate.conjoin s.predicate p := by
  cases s with
  | insert s => exact absurd rfl hkind
  | _ => rfl

theorem kind_of_allRows (h : s.allRows = false) : s.kind ≠ .select ∧ s.kind ≠ .insert := by
  cases s with
  | select s => cases h
  | insert s => cases h
  | _ => simp [kind]

theorem joins_of_kind (h : s.kind ≠ .select) : s.joins = [] := by
  cases s with
  | select s => exact absurd rfl h
  | _ => rfl

/-- A statement that needs a condition is rendered with one. -/
theorem exists_predicate (hbounded : s.allRows = false) {ps : Pieces} (h : s.pieces = .ok ps) :
    ∃ p, s.predicate = some p := by
  rw [← Option.ne_none_iff_exists']
  cases s with
  | select s => cases hbounded
  | insert s => cases hbounded
  | update s =>
    have hneeded := (Update.succeeds_pieces.1 ⟨ps, h⟩).2.bounded
    exact hneeded.resolve_right (by simpa [allRows] using hbounded)
  | delete s =>
    have hneeded := (Delete.succeeds_pieces.1 ⟨ps, h⟩).2.bounded
    exact hneeded.resolve_right (by simpa [allRows] using hbounded)

namespace Built

theorem allRows_eq (h : s.Built filters) : s.allRows = false := by
  induction h with
  | update entity => rfl
  | delete entity => rfl
  | set column v h ih => exact ih
  | filter p h ih => rw [filter_allRows, ih]

/-- Each filter adds the columns it tests to those of the condition. -/
theorem tested_eq (h : s.Built filters) :
    conditionTested s.predicate = filters.flatMap Predicate.tested := by
  induction h with
  | update entity => rfl
  | delete entity => rfl
  | set column v h ih => exact ih
  | filter p h ih =>
    rw [filter_predicate p (kind_of_allRows h.allRows_eq).2, Predicate.conditionTested_conjoin, ih,
      List.flatMap_append, List.flatMap_singleton]

end Built

/-- What a statement with a condition and no joins is rendered to. -/
theorem exists_condition {ps : Pieces} {p : Predicate} (hkind : s.kind ≠ .select ∧ s.kind ≠ .insert)
    (hp : s.predicate = some p) (h : s.pieces = .ok ps) :
    ∃ head condition columns, Sql.tokens (Piece.text ps) = head ++ "WHERE" :: condition ∧
      s.IsHead head ∧ Sql.ConditionTokens condition columns ∧
      List.Forall₂ s.scope.Writes p.tested columns := by
  obtain ⟨head, joins, condition, closing, heq, hlayout⟩ := exists_layout hkind.2 h
  obtain ⟨parts, hparts, rfl⟩ := hlayout.joins
  rw [joins_of_kind hkind.1, List.forall₂_nil_left_iff] at hparts
  have hcondition := hlayout.condition
  rw [hp] at hcondition
  obtain ⟨rendered, hrendered, hcondition⟩ := bind_eq_ok.1 hcondition
  cases hcondition
  obtain ⟨columns, hcolumns, hwrites⟩ := p.derives hlayout.plain hrendered (values head).length
  refine ⟨spell 0 head, _, columns, ?_, hlayout.isHead, hcolumns, hwrites⟩
  rw [tokens_text hkind.2 h, heq, hparts, hlayout.unclosed hkind.1, List.flatten_nil, List.nil_append,
    List.append_nil, Piece.spell_append, Piece.spell_phrase, Nat.zero_add]
  rfl

theorem Built.scope_eq (h : s.Built filters) : s.scope = ⟨s.entity, []⟩ := by
  rw [scope, joins_of_kind (kind_of_allRows h.allRows_eq).1, List.map_nil]

end Statement

/-- A change or a deletion that was built without leave for all rows is rendered with a condition.
The columns in it are those that the filters test, all of the target; so it tests a column where a
filter does. -/
theorem filters_tested {s : Statement} {filters : List Predicate} {q : SerializedQuery}
    (hbuilt : s.Built filters) (h : s.serialize = .ok q) :
    ∃ head condition columns, Sql.tokens q.sql = head ++ "WHERE" :: condition ∧ s.IsHead head ∧
      Sql.references .output .operator ("WHERE" :: condition) =
        columns.map (fun column => (.condition, column)) ∧
      columns.map (·.name) = (filters.flatMap Predicate.tested).map (·.name) ∧
      (∀ column ∈ columns, s.entity.offers column = true) ∧
      (columns ≠ [] ↔ ∃ p ∈ filters, p.tested ≠ []) := by
  obtain ⟨ps, hps, rfl⟩ := Statement.serialize_eq_ok h
  obtain ⟨p, hp⟩ := Statement.exists_predicate hbuilt.allRows_eq hps
  have htested := hbuilt.tested_eq
  rw [hp, Statement.conditionTested] at htested
  obtain ⟨head, condition, columns, htokens, hhead, hcondition, hwrites⟩ :=
    Statement.exists_condition (Statement.kind_of_allRows hbuilt.allRows_eq) hp hps
  have hnames := Scope.Writes.names_eq hwrites
  rw [htested] at hnames hwrites
  have hreferences := hcondition.refers .condition [] fun _ ht => by cases ht
  rw [List.append_nil] at hreferences
  refine ⟨head, condition, columns, htokens, hhead, ?_, hnames, fun column hcolumn => ?_, ?_⟩
  · exact hreferences.trans (List.append_nil _)
  · obtain ⟨given, _, hgiven⟩ := exists_of_mem_forall₂ hwrites hcolumn
    obtain ⟨e, he, hoffers⟩ := hgiven.offered
    rw [hbuilt.scope_eq, Scope.tables, List.mem_singleton] at he
    rw [he] at hoffers
    exact hoffers
  · have hlength : columns = [] ↔ filters.flatMap Predicate.tested = [] := by
      rw [← List.length_eq_zero_iff, ← hwrites.length_eq, List.length_eq_zero_iff]
    simp [hlength]

/-- Open orders are closed, were they among the numbers of an empty list. -/
def closedOrders : Statement :=
  ((Statement.update ((Update.of ⟨"Order", "orders", ["id", "state"]⟩).set "state"
    (.text "closed"))).filter (.compare (.column ⟨none, "state"⟩) .eq (.literal (.text "open")))).filter
      (.member (.column ⟨none, "id"⟩) [] false)

theorem closedOrders_tested :
    ∃ q, closedOrders.serialize = .ok q ∧
      q.sql = "UPDATE orders SET state = :p0 WHERE state = :p1 AND 1 = 0" ∧
      ∃ head condition columns, Sql.tokens q.sql = head ++ "WHERE" :: condition ∧
        closedOrders.IsHead head ∧ Sql.references .output .operator ("WHERE" :: condition) =
          columns.map (fun column => (.condition, column)) ∧
        columns.map (·.name) = ["state"] ∧
        (∀ column ∈ columns, closedOrders.entity.offers column = true) ∧
        (columns ≠ [] ↔ ∃ p ∈ [Predicate.compare (.column ⟨none, "state"⟩) .eq (.literal (.text "open")),
          .member (.column ⟨none, "id"⟩) [] false], p.tested ≠ []) :=
  ⟨_, rfl, by decide +kernel,
    filters_tested (s := closedOrders) (.filter _ (.filter _ (.set _ _ (.update _)))) rfl⟩

/-- Orders are deleted that are not among the numbers of an empty list. -/
def purgedOrders : Statement :=
  (Statement.delete (.of ⟨"Order", "orders", ["id"]⟩)).filter (.member (.column ⟨none, "id"⟩) [] true)

/-- A filter is enough for a deletion to be rendered, though its condition tests no column. -/
theorem purgedOrders_untested :
    ¬∀ (s : Statement) (filters : List Predicate) (q : SerializedQuery),
      s.Built filters → s.serialize = .ok q → ∃ head clauses place column,
        Sql.tokens q.sql = head ++ clauses ∧ s.IsHead head ∧
          (place, column) ∈ Sql.references .output .operator clauses := by
  intro h
  obtain ⟨head, clauses, place, column, htokens, hhead, hcolumn⟩ :=
    h purgedOrders _ _ (.filter _ (.delete _)) rfl
  have hall : ["DELETE", "FROM", "orders"] ++ ["WHERE", "1", "=", "1"] = head ++ clauses := by
    rw [← htokens]
    decide +kernel
  have hhead : head = ["DELETE", "FROM", "orders"] := hhead
  rw [hhead] at hall
  have hnone : Sql.references .output .operator ["WHERE", "1", "=", "1"] = [] := by decide +kernel
  rw [← List.append_cancel_left hall, hnone] at hcolumn
  cases hcolumn

end StatementGate
