import StatementGate.Proofs.Query.Outline
import StatementGate.Proofs.Query.WellFormed
import StatementGate.Proofs.Query.Writer

/-! # Tests against lists

A test against an empty list is a constant that does not show its operand, which is checked all the
same. The check agrees with the writing of the operand, so that no list of a statement decides
whether the statement is refused, or why. -/

namespace StatementGate

/-- Predicates that differ in the lists of their list tests, none of which holds a null. -/
inductive Predicate.Relisted : Predicate → Predicate → Prop
  | refl (p : Predicate) : Relisted p p
  | member (operand : Operand) (negated : Bool) {values values' : List Scalar}
      (h : .null ∉ values) (h' : .null ∉ values') :
      Relisted (.member operand values negated) (.member operand values' negated)
  | all {items items' : List Predicate} (h : List.Forall₂ Relisted items items') :
      Relisted (.all items) (.all items')
  | any {items items' : List Predicate} (h : List.Forall₂ Relisted items items') :
      Relisted (.any items) (.any items')
  | not {inner inner' : Predicate} (h : Relisted inner inner') :
      Relisted (.not inner) (.not inner')

structure Join.Relisted (j k : Join) : Prop where
  kind : j.kind = k.kind
  entity : j.entity = k.entity
  on : j.on.Relisted k.on

/-- Statements that differ in the lists of their list tests, none of which holds a null. -/
inductive Statement.Relisted : Statement → Statement → Prop
  | select (entity : Entity) (columns : Option (List String)) (order : List (String × Direction))
      (limit offset : Option Nat) {joins joins' : List Join} {p p' : Option Predicate}
      (hjoins : List.Forall₂ Join.Relisted joins joins')
      (hcondition : Option.Rel Predicate.Relisted p p') :
      Relisted (.select ⟨entity, columns, joins, p, order, limit, offset⟩)
        (.select ⟨entity, columns, joins', p', order, limit, offset⟩)
  | insert (s : Insert) : Relisted (.insert s) (.insert s)
  | update (entity : Entity) (assignments : List (String × Scalar)) (allRows : Bool)
      {p p' : Option Predicate} (hcondition : Option.Rel Predicate.Relisted p p') :
      Relisted (.update ⟨entity, assignments, p, allRows⟩)
        (.update ⟨entity, assignments, p', allRows⟩)
  | delete (entity : Entity) (allRows : Bool) {p p' : Option Predicate}
      (hcondition : Option.Rel Predicate.Relisted p p') :
      Relisted (.delete ⟨entity, p, allRows⟩) (.delete ⟨entity, p', allRows⟩)

variable {scope : Scope}

theorem Operand.check_failAlike (operand : Operand) :
    FailAlike (operand.check scope) (operand.render scope) := by
  rw [Operand.check_eq]
  exact .of_map _ _

theorem Writer.operand_failAlike (operand : Operand) (w : Writer) :
    FailAlike (w.operand scope operand) (operand.render scope) := by
  rw [Writer.operand_eq]
  exact .of_map _ _

/-- A list test without nulls fails as its operand does, whatever its list. -/
theorem Predicate.member_failAlike (operand : Operand) (negated : Bool) {values : List Scalar}
    (h : .null ∉ values) :
    FailAlike ((Predicate.member operand values negated).render scope) (operand.render scope) := by
  rw [Predicate.render, if_neg (mt Scalar.any_isNull_iff.1 h)]
  dsimp only
  split
  · exact (FailAlike.of_map _ _).trans operand.check_failAlike
  · exact .of_map _ _

mutual

theorem Predicate.Relisted.render {p q : Predicate} (h : p.Relisted q) :
    FailAlike (p.render scope) (q.render scope) := by
  cases h with
  | refl p => exact .refl _
  | member operand negated h h' =>
    exact (Predicate.member_failAlike operand negated h).trans
      (Predicate.member_failAlike operand negated h').symm
  | all h =>
    rw [Predicate.render, Predicate.render, isEmpty_eq_of_forall₂ h]
    split
    · exact .refl _
    · exact (Predicate.Relisted.renderItems h).bind fun _ _ => .ok _ _
  | any h =>
    rw [Predicate.render, Predicate.render, isEmpty_eq_of_forall₂ h]
    split
    · exact .refl _
    · exact (Predicate.Relisted.renderItems h).bind fun _ _ => .ok _ _
  | not h =>
    rw [Predicate.render, Predicate.render]
    exact (Predicate.Relisted.render h).bind fun _ _ => .ok _ _

theorem Predicate.Relisted.renderItems {ps qs : List Predicate}
    (h : List.Forall₂ Predicate.Relisted ps qs) :
    FailAlike (Predicate.renderItems scope ps) (Predicate.renderItems scope qs) := by
  cases h with
  | nil => exact .refl _
  | cons h hs =>
    rw [Predicate.renderItems, Predicate.renderItems]
    refine (Predicate.Relisted.render h).bind fun _ _ => ?_
    exact (Predicate.Relisted.renderItems hs).bind fun _ _ => .ok _ _

end

theorem Join.Relisted.entities_eq {js ks : List Join} (h : List.Forall₂ Join.Relisted js ks) :
    js.map (·.entity) = ks.map (·.entity) := by
  rw [← List.forall₂_eq_eq_eq, List.forall₂_map_left_iff, List.forall₂_map_right_iff]
  exact h.imp fun _ _ h => h.entity

theorem Join.Relisted.joinPieces {j k : Join} (h : j.Relisted k) :
    FailAlike (Select.joinPieces scope j) (Select.joinPieces scope k) :=
  h.on.render.bind fun _ _ => .ok _ _

theorem wherePieces_relisted {p q : Option Predicate} (h : Option.Rel Predicate.Relisted p q) :
    FailAlike (wherePieces scope p) (wherePieces scope q) := by
  cases h with
  | none => exact .refl _
  | some h => exact h.render.bind fun _ _ => .ok _ _

theorem Statement.Relisted.pieces {s t : Statement} (h : s.Relisted t) :
    FailAlike s.pieces t.pieces := by
  cases h with
  | select entity columns order limit offset hjoins hcondition =>
    simp only [Statement.pieces, Select.pieces]
    rw [Join.Relisted.entities_eq hjoins]
    refine .bind_same _ fun scope => ?_
    rw [Select.outputPieces_eq (isEmpty_eq_of_forall₂ hjoins) _ _ order order]
    refine .bind_same _ fun output => ?_
    refine (FailAlike.mapM (hjoins.imp fun _ _ h => h.joinPieces)).bind fun _ _ => ?_
    refine (wherePieces_relisted hcondition).bind fun _ _ => ?_
    refine .bind_same _ fun keys => .bind_same _ fun limited => .bind_same _ fun skipped => ?_
    exact .ok _ _
  | insert s => exact .refl _
  | update entity assignments allRows hcondition =>
    simp only [Statement.pieces, Update.pieces]
    rw [isNone_eq_of_rel hcondition]
    refine .bind_same _ fun scope => .throwIf _ (.throwIf _ (.bind_same _ fun _ => ?_))
    refine .bind_same _ fun assigned => (wherePieces_relisted hcondition).bind fun _ _ => ?_
    exact .ok _ _
  | delete entity allRows hcondition =>
    simp only [Statement.pieces, Delete.pieces]
    rw [isNone_eq_of_rel hcondition]
    refine .bind_same _ fun scope => .throwIf _ ((wherePieces_relisted hcondition).bind fun _ _ => ?_)
    exact .ok _ _

theorem Statement.Relisted.serialize {s t : Statement} (h : s.Relisted t) :
    FailAlike s.serialize t.serialize := by
  rw [Statement.serialize_eq, Statement.serialize_eq]
  exact h.pieces.bind fun _ _ => .ok _ _

/-- An operand passes its check exactly if a writer in any state can write it, and else fails with
the same error; and no list of a statement's list tests, empty or not, makes a difference to whether
the statement can be written or to the error it is refused with. -/
theorem empty_lists_checked_as_written :
    (∀ (scope : Scope) (operand : Operand) (w : Writer),
      FailAlike (operand.check scope) (w.operand scope operand)) ∧
      ∀ s t : Statement, s.Relisted t → FailAlike s.serialize t.serialize :=
  ⟨fun _ operand w => operand.check_failAlike.trans (w.operand_failAlike operand).symm,
    fun _ _ h => h.serialize⟩

/-- Orders of the states given, joined to their customers, the state read by a call within a call. -/
def ordersInStates (state : ColumnRef) (states : List Scalar) : Statement :=
  .select (((Select.of ⟨"Order", "orders", ["id", "state"]⟩).join .inner
    ⟨"Customer", "customers", ["id", "state"]⟩
    (.compare (.column ⟨some "orders", "id"⟩) .eq (.column ⟨some "customers", "id"⟩))).filter
    (.not (.member (.function "coalesce" [.literal (.text "open"), .function "lower" [.column state]])
      states false)))

/-- A column that two tables have is found ambiguous also where it stands before an empty list. -/
theorem ordersInStates_refused_alike :
    (ordersInStates ⟨none, "state"⟩ []).Relisted
        (ordersInStates ⟨none, "state"⟩ [.text "void", .text "lost"]) ∧
      (ordersInStates ⟨none, "state"⟩ []).serialize =
        .error (.ambiguousColumn "state" "orders" "customers") ∧
      FailAlike (ordersInStates ⟨none, "state"⟩ []).serialize
        (ordersInStates ⟨none, "state"⟩ [.text "void", .text "lost"]).serialize := by
  have hrelisted : (ordersInStates ⟨none, "state"⟩ []).Relisted
      (ordersInStates ⟨none, "state"⟩ [.text "void", .text "lost"]) := by
    refine .select _ _ _ _ _ (List.forall₂_same.2 fun _ _ => ⟨rfl, rfl, .refl _⟩) (.some (.not ?_))
    exact .member _ _ (by simp) (by simp)
  exact ⟨hrelisted, rfl, empty_lists_checked_as_written.2 _ _ hrelisted⟩

end StatementGate
