import StatementGate.Proofs.Query.Bindings

/-! # Outlines

A statement's text shows where its values stand and nothing of what they are. Two statements that
differ only in their values, nulls standing for nulls, are refused for the same reason or have the
same text and the same parameter names. -/

namespace StatementGate

namespace Piece

/-- A piece without the value in it. -/
def outline {β : Type} : Piece β → Piece Unit
  | .word s => .word s
  | .symbol s => .symbol s
  | .space => .space
  | .bind _ => .bind ()

variable {β : Type}

theorem textFrom_outline (next : Nat) (ps : List (Piece β)) :
    textFrom next (ps.map outline) = textFrom next ps := by
  induction ps generalizing next with
  | nil => rfl
  | cons p ps ih => cases p <;> simp only [List.map_cons, outline, textFrom, ih]

theorem length_values_outline (ps : List (Piece β)) :
    (values (ps.map outline)).length = (values ps).length := by
  induction ps with
  | nil => rfl
  | cons p ps ih => cases p <;> simp only [List.map_cons, outline, values, List.length_cons, ih]

theorem outline_separated (separator : List (Piece β)) (parts : List (List (Piece β))) :
    (separated separator parts).map outline =
      separated (separator.map outline) (parts.map (List.map outline)) := by
  induction parts with
  | nil => rfl
  | cons part parts ih =>
    cases parts with
    | nil => rfl
    | cons part' parts =>
      rw [separated, List.map_append, List.map_append, ih]
      · rfl
      · simp

/-- Pieces with equal outlines: the same but for the values in them. -/
def SameOutline (ps qs : List (Piece β)) : Prop := ps.map outline = qs.map outline

namespace SameOutline

variable {ps ps' qs qs' : List (Piece β)}

theorem refl (ps : List (Piece β)) : SameOutline ps ps := Eq.refl _

theorem append (h : SameOutline ps qs) (h' : SameOutline ps' qs') :
    SameOutline (ps ++ ps') (qs ++ qs') := by
  simp only [SameOutline, List.map_append]
  rw [h, h']

theorem cons (p : Piece β) (h : SameOutline ps qs) : SameOutline (p :: ps) (p :: qs) :=
  (refl [p]).append h

theorem bind (v w : β) : SameOutline [.bind v] [.bind w] := Eq.refl [Piece.bind ()]

theorem parenthesized (h : SameOutline ps qs) :
    SameOutline (Piece.parenthesized ps) (Piece.parenthesized qs) :=
  (h.append (refl [.symbol ")"])).cons (.symbol "(")

theorem separated (separator : List (Piece β)) {parts parts' : List (List (Piece β))}
    (h : List.Forall₂ SameOutline parts parts') :
    SameOutline (Piece.separated separator parts) (Piece.separated separator parts') := by
  have hparts : parts.map (List.map outline) = parts'.map (List.map outline) := by
    induction h with
    | nil => rfl
    | cons hpart _ ih => rw [List.map_cons, List.map_cons, hpart, ih]
  simp only [SameOutline, outline_separated]
  rw [hparts]

theorem flatten {parts parts' : List (List (Piece β))} (h : List.Forall₂ SameOutline parts parts') :
    SameOutline parts.flatten parts'.flatten := by
  induction h with
  | nil => exact refl []
  | cons hpart _ ih => exact hpart.append ih

end SameOutline

end Piece

open Piece (SameOutline)

/-- Values of which both are null or neither is. -/
def Scalar.Alike (v w : Scalar) : Prop := v.isNull = w.isNull

/-- Operands that differ only in their values. -/
inductive Operand.Alike : Operand → Operand → Prop
  | column (ref : ColumnRef) : Alike (.column ref) (.column ref)
  | literal {v w : Scalar} (h : v.Alike w) : Alike (.literal v) (.literal w)
  | function (name : String) {arguments arguments' : List Operand}
      (h : List.Forall₂ Alike arguments arguments') :
      Alike (.function name arguments) (.function name arguments')
  | window (name : String) (partition : List ColumnRef) :
      Alike (.window name partition) (.window name partition)

/-- Predicates that differ only in their values. -/
inductive Predicate.Alike : Predicate → Predicate → Prop
  | compare {left left' right right' : Operand} (op : CompareOp) (hleft : left.Alike left')
      (hright : right.Alike right') : Alike (.compare left op right) (.compare left' op right')
  | member {operand operand' : Operand} {values values' : List Scalar} (negated : Bool)
      (h : operand.Alike operand') (hvalues : List.Forall₂ Scalar.Alike values values') :
      Alike (.member operand values negated) (.member operand' values' negated)
  | isNull {operand operand' : Operand} (negated : Bool) (h : operand.Alike operand') :
      Alike (.isNull operand negated) (.isNull operand' negated)
  | all {items items' : List Predicate} (h : List.Forall₂ Alike items items') :
      Alike (.all items) (.all items')
  | any {items items' : List Predicate} (h : List.Forall₂ Alike items items') :
      Alike (.any items) (.any items')
  | not {inner inner' : Predicate} (h : Alike inner inner') : Alike (.not inner) (.not inner')

/-- Errors that differ only in the number of a page. -/
inductive QueryError.Alike : QueryError → QueryError → Prop
  | refl (e : QueryError) : Alike e e
  | paging (m n : Nat) : Alike (.invalidPaging m) (.invalidPaging n)

abbrev AgreeInOutline : Except QueryError Pieces → Except QueryError Pieces → Prop :=
  Agree QueryError.Alike SameOutline

theorem AgreeInOutline.refl (x : Except QueryError Pieces) : AgreeInOutline x x :=
  Agree.refl .refl SameOutline.refl x

variable {scope : Scope}

theorem Operand.isNullLiteral_literal (v : Scalar) :
    (Operand.literal v).isNullLiteral = v.isNull := by
  cases v <;> rfl

theorem Operand.Alike.isNullLiteral_eq {a b : Operand} (h : a.Alike b) :
    a.isNullLiteral = b.isNullLiteral := by
  cases h with
  | literal h =>
    rw [isNullLiteral_literal, isNullLiteral_literal]
    exact h
  | _ => rfl

mutual

theorem Operand.Alike.render {a b : Operand} (h : a.Alike b) :
    AgreeInOutline (a.render scope) (b.render scope) := by
  cases h with
  | column ref => exact .refl _
  | literal _ =>
    rw [Operand.render, Operand.render]
    exact .ok (.bind _ _)
  | function name h =>
    rw [Operand.render, Operand.render, h.length_eq]
    refine .bind_same .refl _ fun f => (Operand.Alike.renderAll h).bind fun _ _ hparts => ?_
    exact .ok ((SameOutline.separated _ hparts).parenthesized.cons _)
  | window name partition => exact .refl _

theorem Operand.Alike.renderAll {as bs : List Operand} (h : List.Forall₂ Operand.Alike as bs) :
    Agree QueryError.Alike (List.Forall₂ SameOutline) (Operand.renderAll scope as)
      (Operand.renderAll scope bs) := by
  cases h with
  | nil =>
    rw [Operand.renderAll]
    exact .ok .nil
  | cons h hs =>
    rw [Operand.renderAll, Operand.renderAll]
    refine (Operand.Alike.render h).bind fun _ _ hpart => ?_
    exact (Operand.Alike.renderAll hs).bind fun _ _ hparts => .ok (.cons hpart hparts)

end

theorem Scalar.Alike.any_isNull {vs ws : List Scalar} (h : List.Forall₂ Scalar.Alike vs ws) :
    vs.any Scalar.isNull = ws.any Scalar.isNull := by
  induction h with
  | nil => rfl
  | cons h _ ih => rw [List.any_cons, List.any_cons, h, ih]

theorem sameOutline_binds {vs ws : List Scalar} (h : vs.length = ws.length) :
    SameOutline (Piece.separated Piece.comma (vs.map fun v => [.bind v]))
      (Piece.separated Piece.comma (ws.map fun v => [.bind v])) := by
  apply SameOutline.separated
  rw [List.forall₂_map_left_iff, List.forall₂_map_right_iff]
  exact List.forall₂_iff_get.2 ⟨h, fun _ _ _ => .bind _ _⟩

mutual

/-- Whether an operand can be rendered does not depend on its values. -/
theorem Operand.Alike.check_eq {a b : Operand} (h : a.Alike b) : a.check scope = b.check scope := by
  cases h with
  | column ref => rfl
  | literal _ =>
    rw [Operand.check, Operand.check]
  | function name h =>
    rw [Operand.check, Operand.check, h.length_eq, Operand.Alike.checkAll_eq h]
  | window name partition => rfl

theorem Operand.Alike.checkAll_eq {as bs : List Operand} (h : List.Forall₂ Operand.Alike as bs) :
    Operand.checkAll scope as = Operand.checkAll scope bs := by
  cases h with
  | nil => rfl
  | cons h hs =>
    rw [Operand.checkAll, Operand.checkAll, Operand.Alike.check_eq h, Operand.Alike.checkAll_eq hs]

end

theorem isEmpty_eq_of_forall₂ {α β : Type} {R : α → β → Prop} {as : List α} {bs : List β}
    (h : List.Forall₂ R as bs) : as.isEmpty = bs.isEmpty := by
  cases h <;> rfl

mutual

theorem Predicate.Alike.render {p q : Predicate} (h : p.Alike q) :
    AgreeInOutline (p.render scope) (q.render scope) := by
  cases h with
  | compare op hleft hright =>
    rw [Predicate.render, Predicate.render]
    refine .throwIf (by rw [hleft.isNullLiteral_eq, hright.isNullLiteral_eq]) (.refl _) ?_
    refine hleft.render.bind fun _ _ hl => hright.render.bind fun _ _ hr => ?_
    exact .ok ((hl.append (.refl _)).append hr)
  | member negated h hvalues =>
    rw [Predicate.render, Predicate.render]
    refine .throwIf (by rw [Scalar.Alike.any_isNull hvalues]) (.refl _) ?_
    rw [isEmpty_eq_of_forall₂ hvalues]
    split
    · rw [h.check_eq]
      exact AgreeInOutline.refl _
    · refine h.render.bind fun _ _ ho => .ok ((ho.append (.refl _)).append ?_)
      exact (sameOutline_binds hvalues.length_eq).parenthesized
  | isNull negated h =>
    rw [Predicate.render, Predicate.render]
    exact h.render.bind fun _ _ ho => .ok (ho.append (.refl _))
  | all h =>
    rw [Predicate.render, Predicate.render, isEmpty_eq_of_forall₂ h]
    split
    · exact .refl _
    · exact (Predicate.Alike.renderItems h).bind fun _ _ hparts => .ok (.separated _ hparts)
  | any h =>
    rw [Predicate.render, Predicate.render, isEmpty_eq_of_forall₂ h]
    split
    · exact .refl _
    · exact (Predicate.Alike.renderItems h).bind fun _ _ hparts => .ok (.separated _ hparts)
  | not h =>
    rw [Predicate.render, Predicate.render]
    refine (Predicate.Alike.render h).bind fun _ _ hinner => ?_
    exact .ok ((hinner.parenthesized.cons .space).cons (.word "NOT"))

theorem Predicate.Alike.renderItems {ps qs : List Predicate}
    (h : List.Forall₂ Predicate.Alike ps qs) :
    Agree QueryError.Alike (List.Forall₂ SameOutline) (Predicate.renderItems scope ps)
      (Predicate.renderItems scope qs) := by
  cases h with
  | nil =>
    rw [Predicate.renderItems]
    exact .ok .nil
  | @cons p q _ _ h hs =>
    rw [Predicate.renderItems, Predicate.renderItems]
    have hjunction : p.isJunction = q.isJunction := by
      cases h <;> rfl
    refine (Predicate.Alike.render h).bind fun _ _ hpart => ?_
    refine (Predicate.Alike.renderItems hs).bind fun _ _ hparts => .ok (.cons ?_ hparts)
    rw [hjunction]
    split
    · exact hpart.parenthesized
    · exact hpart

end

/-- Numbers of rows of which both can be bound or neither can. -/
def SamePaging (m n : Nat) : Prop := m ≤ maxPaging ↔ n ≤ maxPaging

structure Join.Alike (j k : Join) : Prop where
  kind : j.kind = k.kind
  entity : j.entity = k.entity
  on : j.on.Alike k.on

structure AssignedAlike (a b : String × Scalar) : Prop where
  column : a.1 = b.1
  value : a.2.Alike b.2

/-- Statements of one kind over one entity that differ only in the values of their literals and
paging numbers. -/
inductive Statement.Alike : Statement → Statement → Prop
  | select (entity : Entity) (columns : Option (List String)) (order : List (String × Direction))
      {joins joins' : List Join} {p p' : Option Predicate} {limit limit' offset offset' : Option Nat}
      (hjoins : List.Forall₂ Join.Alike joins joins') (hcondition : Option.Rel Predicate.Alike p p')
      (hlimit : Option.Rel SamePaging limit limit')
      (hoffset : Option.Rel SamePaging offset offset') :
      Alike (.select ⟨entity, columns, joins, p, order, limit, offset⟩)
        (.select ⟨entity, columns, joins', p', order, limit', offset'⟩)
  | insert (entity : Entity) {values values' : List (String × Scalar)}
      (hvalues : List.Forall₂ AssignedAlike values values') :
      Alike (.insert ⟨entity, values⟩) (.insert ⟨entity, values'⟩)
  | update (entity : Entity) (allRows : Bool) {assignments assignments' : List (String × Scalar)}
      {p p' : Option Predicate} (hassignments : List.Forall₂ AssignedAlike assignments assignments')
      (hcondition : Option.Rel Predicate.Alike p p') :
      Alike (.update ⟨entity, assignments, p, allRows⟩) (.update ⟨entity, assignments', p', allRows⟩)
  | delete (entity : Entity) (allRows : Bool) {p p' : Option Predicate}
      (hcondition : Option.Rel Predicate.Alike p p') :
      Alike (.delete ⟨entity, p, allRows⟩) (.delete ⟨entity, p', allRows⟩)

theorem wherePieces_agree {p q : Option Predicate} (h : Option.Rel Predicate.Alike p q) :
    AgreeInOutline (wherePieces scope p) (wherePieces scope q) := by
  cases h with
  | none => exact .refl _
  | some h => exact h.render.bind fun _ _ hcondition => .ok ((SameOutline.refl _).append hcondition)

theorem pagingPieces_agree (keyword : String) {m n : Option Nat} (h : Option.Rel SamePaging m n) :
    AgreeInOutline (pagingPieces keyword m) (pagingPieces keyword n) := by
  cases h with
  | none => exact .refl _
  | @some m n h =>
    simp only [pagingPieces]
    by_cases hm : m ≤ maxPaging
    · rw [if_pos hm, if_pos (h.1 hm)]
      exact .ok ((SameOutline.refl _).append (.bind _ _))
    · rw [if_neg hm, if_neg (mt h.2 hm)]
      exact .error (.paging m n)

namespace AssignedAlike

variable {as bs : List (String × Scalar)}

theorem columns_eq (h : List.Forall₂ AssignedAlike as bs) : as.map Prod.fst = bs.map Prod.fst := by
  induction h with
  | nil => rfl
  | cons h _ ih => rw [List.map_cons, List.map_cons, h.column, ih]

theorem checkAssignments_eq (h : List.Forall₂ AssignedAlike as bs) (seen : List String) :
    scope.checkAssignments seen as = scope.checkAssignments seen bs := by
  induction h generalizing seen with
  | nil => rfl
  | cons h _ ih => rw [Scope.checkAssignments, Scope.checkAssignments, h.column, ih]

theorem refs_eq (h : List.Forall₂ AssignedAlike as bs) :
    as.map (fun (column, _) => ColumnRef.parse column) =
      bs.map fun (column, _) => ColumnRef.parse column := by
  have hrefs := congrArg (List.map ColumnRef.parse) (columns_eq h)
  rwa [List.map_map, List.map_map] at hrefs

theorem sameOutline_values (h : List.Forall₂ AssignedAlike as bs) :
    SameOutline (Piece.separated Piece.comma (as.map fun (_, v) => [.bind v]))
      (Piece.separated Piece.comma (bs.map fun (_, v) => [.bind v])) := by
  apply SameOutline.separated
  rw [List.forall₂_map_left_iff, List.forall₂_map_right_iff]
  exact h.imp fun _ _ _ => .bind _ _

theorem assignment {a b : String × Scalar} (h : AssignedAlike a b) :
    AgreeInOutline
      (do
        let column ← scope.column (ColumnRef.parse a.1)
        pure (column ++ [.space, .symbol "=", .space, .bind a.2]))
      (do
        let column ← scope.column (ColumnRef.parse b.1)
        pure (column ++ [.space, .symbol "=", .space, .bind b.2])) := by
  rw [h.column]
  refine .bind_same .refl _ fun part => .ok ((SameOutline.refl part).append ?_)
  exact (SameOutline.refl [.space, .symbol "=", .space]).append (.bind a.2 b.2)

end AssignedAlike

theorem isNone_eq_of_rel {α β : Type} {R : α → β → Prop} {a : Option α} {b : Option β}
    (h : Option.Rel R a b) : a.isNone = b.isNone := by
  cases h <;> rfl

theorem Join.Alike.entities_eq {js ks : List Join} (h : List.Forall₂ Join.Alike js ks) :
    js.map (·.entity) = ks.map (·.entity) := by
  induction h with
  | nil => rfl
  | cons h _ ih => rw [List.map_cons, List.map_cons, h.entity, ih]

theorem Join.Alike.joinPieces {j k : Join} (h : j.Alike k) :
    AgreeInOutline (Select.joinPieces scope j) (Select.joinPieces scope k) := by
  rw [Select.joinPieces, Select.joinPieces, h.kind, h.entity]
  exact h.on.render.bind fun _ _ hon => .ok ((SameOutline.refl _).append hon)

/-- What a projection renders depends on which tables are joined, not on how. -/
theorem Select.outputPieces_eq {entity : Entity} {columns : Option (List String)}
    {joins joins' : List Join} (hjoins : joins.isEmpty = joins'.isEmpty) (p p' : Option Predicate)
    (order order' : List (String × Direction)) (limit limit' offset offset' : Option Nat) :
    (Select.mk entity columns joins p order limit offset).outputPieces scope =
      (Select.mk entity columns joins' p' order' limit' offset').outputPieces scope := by
  cases columns with
  | none =>
    simp only [Select.outputPieces, hjoins]
  | some columns => rfl

theorem Statement.Alike.pieces {s t : Statement} (h : s.Alike t) :
    AgreeInOutline s.pieces t.pieces := by
  cases h with
  | select entity columns order hjoins hcondition hlimit hoffset =>
    simp only [Statement.pieces, Select.pieces]
    rw [Join.Alike.entities_eq hjoins]
    apply Agree.bind_same .refl
    intro scope
    rw [Select.outputPieces_eq (isEmpty_eq_of_forall₂ hjoins) _ _ order order]
    apply Agree.bind_same .refl
    intro output
    apply (Agree.mapM (hjoins.imp fun _ _ h => h.joinPieces)).bind
    intro ons ons' hons
    apply (wherePieces_agree hcondition).bind
    intro condition condition' hwhere
    apply Agree.bind_same .refl
    intro keys
    apply (pagingPieces_agree "LIMIT" hlimit).bind
    intro limited limited' hlimited
    apply (pagingPieces_agree "OFFSET" hoffset).bind
    intro skipped skipped' hskipped
    apply Agree.ok
    have htables := (SameOutline.flatten hons).cons (.word entity.table)
    refine ((SameOutline.append ?_ (.refl _)).append hlimited).append hskipped
    exact ((SameOutline.refl _).append htables).append hwhere
  | insert entity hvalues =>
    simp only [Statement.pieces, Insert.pieces]
    apply Agree.bind_same .refl
    intro scope
    rw [isEmpty_eq_of_forall₂ hvalues, AssignedAlike.checkAssignments_eq hvalues,
      AssignedAlike.refs_eq hvalues]
    apply Agree.throwIf .rfl (.refl _)
    apply Agree.bind_same .refl
    intro _
    apply Agree.bind_same .refl
    intro columns
    exact .ok ((SameOutline.refl _).append (AssignedAlike.sameOutline_values hvalues).parenthesized)
  | update entity allRows hassignments hcondition =>
    simp only [Statement.pieces, Update.pieces]
    apply Agree.bind_same .refl
    intro scope
    rw [isEmpty_eq_of_forall₂ hassignments, AssignedAlike.checkAssignments_eq hassignments,
      isNone_eq_of_rel hcondition]
    apply Agree.throwIf .rfl (.refl _)
    apply Agree.throwIf .rfl (.refl _)
    apply Agree.bind_same .refl
    intro _
    apply (Agree.mapM (hassignments.imp fun _ _ h => h.assignment)).bind
    intro parts parts' hparts
    apply (wherePieces_agree hcondition).bind
    intro condition condition' hwhere
    exact .ok (((SameOutline.refl _).append (.separated _ hparts)).append hwhere)
  | delete entity allRows hcondition =>
    simp only [Statement.pieces, Delete.pieces]
    apply Agree.bind_same .refl
    intro scope
    rw [isNone_eq_of_rel hcondition]
    apply Agree.throwIf .rfl (.refl _)
    apply (wherePieces_agree hcondition).bind
    intro condition condition' hwhere
    exact .ok ((SameOutline.refl _).append hwhere)

/-- Serialized statements that show the same: their text, and all but the values of their
parameters. -/
structure SerializedQuery.SameText (q r : SerializedQuery) : Prop where
  sql : q.sql = r.sql
  names : q.parameters.keys = r.parameters.keys
  kind : q.kind = r.kind
  entity : q.entity = r.entity

theorem Piece.SameOutline.sameText {ps qs : Pieces} (h : SameOutline ps qs) (kind : StatementKind)
    (entity : Entity) :
    (SerializedQuery.ofPieces ps kind entity).SameText (.ofPieces qs kind entity) := by
  refine ⟨?_, ?_, rfl, rfl⟩
  · rw [SerializedQuery.ofPieces, SerializedQuery.ofPieces, Piece.text, Piece.text,
      ← Piece.textFrom_outline, h, Piece.textFrom_outline]
  · have hlength : (Piece.values ps).length = (Piece.values qs).length := by
      rw [← Piece.length_values_outline, h, Piece.length_values_outline]
    apply KeyMap.keys_ofList_congr
    rw [Piece.keys_parameters, Piece.keys_parameters, hlength]

/-- Statements that differ only in their values are refused for the same reason, or have the same
text and parameter names. -/
theorem text_independent_of_values {s t : Statement} (h : s.Alike t) :
    Agree QueryError.Alike SerializedQuery.SameText s.serialize t.serialize := by
  have hkind : s.kind = t.kind := by
    cases h <;> rfl
  have hentity : s.entity = t.entity := by
    cases h <;> rfl
  rw [Statement.serialize_eq, Statement.serialize_eq, hkind, hentity]
  exact h.pieces.bind fun _ _ houtline => .ok (houtline.sameText _ _)

/-- A page of the orders of one customer that are in none of two states. -/
def pageOfOrders (customer state : String) (size : Nat) : Select :=
  (((Select.of ⟨"Order", "orders", ["id", "customer", "state"]⟩).filter
    (.compare (.function "lower" [.column ⟨none, "customer"⟩]) .like
      (.literal (.text customer)))).filter
    (.member (.column ⟨none, "state"⟩) [.text state, .text "void"] true)).withLimit size

/-- A name that would end the statement and start another stays out of the text. -/
theorem pageOfOrders_sameText :
    (Statement.select (pageOfOrders "ann%" "open" 10)).Alike
        (.select (pageOfOrders "'; DROP TABLE orders; --" ":p0" 500)) ∧
      ∃ q r, (pageOfOrders "ann%" "open" 10).serialize = .ok q ∧
        (pageOfOrders "'; DROP TABLE orders; --" ":p0" 500).serialize = .ok r ∧ q.SameText r := by
  have halike : (Statement.select (pageOfOrders "ann%" "open" 10)).Alike
      (.select (pageOfOrders "'; DROP TABLE orders; --" ":p0" 500)) := by
    have hcustomer : ∀ s s' : String, Predicate.Alike
        (.compare (.function "lower" [.column ⟨none, "customer"⟩]) .like (.literal (.text s)))
        (.compare (.function "lower" [.column ⟨none, "customer"⟩]) .like (.literal (.text s'))) :=
      fun s s' => .compare .like (.function "lower" (.cons (.column _) .nil)) (.literal rfl)
    have hstate : ∀ s s' : String, Predicate.Alike
        (.member (.column ⟨none, "state"⟩) [.text s, .text "void"] true)
        (.member (.column ⟨none, "state"⟩) [.text s', .text "void"] true) :=
      fun s s' => .member true (.column _) (.cons rfl (.cons rfl .nil))
    exact .select _ _ _ .nil (.some (.all (.cons (hcustomer _ _) (.cons (hstate _ _) .nil))))
      (.some (iff_of_true (by decide) (by decide))) .none
  exact ⟨halike, _, _, rfl, rfl, Agree.of_ok (text_independent_of_values halike)⟩

end StatementGate
