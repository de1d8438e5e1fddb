import StatementGate.Proofs.Outcome
import StatementGate.Proofs.Query.Placeholders
import StatementGate.Proofs.Text.Names

/-! # Values of conditions

The values that operands and predicates hold, from left to right, and the proof that their pieces
bind exactly these. Names reach the text only after the scope has checked them. -/

namespace StatementGate

open Piece (Renders RendersAll)

mutual

def Operand.literals : Operand → List Scalar
  | .column _ => []
  | .literal value => [value]
  | .function _ arguments => Operand.literalsOfAll arguments
  | .window _ _ => []

def Operand.literalsOfAll : List Operand → List Scalar
  | [] => []
  | operand :: rest => operand.literals ++ Operand.literalsOfAll rest

end

mutual

/-- The values of a predicate. A test for membership in an empty list has none, also where its
operand has some. -/
def Predicate.literals : Predicate → List Scalar
  | .compare left _ right => left.literals ++ right.literals
  | .member operand values _ => if values.isEmpty then [] else operand.literals ++ values
  | .isNull operand _ => operand.literals
  | .all items | .any items => Predicate.literalsOfAll items
  | .not inner => inner.literals

def Predicate.literalsOfAll : List Predicate → List Scalar
  | [] => []
  | p :: rest => p.literals ++ Predicate.literalsOfAll rest

end

theorem checkIdentifier_eq_ok {s : String} :
    checkIdentifier s = .ok () ↔ isPlainIdentifier s = true := by
  simp only [checkIdentifier]
  split <;> simp_all

theorem colon_not_mem_of_identifier {s : String} (h : isPlainIdentifier s = true) :
    ':' ∉ s.toList :=
  colon_not_mem_of_name fun _ hc => isNamePart_of_mem_plainName h hc

/-- An entity whose names have been checked. -/
def Entity.Plain (e : Entity) : Prop :=
  isPlainIdentifier e.table = true ∧ ∀ column ∈ e.columns, isPlainIdentifier column = true

namespace Scope

variable {scope : Scope}

def Plain (scope : Scope) : Prop := ∀ e ∈ scope.tables, e.Plain

theorem checkEntity_eq_ok {e : Entity} : checkEntity e = .ok () ↔ e.Plain := by
  simp only [checkEntity, Entity.Plain]
  rw [bind_eq_ok]
  constructor
  · rintro ⟨_, htable, hcolumns⟩
    exact ⟨checkIdentifier_eq_ok.1 htable,
      fun column hmem => checkIdentifier_eq_ok.1 (forM_eq_ok.1 hcolumns column hmem)⟩
  · rintro ⟨htable, hcolumns⟩
    exact ⟨(), checkIdentifier_eq_ok.2 htable,
      forM_eq_ok.2 fun column hmem => checkIdentifier_eq_ok.2 (hcolumns column hmem)⟩

theorem ofEntities_eq_ok {target : Entity} {joined : List Entity}
    (h : ofEntities target joined = .ok scope) : scope = ⟨target, joined⟩ ∧ scope.Plain := by
  obtain ⟨_, htarget, h⟩ := bind_eq_ok.1 h
  obtain ⟨_, hjoined, h⟩ := bind_eq_ok.1 h
  cases h
  refine ⟨rfl, List.forall_mem_cons.2 ⟨checkEntity_eq_ok.1 htarget, fun e he => ?_⟩⟩
  exact checkEntity_eq_ok.1 (forM_eq_ok.1 hjoined e he)

theorem resolve_eq_ok {ref : ColumnRef} {table : String} (h : scope.resolve ref = .ok table) :
    isPlainIdentifier ref.name = true ∧ ∃ e ∈ scope.tables, e.table = table := by
  obtain ⟨_, hname, h⟩ := bind_eq_ok.1 h
  refine ⟨checkIdentifier_eq_ok.1 hname, ?_⟩
  split at h
  · simp only [resolveBare] at h
    split at h
    · cases h
    · rename_i e heq
      cases h
      exact ⟨e, (List.mem_filter.1 (heq ▸ List.mem_singleton_self e)).1, rfl⟩
    · cases h
  · obtain ⟨_, _, h⟩ := bind_eq_ok.1 h
    simp only [resolveIn] at h
    split at h
    · cases h
    · rename_i e heq
      split at h
      · cases h
        exact ⟨e, List.mem_of_find?_eq_some heq, rfl⟩
      · cases h

/-- The text of a column in its scope. -/
def columnText (scope : Scope) (ref : ColumnRef) (table : String) : String :=
  if ref.table.isSome || scope.isJoined then table ++ "." ++ ref.name else ref.name

theorem column_eq_ok {ref : ColumnRef} {ps : Pieces} (h : scope.column ref = .ok ps) :
    ∃ table, scope.resolve ref = .ok table ∧ ps = [.word (scope.columnText ref table)] := by
  obtain ⟨table, htable, h⟩ := bind_eq_ok.1 h
  refine ⟨table, htable, ?_⟩
  simp only [columnText]
  split at h
  · rename_i hqualified
    cases h
    rw [if_pos hqualified]
  · rename_i hbare
    cases h
    rw [if_neg hbare]

theorem column_renders (hscope : scope.Plain) {ref : ColumnRef} {ps : Pieces}
    (h : scope.column ref = .ok ps) : Renders ps [] := by
  obtain ⟨table, htable, rfl⟩ := column_eq_ok h
  obtain ⟨hname, e, he, rfl⟩ := resolve_eq_ok htable
  have hcolumn := colon_not_mem_of_identifier hname
  have htable := colon_not_mem_of_identifier (hscope e he).1
  refine .word ?_ .nil
  simp only [columnText]
  split
  · simp [String.toList_append, hcolumn, htable]
  · exact hcolumn

end Scope

variable {scope : Scope}

mutual

theorem Operand.renders (hscope : scope.Plain) (operand : Operand) {ps : Pieces}
    (h : operand.render scope = .ok ps) : Renders ps operand.literals := by
  cases operand with
  | column ref =>
    rw [Operand.render] at h
    exact Scope.column_renders hscope h
  | literal value =>
    rw [Operand.render] at h
    cases h
    exact .bind rfl .nil
  | function name arguments =>
    rw [Operand.render] at h
    obtain ⟨f, _, h⟩ := bind_eq_ok.1 h
    obtain ⟨parts, hparts, h⟩ := bind_eq_ok.1 h
    cases h
    have hall := Operand.rendersAll hscope arguments hparts
    refine .word ?_ (hall.separated Piece.separates_comma).parenthesized
    cases f <;> decide
  | window name partition =>
    rw [Operand.render] at h
    cases h

theorem Operand.rendersAll (hscope : scope.Plain) (operands : List Operand)
    {parts : List Pieces} (h : Operand.renderAll scope operands = .ok parts) :
    RendersAll parts (Operand.literalsOfAll operands) := by
  cases operands with
  | nil =>
    rw [Operand.renderAll] at h
    cases h
    exact .nil
  | cons operand rest =>
    rw [Operand.renderAll] at h
    obtain ⟨part, hpart, h⟩ := bind_eq_ok.1 h
    obtain ⟨parts, hparts, h⟩ := bind_eq_ok.1 h
    cases h
    exact .cons (Operand.renders hscope operand hpart) (Operand.rendersAll hscope rest hparts)

end

theorem renders_list (values : List Scalar) :
    RendersAll (values.map fun v => [.bind v]) values := by
  induction values with
  | nil => exact .nil
  | cons v values ih => exact .cons (.bind rfl .nil) ih

theorem Predicate.renders_constant (truth : Bool) : Renders (constant truth) [] := by
  have htruth : ':' ∉ (if truth then "1" else "0").toList := by
    cases truth <;> decide
  exact .word (by decide) (.space (.symbol (by decide) (.space (.word htruth .nil))))

/-- The operator of a comparison with its spaces may stand between any two operands. -/
theorem Predicate.renders_operator (op : CompareOp) {ps : Pieces} {vs : List Scalar}
    (h : Renders ps vs) : Renders (.space :: operator op :: .space :: ps) vs := by
  cases op with
  | like => exact .space (.word (by decide) (.space h))
  | _ => exact .space (.symbol (by decide) (.space h))

mutual

theorem Predicate.renders (hscope : scope.Plain) (p : Predicate) {ps : Pieces}
    (h : p.render scope = .ok ps) : Renders ps p.literals := by
  cases p with
  | compare left op right =>
    rw [Predicate.render] at h
    obtain ⟨_, h⟩ := throwIf_eq_ok.1 h
    obtain ⟨l, hl, h⟩ := bind_eq_ok.1 h
    obtain ⟨r, hr, h⟩ := bind_eq_ok.1 h
    cases h
    rw [List.append_assoc]
    exact (Operand.renders hscope left hl).append
      (Predicate.renders_operator op (Operand.renders hscope right hr)) rfl
  | member operand values negated =>
    rw [Predicate.render] at h
    obtain ⟨_, h⟩ := throwIf_eq_ok.1 h
    rw [Predicate.literals]
    split at h
    · rename_i hempty
      obtain ⟨_, _, h⟩ := bind_eq_ok.1 h
      cases h
      rw [if_pos hempty]
      exact Predicate.renders_constant negated
    · rename_i hempty
      obtain ⟨o, ho, h⟩ := bind_eq_ok.1 h
      cases h
      rw [if_neg hempty, List.append_assoc]
      have hlist := ((renders_list values).separated Piece.separates_comma).parenthesized
      refine (Operand.renders hscope operand ho).append (hlist.phrase_append ?_) rfl
      cases negated <;> decide
  | isNull operand negated =>
    rw [Predicate.render] at h
    obtain ⟨o, ho, h⟩ := bind_eq_ok.1 h
    cases h
    have htest : Renders
        (Piece.words (if negated then ["IS", "NOT", "NULL"] else ["IS", "NULL"])) [] := by
      rw [← List.append_nil (Piece.words _)]
      refine Renders.words_append ?_ .nil
      cases negated <;> decide
    have := (Operand.renders hscope operand ho).append (.space htest) rfl
    rwa [List.append_nil] at this
  | all items =>
    rw [Predicate.render] at h
    split at h
    · rename_i hempty
      cases h
      rw [List.isEmpty_iff.1 hempty]
      exact Predicate.renders_constant true
    · obtain ⟨parts, hparts, h⟩ := bind_eq_ok.1 h
      cases h
      exact (Predicate.rendersAll hscope items hparts).separated
        (Piece.separates_phrase (by decide))
  | any items =>
    rw [Predicate.render] at h
    split at h
    · rename_i hempty
      cases h
      rw [List.isEmpty_iff.1 hempty]
      exact Predicate.renders_constant false
    · obtain ⟨parts, hparts, h⟩ := bind_eq_ok.1 h
      cases h
      exact (Predicate.rendersAll hscope items hparts).separated
        (Piece.separates_phrase (by decide))
  | not inner =>
    rw [Predicate.render] at h
    obtain ⟨part, hpart, h⟩ := bind_eq_ok.1 h
    cases h
    exact .word (by decide) (.space (Predicate.renders hscope inner hpart).parenthesized)

theorem Predicate.rendersAll (hscope : scope.Plain) (items : List Predicate)
    {parts : List Pieces} (h : Predicate.renderItems scope items = .ok parts) :
    RendersAll parts (Predicate.literalsOfAll items) := by
  cases items with
  | nil =>
    rw [Predicate.renderItems] at h
    cases h
    exact .nil
  | cons item rest =>
    rw [Predicate.renderItems] at h
    obtain ⟨part, hpart, h⟩ := bind_eq_ok.1 h
    obtain ⟨parts, hparts, h⟩ := bind_eq_ok.1 h
    cases h
    refine .cons ?_ (Predicate.rendersAll hscope rest hparts)
    have hitem := Predicate.renders hscope item hpart
    split
    · exact hitem.parenthesized
    · exact hitem

end

end StatementGate
