import Mathlib.Data.List.Lex
import StatementGate.Proofs.Lookup
import StatementGate.Proofs.Wire.Conversions
import StatementGate.Proofs.Wire.Paths

/-! # Values that do not fit a type

A value fails to be read as a type because of the first of its elements that is of the wrong kind. The
error names that element by the indices that lead to it, below the field where the value was taken
from a record. -/

namespace StatementGate

namespace Conversion

variable {α : Type} {c : Conversion α} {v : Value} {e : CodecError}

theorem option_read_eq_error : c.option.read v = .error e ↔ v ≠ .null ∧ c.read v = .error e := by
  by_cases hnull : v = .null
  · subst hnull
    simp [option]
  · have hread : c.option.read v = some <$> c.read v := by
      cases v with
      | null => exact absurd rfl hnull
      | _ => rfl
    rw [hread, map_eq_error]
    simp [hnull]

theorem field_read_eq_error : c.field.read v = .error e ↔ v ≠ .absent ∧ c.read v = .error e := by
  by_cases habsent : v = .absent
  · subst habsent
    simp [field]
  · have hread : c.field.read v = Field.present <$> c.read v := by
      cases v with
      | absent => exact absurd rfl habsent
      | _ => rfl
    rw [hread, map_eq_error]
    simp [habsent]

/-- Items are read up to the first that fails, whose error moves below its index. -/
theorem readItems_eq_error {items : List Value} {index : Nat} :
    c.readItems items index = .error e ↔
      ∃ before w after e', items = before ++ w :: after ∧ (∀ b ∈ before, Succeeds (c.read b)) ∧
        c.read w = .error e' ∧ e = e'.below (Path.item "" (index + before.length)) := by
  constructor
  · intro h
    induction items generalizing index with
    | nil => cases h
    | cons v rest ih =>
      rw [readItems] at h
      cases hread : c.read v with
      | error e' =>
        rw [hread] at h
        cases h
        exact ⟨[], v, rest, e', rfl, List.forall_mem_nil _, hread, rfl⟩
      | ok a =>
        rw [hread] at h
        obtain ⟨before, w, after, e', rfl, hbefore, hw, rfl⟩ := ih (map_eq_error.1 h)
        refine ⟨v :: before, w, after, e', rfl, List.forall_mem_cons.2 ⟨⟨a, hread⟩, hbefore⟩, hw, ?_⟩
        rw [List.length_cons, Nat.add_right_comm]
        rfl
  · rintro ⟨before, w, after, e', rfl, hbefore, hw, rfl⟩
    induction before generalizing index with
    | nil =>
      rw [List.nil_append, readItems, hw]
      rfl
    | cons b before ih =>
      rw [List.forall_mem_cons] at hbefore
      obtain ⟨a, ha⟩ := hbefore.1
      rw [List.cons_append, readItems, ha]
      refine map_eq_error.2 ((ih hbefore.2).trans ?_)
      rw [List.length_cons, Nat.add_right_comm]
      rfl

theorem list_read_eq_error :
    c.list.read v = .error e ↔ ((∀ items, v ≠ .list items) ∧ e = kindError "list" v) ∨
      ∃ before w after e', v = .list (before ++ w :: after) ∧ (∀ b ∈ before, Succeeds (c.read b)) ∧
        c.read w = .error e' ∧ e = e'.below (Path.item "" before.length) := by
  cases v with
  | list items => simp [list, readItems_eq_error]
  | _ => simp [list, eq_comm]

end Conversion

/-- The path of the element at these indices, in a value on its own. -/
def Path.element : (indices : List Nat) → String
  | [] => root
  | indices => indices.foldl item ""

theorem Path.items_append (place path : String) (indices : List Nat) :
    indices.foldl item (place ++ path) = place ++ indices.foldl item path := by
  induction indices generalizing path with
  | nil => rfl
  | cons index rest ih => rw [List.foldl_cons, List.foldl_cons, item_append, ih]

theorem Path.relative_bracket (s : String) : relative ("[" ++ s) = "[" ++ s := by
  have hlist : ("[" ++ s).toList = '[' :: s.toList := by
    rw [String.toList_append]
    rfl
  rw [relative, hlist, List.dropWhile_cons_of_neg (by decide), ← hlist, String.ofList_toList]

/-- Below another place the mark of the root is not repeated. -/
theorem Path.relative_element (indices : List Nat) :
    relative (element indices) = indices.foldl item "" := by
  cases indices with
  | nil => rfl
  | cons index rest =>
    have hitem : item "" index = "[" ++ (toString index ++ "]") := by
      rw [item, String.empty_append, String.append_assoc]
    rw [element, List.foldl_cons, hitem, items_append, relative_bracket]
    simp

theorem CodecError.below_element (place : String) (indices : List Nat) (problem : Problem) :
    (invalid (Path.element indices) problem).below place =
      .invalid (indices.foldl Path.item place) problem := by
  rw [below, Path.relative_element, ← Path.items_append, String.append_empty]

/-- Errors that name no place of a value stay as they are. -/
theorem CodecError.below_of_placeless {e : CodecError}
    (h : ∀ path problem, e ≠ .invalid path problem) (place : String) : e.below place = e := by
  cases e with
  | invalid path problem => exact absurd rfl (h path problem)
  | _ => rfl

namespace Target

/-- The type takes values of one kind, whose name is given, and this is none of them. -/
inductive WrongKind : Target → Value → String → Prop
  | string {v : Value} (h : ∀ s, v ≠ .string s) : WrongKind .string v "str"
  | integer {v : Value} (h : ∀ i, v ≠ .integer i) : WrongKind .integer v "int"
  | float {v : Value} (h : ∀ x, v ≠ .float x) (hinteger : ∀ i, v ≠ .integer i) :
      WrongKind .float v "float"
  | boolean {v : Value} (h : ∀ b, v ≠ .bool b) : WrongKind .boolean v "bool"
  | decimal {v : Value} (h : ∀ d, v ≠ .decimal d) : WrongKind .decimal v "Decimal"
  | dateTime {v : Value} (h : ∀ t, v ≠ .dateTime t) : WrongKind .dateTime v "datetime"
  | date {v : Value} (h : ∀ d, v ≠ .date d) : WrongKind .date v "date"
  | list {item : Target} {v : Value} (h : ∀ items, v ≠ .list items) : WrongKind (.list item) v "list"

/-- An element of the value, at the indices that lead to it, is of the wrong kind. -/
inductive Misfit : Target → Value → (indices : List Nat) → Problem → Prop
  | here {t : Target} {v : Value} {expected : String} (h : WrongKind t v expected) :
      Misfit t v [] (.mismatch expected v.kind)
  | option {inner : Target} {v : Value} {indices : List Nat} {problem : Problem} (hnull : v ≠ .null)
      (h : Misfit inner v indices problem) : Misfit (.option inner) v indices problem
  | field {inner : Target} {v : Value} {indices : List Nat} {problem : Problem}
      (habsent : v ≠ .absent) (h : Misfit inner v indices problem) :
      Misfit (.field inner) v indices problem
  | item {item : Target} {items : List Value} {index : Nat} {v : Value} {indices : List Nat}
      {problem : Problem} (hitem : items[index]? = some v) (h : Misfit item v indices problem) :
      Misfit (.list item) (.list items) (index :: indices) problem

/-- No other misfit comes before this one when the elements are gone through from left to right, each
one before those inside it. -/
structure FirstMisfit (t : Target) (v : Value) (indices : List Nat) (problem : Problem) : Prop where
  misfit : Misfit t v indices problem
  earliest : ∀ other otherProblem, Misfit t v other otherProblem →
    ¬List.Lex (· < ·) other indices

variable {t : Target} {v : Value} {indices : List Nat} {problem : Problem} {e : CodecError}

theorem WrongKind.read_eq {expected : String} (h : WrongKind t v expected) :
    t.conversion.read v = .error (kindError expected v) := by
  cases h with
  | string h =>
    cases v with
    | string s => exact absurd rfl (h s)
    | _ => rfl
  | integer h =>
    cases v with
    | integer i => exact absurd rfl (h i)
    | _ => rfl
  | float h hinteger =>
    cases v with
    | float x => exact absurd rfl (h x)
    | integer i => exact absurd rfl (hinteger i)
    | _ => rfl
  | boolean h =>
    cases v with
    | bool b => exact absurd rfl (h b)
    | _ => rfl
  | decimal h =>
    cases v with
    | decimal d => exact absurd rfl (h d)
    | _ => rfl
  | dateTime h =>
    cases v with
    | dateTime t => exact absurd rfl (h t)
    | _ => rfl
  | date h =>
    cases v with
    | date d => exact absurd rfl (h d)
    | _ => rfl
  | list h => exact Conversion.list_read_eq_error.2 (.inl ⟨h, rfl⟩)

theorem Misfit.not_succeeds (h : Misfit t v indices problem) :
    ¬Succeeds (t.conversion.read v) := by
  induction h with
  | here h =>
    rw [h.read_eq]
    exact not_succeeds_error _
  | option hnull _ ih =>
    rintro ⟨x, hx⟩
    rcases Conversion.option_read_eq_ok.1 hx with ⟨hv, _⟩ | ⟨_, a, ha, _⟩
    · exact hnull hv
    · exact ih ⟨a, ha⟩
  | field habsent _ ih =>
    rintro ⟨x, hx⟩
    rcases Conversion.field_read_eq_ok.1 hx with ⟨hv, _⟩ | ⟨_, a, ha, _⟩
    · exact habsent hv
    · exact ih ⟨a, ha⟩
  | item hitem _ ih =>
    rintro ⟨as, has⟩
    obtain ⟨_, hitems, hreads⟩ := Conversion.list_read_eq_ok.1 has
    cases hitems
    exact ih (exists_of_mapM (mapM_eq_ok.2 hreads) (List.mem_of_getElem? hitem))

namespace FirstMisfit

theorem here {expected : String} (h : WrongKind t v expected) :
    t.FirstMisfit v [] (.mismatch expected v.kind) :=
  ⟨.here h, fun _ _ _ => nofun⟩

theorem option (hnull : v ≠ .null) (h : t.FirstMisfit v indices problem) :
    t.option.FirstMisfit v indices problem := by
  refine ⟨.option hnull h.misfit, fun other otherProblem hother => ?_⟩
  cases hother with
  | here hwrong => cases hwrong
  | option _ hother => exact h.earliest _ _ hother

theorem field (habsent : v ≠ .absent) (h : t.FirstMisfit v indices problem) :
    t.field.FirstMisfit v indices problem := by
  refine ⟨.field habsent h.misfit, fun other otherProblem hother => ?_⟩
  cases hother with
  | here hwrong => cases hwrong
  | field _ hother => exact h.earliest _ _ hother

/-- Behind items that are read, the first misfit of an item is that of the list. -/
theorem item {before : List Value} (after : List Value)
    (hbefore : ∀ b ∈ before, Succeeds (t.conversion.read b)) (h : t.FirstMisfit v indices problem) :
    t.list.FirstMisfit (.list (before ++ v :: after)) (before.length :: indices) problem := by
  refine ⟨.item (by simp) h.misfit, fun other otherProblem hother hlex => ?_⟩
  cases hother with
  | here hwrong =>
    cases hwrong with
    | list hlist => exact hlist _ rfl
  | @item _ _ index w indices' _ hitem hmisfit =>
    cases hlex with
    | rel hlt =>
      rw [List.getElem?_append_left hlt] at hitem
      exact hmisfit.not_succeeds (hbefore w (List.mem_of_getElem? hitem))
    | cons hlex =>
      simp only [List.getElem?_append_right, Nat.le_refl, Nat.sub_self,
        List.getElem?_cons_zero, Option.some.injEq] at hitem
      subst hitem
      exact h.earliest _ _ hmisfit hlex

end FirstMisfit

theorem firstMisfit_of_read_eq_error (t : Target) {v : Value} {e : CodecError}
    (h : t.conversion.read v = .error e) :
    ∃ indices problem, t.FirstMisfit v indices problem ∧
      e = .invalid (Path.element indices) problem := by
  have hwrong {t : Target} {v : Value} {expected : String} (h : WrongKind t v expected) :
      ∃ indices problem, t.FirstMisfit v indices problem ∧
        kindError expected v = .invalid (Path.element indices) problem :=
    ⟨[], _, .here h, rfl⟩
  induction t generalizing v e with
  | option inner ih =>
    obtain ⟨hnull, h⟩ := Conversion.option_read_eq_error.1 h
    obtain ⟨indices, problem, hfirst, rfl⟩ := ih h
    exact ⟨indices, problem, hfirst.option hnull, rfl⟩
  | field inner ih =>
    obtain ⟨habsent, h⟩ := Conversion.field_read_eq_error.1 h
    obtain ⟨indices, problem, hfirst, rfl⟩ := ih h
    exact ⟨indices, problem, hfirst.field habsent, rfl⟩
  | list item ih =>
    rcases Conversion.list_read_eq_error.1 h with ⟨hlist, rfl⟩ |
      ⟨before, w, after, e', rfl, hbefore, hw, rfl⟩
    · exact hwrong (.list hlist)
    · obtain ⟨indices, problem, hfirst, rfl⟩ := ih hw
      refine ⟨before.length :: indices, problem, hfirst.item after hbefore, ?_⟩
      rw [CodecError.below_element]
      rfl
  | value => cases h
  | string => cases v <;> cases h <;> exact hwrong (.string (by simp))
  | integer => cases v <;> cases h <;> exact hwrong (.integer (by simp))
  | float => cases v <;> cases h <;> exact hwrong (.float (by simp) (by simp))
  | boolean => cases v <;> cases h <;> exact hwrong (.boolean (by simp))
  | decimal => cases v <;> cases h <;> exact hwrong (.decimal (by simp))
  | dateTime => cases v <;> cases h <;> exact hwrong (.dateTime (by simp))
  | date => cases v <;> cases h <;> exact hwrong (.date (by simp))

theorem WrongKind.unique {expected expected' : String} (h : WrongKind t v expected)
    (h' : WrongKind t v expected') : expected = expected' := by
  cases h <;> cases h' <;> rfl

/-- There is one thing wrong with an element. -/
theorem Misfit.unique {problem' : Problem} (h : Misfit t v indices problem)
    (h' : Misfit t v indices problem') : problem = problem' := by
  induction h with
  | here h =>
    cases h' with
    | here h' => rw [h.unique h']
    | option => cases h
    | field => cases h
  | option _ _ ih =>
    cases h' with
    | here hwrong => cases hwrong
    | option _ h' => exact ih h'
  | field _ _ ih =>
    cases h' with
    | here hwrong => cases hwrong
    | field _ h' => exact ih h'
  | item hitem _ ih =>
    cases h' with
    | item hitem' h' =>
      rw [hitem] at hitem'
      cases hitem'
      exact ih h'

theorem FirstMisfit.unique {indices' : List Nat} {problem' : Problem}
    (h : t.FirstMisfit v indices problem) (h' : t.FirstMisfit v indices' problem') :
    indices = indices' ∧ problem = problem' := by
  have hindices : indices = indices' := Std.Trichotomous.trichotomous indices indices'
    (h'.earliest _ _ h.misfit) (h.earliest _ _ h'.misfit)
  subst hindices
  exact ⟨rfl, h.misfit.unique h'.misfit⟩

theorem read_eq_error_iff :
    t.conversion.read v = .error e ↔
      ∃ indices problem, t.FirstMisfit v indices problem ∧
        e = .invalid (Path.element indices) problem := by
  refine ⟨t.firstMisfit_of_read_eq_error, ?_⟩
  rintro ⟨indices, problem, hfirst, rfl⟩
  cases hread : t.conversion.read v with
  | ok x => exact absurd ⟨x, hread⟩ hfirst.misfit.not_succeeds
  | error e =>
    obtain ⟨indices', problem', hfirst', rfl⟩ := t.firstMisfit_of_read_eq_error hread
    obtain ⟨rfl, rfl⟩ := hfirst.unique hfirst'
    rfl

end Target

namespace Record

variable {α : Type} {r : Record} {c : Conversion α} {field : String} {e : CodecError}

/-- What is read in the place of a field: its value, or absence where there is none. -/
def valueOf (r : Record) (field : String) : Value := (r.get? field).getD .absent

theorem take_eq_error (h : c.read (r.valueOf field) = .error e) :
    (r.take c field).1 = .error (e.below (Path.child r.type.name field)) := by
  rw [valueOf] at h
  simp only [take, h]
  rfl

theorem get?_erase_self (r : Record) (field : String) : (r.erase field).get? field = none :=
  Entries.lookup_erase_self field r.fields

theorem get?_erase_ne {other : String} (h : other ≠ field) (r : Record) :
    (r.erase field).get? other = r.get? other :=
  Entries.lookup_erase_ne h r.fields

end Record

/-- A value is refused as a type because of its first misfit, whose kind the error tells and whose
indices its path lists, below the field the value is taken from, if it is; taking a field removes that
field alone, whatever becomes of its value; and errors without a place go through lists and fields as
they are. -/
theorem conversion_errors_located :
    (∀ (t : Target) (v : Value),
      (∀ e, t.conversion.read v = .error e ↔
        ∃ indices problem, t.FirstMisfit v indices problem ∧
          e = .invalid (Path.element indices) problem) ∧
      ∀ indices problem, t.FirstMisfit v indices problem →
        ∀ (r : Record) (field : String), r.valueOf field = v →
          (r.take t.conversion field).1 = .error
            (.invalid (indices.foldl Path.item (r.type.name ++ "." ++ field)) problem)) ∧
      (∀ (α : Type) (c : Conversion α) (r : Record) (field : String),
        (r.take c field).2.type = r.type ∧ (r.take c field).2.get? field = none ∧
          ∀ other, other ≠ field → (r.take c field).2.get? other = r.get? other) ∧
      ∀ (α : Type) (c : Conversion α) (e : CodecError), (∀ path problem, e ≠ .invalid path problem) →
        (∀ (r : Record) (field : String), c.read (r.valueOf field) = .error e →
          (r.take c field).1 = .error e) ∧
        ∀ before v after, (∀ b ∈ before, Succeeds (c.read b)) → c.read v = .error e →
          c.list.read (.list (before ++ v :: after)) = .error e := by
  refine ⟨fun t v => ⟨fun e => Target.read_eq_error_iff, ?_⟩, ?_, ?_⟩
  · rintro indices problem hfirst r field rfl
    rw [Record.take_eq_error (Target.read_eq_error_iff.2 ⟨indices, problem, hfirst, rfl⟩),
      CodecError.below_element]
    rfl
  · intro α c r field
    exact ⟨rfl, r.get?_erase_self field, fun other hother => Record.get?_erase_ne hother r⟩
  · intro α c e hplaceless
    constructor
    · intro r field h
      rw [Record.take_eq_error h, CodecError.below_of_placeless hplaceless]
    · intro before v after hbefore h
      rw [Conversion.list_read_eq_error]
      exact .inr ⟨before, v, after, e, rfl, hbefore, h,
        (CodecError.below_of_placeless hplaceless _).symm⟩

/-- Scores of the rounds of a match, of which some were not played and some are not known. -/
def scoresByRound : Target := .list (.field (.list (.option .integer)))

/-- The scores of three rounds, with a truth value and a text among those of the last. -/
def mixedScores : Value :=
  .list [.list [.integer 3, .null], .absent, .list [.integer 1, .bool true, .string "2"]]

/-- Reads everything but records, whose types it does not know. -/
def Conversion.untyped : Conversion Value where
  read
    | .record type _ => .error (.unregistered type)
    | v => .ok v
  write := id

theorem mixedScores_located :
    scoresByRound.FirstMisfit mixedScores [2, 1] (.mismatch "int" "bool") ∧
      scoresByRound.conversion.read mixedScores =
        .error (.invalid "[2][1]" (.mismatch "int" "bool")) ∧
      (Record.mk ⟨"game", "Match"⟩ [("scores", mixedScores)]).valueOf "scores" = mixedScores ∧
      ((Record.mk ⟨"game", "Match"⟩ [("scores", mixedScores)]).take scoresByRound.conversion
        "scores").1 = .error (.invalid "Match.scores[2][1]" (.mismatch "int" "bool")) ∧
      Conversion.untyped.list.read (.list [.null, .record ⟨"game", "Match"⟩ [], .null]) =
        .error (.unregistered ⟨"game", "Match"⟩) := by
  have hitem : (Target.option .integer).FirstMisfit (.bool true) [] (.mismatch "int" "bool") :=
    .option (by simp) (.here (.integer (by simp)))
  have hround : (Target.list (.option .integer)).FirstMisfit
      (.list [.integer 1, .bool true, .string "2"]) [1] (.mismatch "int" "bool") :=
    hitem.item [.string "2"] (List.forall_mem_singleton.2 ⟨_, rfl⟩)
  have hplayed : ∀ b ∈ [.list [.integer 3, .null], .absent],
      Succeeds ((Target.list (.option .integer)).field.conversion.read b) :=
    List.forall_mem_cons.2 ⟨⟨_, rfl⟩, List.forall_mem_singleton.2 ⟨_, rfl⟩⟩
  have hfirst : scoresByRound.FirstMisfit mixedScores [2, 1] (.mismatch "int" "bool") :=
    (hround.field (by simp)).item [] hplayed
  obtain ⟨hread, htake⟩ := conversion_errors_located.1 scoresByRound mixedScores
  refine ⟨hfirst, (hread _).2 ⟨_, _, hfirst, rfl⟩, rfl, htake _ _ hfirst _ _ rfl, ?_⟩
  refine (conversion_errors_located.2.2 Value .untyped _ ?_).2 [.null] _ [.null] ?_ rfl
  · simp
  · exact List.forall_mem_singleton.2 ⟨_, rfl⟩

end StatementGate
