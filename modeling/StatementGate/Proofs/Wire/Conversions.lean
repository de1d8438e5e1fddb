import StatementGate.Proofs.Outcome
import StatementGate.Wire.Typed

/-! # Conversions in both directions

What is read from a value is written as that value again, but for integers that are read as floats.
What is written is read back as it was exactly for the types in which no layer that may be empty lies
around another whose emptiness is written in the same way. -/

namespace StatementGate

namespace Conversion

variable {α : Type} {c : Conversion α} {v : Value}

theorem option_read_eq_ok {x : Option α} :
    c.option.read v = .ok x ↔
      (v = .null ∧ x = none) ∨ (v ≠ .null ∧ ∃ a, c.read v = .ok a ∧ x = some a) := by
  by_cases hnull : v = .null
  · subst hnull
    simp [option, eq_comm]
  · have hread : c.option.read v = some <$> c.read v := by
      cases v with
      | null => exact absurd rfl hnull
      | _ => rfl
    rw [hread, map_eq_ok]
    simp [hnull, eq_comm]

theorem field_read_eq_ok {x : Field α} :
    c.field.read v = .ok x ↔
      (v = .absent ∧ x = .absent) ∨ (v ≠ .absent ∧ ∃ a, c.read v = .ok a ∧ x = .present a) := by
  by_cases habsent : v = .absent
  · subst habsent
    simp [field, eq_comm]
  · have hread : c.field.read v = Field.present <$> c.read v := by
      cases v with
      | absent => exact absurd rfl habsent
      | _ => rfl
    rw [hread, map_eq_ok]
    simp [habsent, eq_comm]

theorem readItems_eq_ok {items : List Value} {index : Nat} {as : List α} :
    c.readItems items index = .ok as ↔ List.Forall₂ (fun v a => c.read v = .ok a) items as := by
  induction items generalizing index as with
  | nil =>
    rw [List.forall₂_nil_left_iff]
    simp [readItems, eq_comm]
  | cons v rest ih =>
    rw [readItems, List.forall₂_cons_left_iff]
    cases hread : c.read v with
    | error error => simp
    | ok a =>
      change (a :: ·) <$> c.readItems rest (index + 1) = .ok as ↔ _
      rw [map_eq_ok]
      simp [ih, eq_comm]

theorem list_read_eq_ok {as : List α} :
    c.list.read v = .ok as ↔
      ∃ items, v = .list items ∧ List.Forall₂ (fun v a => c.read v = .ok a) items as := by
  cases v with
  | list items => simp [list, readItems_eq_ok]
  | _ => simp [list]

/-- Items are written as they come back one by one. -/
theorem map_write_of_reads {back : Value → Value}
    (hback : ∀ {v : Value} {a : α}, c.read v = .ok a → c.write a = back v) {items : List Value}
    {as : List α} (h : List.Forall₂ (fun v a => c.read v = .ok a) items as) :
    as.map c.write = items.map back := by
  induction h with
  | nil => rfl
  | cons ha _ ih => rw [List.map_cons, List.map_cons, hback ha, ih]

theorem reads_map_write {as : List α} (h : ∀ a, c.read (c.write a) = .ok a) :
    List.Forall₂ (fun v a => c.read v = .ok a) (as.map c.write) as := by
  rw [List.forall₂_map_left_iff, List.forall₂_same]
  exact fun a _ => h a

end Conversion

namespace Target

/-- What a value comes back as from a type: an integer in the place of a float is widened, and all
else stays as it is. -/
def widened : Target → Value → Value
  | .float, .integer i => .float (Binary64.ofInt i.toInt)
  | .option inner, v => inner.widened v
  | .field inner, v => inner.widened v
  | .list item, .list items => .list (items.map item.widened)
  | _, v => v

theorem widened_null (t : Target) : t.widened .null = .null := by
  induction t with
  | option inner ih => exact ih
  | field inner ih => exact ih
  | _ => rfl

theorem widened_absent (t : Target) : t.widened .absent = .absent := by
  induction t with
  | option inner ih => exact ih
  | field inner ih => exact ih
  | _ => rfl

/-- Whatever a type reads, it writes again, integers widened where it has floats. -/
theorem write_of_read (t : Target) {v : Value} {x : t.Carrier} (h : t.conversion.read v = .ok x) :
    t.conversion.write x = t.widened v := by
  induction t generalizing v with
  | option inner ih =>
    rcases Conversion.option_read_eq_ok.1 h with ⟨rfl, rfl⟩ | ⟨_, a, ha, rfl⟩
    · exact (widened_null inner).symm
    · exact ih ha
  | field inner ih =>
    rcases Conversion.field_read_eq_ok.1 h with ⟨rfl, rfl⟩ | ⟨_, a, ha, rfl⟩
    · exact (widened_absent inner).symm
    · exact ih ha
  | list item ih =>
    obtain ⟨items, rfl, hitems⟩ := Conversion.list_read_eq_ok.1 h
    exact congrArg Value.list (Conversion.map_write_of_reads ih hitems)
  | value =>
    cases h
    rfl
  | _ => cases v <;> cases h <;> rfl

/-- Whether something of the type is written as null. -/
def mayBeNull : Target → Bool
  | .option _ | .value => true
  | .field inner => inner.mayBeNull
  | _ => false

/-- Whether something of the type is written as absent. -/
def mayBeAbsent : Target → Bool
  | .field _ | .value => true
  | .option inner => inner.mayBeAbsent
  | _ => false

/-- No option lies around what may be null itself, and no field around what may be absent itself. -/
def Unambiguous : Target → Prop
  | .option inner => inner.mayBeNull = false ∧ inner.Unambiguous
  | .field inner => inner.mayBeAbsent = false ∧ inner.Unambiguous
  | .list item => item.Unambiguous
  | _ => True

theorem mayBeNull_iff (t : Target) :
    t.mayBeNull = true ↔ ∃ x : t.Carrier, t.conversion.write x = .null := by
  induction t with
  | option inner ih => exact iff_of_true rfl ⟨(none : Option inner.Carrier), rfl⟩
  | value => exact iff_of_true rfl ⟨Value.null, rfl⟩
  | field inner ih =>
    refine ih.trans ⟨fun ⟨y, hy⟩ => ⟨Field.present y, hy⟩, fun ⟨x, hx⟩ => ?_⟩
    cases (x : Field inner.Carrier) with
    | absent => cases hx
    | present y => exact ⟨y, hx⟩
  | _ =>
    refine iff_of_false Bool.false_ne_true ?_
    rintro ⟨_, hx⟩
    cases hx

theorem mayBeAbsent_iff (t : Target) :
    t.mayBeAbsent = true ↔ ∃ x : t.Carrier, t.conversion.write x = .absent := by
  induction t with
  | field inner ih => exact iff_of_true rfl ⟨(Field.absent : Field inner.Carrier), rfl⟩
  | value => exact iff_of_true rfl ⟨Value.absent, rfl⟩
  | option inner ih =>
    refine ih.trans ⟨fun ⟨y, hy⟩ => ⟨some y, hy⟩, fun ⟨x, hx⟩ => ?_⟩
    cases (x : Option inner.Carrier) with
    | none => cases hx
    | some y => exact ⟨y, hx⟩
  | _ =>
    refine iff_of_false Bool.false_ne_true ?_
    rintro ⟨_, hx⟩
    cases hx

theorem ne_null_of_write {t : Target} (h : t.mayBeNull = false) (x : t.Carrier) :
    t.conversion.write x ≠ .null := by
  intro hx
  rw [t.mayBeNull_iff.2 ⟨x, hx⟩] at h
  cases h

theorem ne_absent_of_write {t : Target} (h : t.mayBeAbsent = false) (x : t.Carrier) :
    t.conversion.write x ≠ .absent := by
  intro hx
  rw [t.mayBeAbsent_iff.2 ⟨x, hx⟩] at h
  cases h

theorem Unambiguous.read_write {t : Target} (h : t.Unambiguous) (x : t.Carrier) :
    t.conversion.read (t.conversion.write x) = .ok x := by
  induction t with
  | option inner ih =>
    cases (x : Option inner.Carrier) with
    | none => rfl
    | some y =>
      exact Conversion.option_read_eq_ok.2 (.inr ⟨ne_null_of_write h.1 y, y, ih h.2 y, rfl⟩)
  | field inner ih =>
    cases (x : Field inner.Carrier) with
    | absent => rfl
    | present y =>
      exact Conversion.field_read_eq_ok.2 (.inr ⟨ne_absent_of_write h.1 y, y, ih h.2 y, rfl⟩)
  | list item ih =>
    exact Conversion.list_read_eq_ok.2 ⟨_, rfl, Conversion.reads_map_write (ih h)⟩
  | _ => rfl

/-- A type that has every value back is unambiguous: an inner null would come back as none, and an
inner absence as an absent field. -/
theorem unambiguous_of_read_write {t : Target}
    (h : ∀ x, t.conversion.read (t.conversion.write x) = .ok x) : t.Unambiguous := by
  induction t with
  | option inner ih =>
    have hsome (y : inner.Carrier) :
        inner.conversion.write y ≠ .null ∧
          inner.conversion.read (inner.conversion.write y) = .ok y := by
      rcases Conversion.option_read_eq_ok.1 (h (some y)) with ⟨_, hy⟩ | ⟨hne, _, hread, hy⟩
      · cases hy
      · cases hy
        exact ⟨hne, hread⟩
    refine ⟨Bool.eq_false_iff.2 fun hnull => ?_, ih fun y => (hsome y).2⟩
    obtain ⟨y, hy⟩ := inner.mayBeNull_iff.1 hnull
    exact (hsome y).1 hy
  | field inner ih =>
    have hpresent (y : inner.Carrier) :
        inner.conversion.write y ≠ .absent ∧
          inner.conversion.read (inner.conversion.write y) = .ok y := by
      rcases Conversion.field_read_eq_ok.1 (h (Field.present y)) with ⟨_, hy⟩ | ⟨hne, _, hread, hy⟩
      · cases hy
      · cases hy
        exact ⟨hne, hread⟩
    refine ⟨Bool.eq_false_iff.2 fun habsent => ?_, ih fun y => (hpresent y).2⟩
    obtain ⟨y, hy⟩ := inner.mayBeAbsent_iff.1 habsent
    exact (hpresent y).1 hy
  | list item ih =>
    refine ih fun y => ?_
    obtain ⟨items, hitems, hreads⟩ := Conversion.list_read_eq_ok.1 (h [y])
    cases hitems
    exact (List.forall₂_cons.1 hreads).1
  | _ => trivial

/-- Conversions are inverse to each other: what is read from a value is written as that value, but
for widened integers; and all that is written is read back as it was if and only if the type is
unambiguous. -/
theorem conversions_inverse (t : Target) :
    (∀ v x, t.conversion.read v = .ok x → t.conversion.write x = t.widened v) ∧
      ((∀ x, t.conversion.read (t.conversion.write x) = .ok x) ↔ t.Unambiguous) :=
  ⟨fun _ _ => t.write_of_read, unambiguous_of_read_write, Unambiguous.read_write⟩

/-- Amounts of which each may be left out, be unknown, or be a number. -/
def amounts : Target := .list (.field (.option .float))

theorem amounts_inverse :
    amounts.conversion.read (.list [.absent, .null, .integer 3]) =
        .ok [.absent, .present none, .present (some (Binary64.ofInt 3))] ∧
      amounts.conversion.write [.absent, .present none, .present (some (Binary64.ofInt 3))] =
        .list [.absent, .null, .float (Binary64.ofInt 3)] ∧
      amounts.Unambiguous ∧
      amounts.conversion.read
          (amounts.conversion.write [.absent, .present none, .present (some (Binary64.ofInt 3))]) =
        .ok [.absent, .present none, .present (some (Binary64.ofInt 3))] :=
  have hread : amounts.conversion.read (.list [.absent, .null, .integer 3]) =
      .ok [.absent, .present none, .present (some (Binary64.ofInt 3))] := rfl
  have hplain : amounts.Unambiguous := ⟨rfl, rfl, trivial⟩
  ⟨hread, (conversions_inverse amounts).1 _ _ hread, hplain,
    (conversions_inverse amounts).2.2 hplain _⟩

/-- A missing value within a field within an option comes back as no field at all. -/
example : (Target.option (.field (.option .string))).conversion.read
    ((Target.option (.field (.option .string))).conversion.write (some (.present none))) =
      .ok none :=
  rfl

end Target

end StatementGate
