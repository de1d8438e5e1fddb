import StatementGate.Proofs.Calendar.Text
import StatementGate.Proofs.Lookup
import StatementGate.Proofs.Number.Decimal
import StatementGate.Proofs.Outcome
import StatementGate.Wire.Codec

/-! # What is written

Null and the mark of absence are written for little else than null and absence: no text of a
number, a moment or a date looks like the mark. A record writes the fields it has. -/

namespace StatementGate

namespace Date

theorem render_ne_mark (d : Date) : d.render ≠ absentMark := by
  intro h
  have hparse := d.parse_render
  rw [h] at hparse
  cases hparse

end Date

namespace DateTime

theorem ascii_absentMark : ∀ c ∈ absentMark.toList, c.toNat < 128 := by
  have hall : absentMark.toList.all (fun c => c.toNat < 128) = true := by decide
  intro c hc
  exact of_decide_eq_true (List.all_eq_true.1 hall c hc)

theorem render_ne_mark (t : DateTime) : t.render ≠ .ok absentMark := by
  intro h
  have hparse := parse_render h
  rw [← String.ofList_toList (s := absentMark), parse_of_ascii ascii_absentMark] at hparse
  cases hparse

end DateTime

namespace Decimal

theorem render_ne_mark (d : Decimal) : d.render ≠ absentMark := by
  intro h
  obtain ⟨d', hparse, -⟩ := d.parse_render
  rw [h] at hparse
  cases hparse

end Decimal

theorem fitsInt64_toInt (i : Int64) : fitsInt64 i.toInt = true := by
  simp only [fitsInt64]
  rw [decide_eq_true_iff]
  exact ⟨i.le_toInt, Int.le_of_lt_add_one i.toInt_lt⟩

namespace Value

theorem encodeAt_float {x : Binary64} {path : String} {j : Json}
    (h : (float x).encodeAt path = .ok j) : j = .number (.float x) := by
  rw [encodeAt] at h
  by_cases hfinite : x.isFinite
  · rw [if_pos hfinite] at h
    cases h
    rfl
  · rw [if_neg hfinite] at h
    cases h

theorem encodeAt_dateTime {t : DateTime} {path : String} {j : Json}
    (h : (dateTime t).encodeAt path = .ok j) : ∃ text, t.render = .ok text ∧ j = .string text := by
  rw [encodeAt] at h
  cases hrender : t.render with
  | error cause =>
    rw [hrender] at h
    cases h
  | ok text =>
    rw [hrender] at h
    cases h
    exact ⟨text, rfl, rfl⟩

theorem encodeAt_list {items : List Value} {path : String} {j : Json}
    (h : (list items).encodeAt path = .ok j) : ∃ js, j = .array js := by
  rw [encodeAt] at h
  obtain ⟨js, -, h⟩ := bind_eq_ok.1 h
  cases h
  exact ⟨js, rfl⟩

theorem encodeAt_record {type : TypeName} {fields : List (String × Value)} {path : String} {j : Json}
    (h : (record type fields).encodeAt path = .ok j) : ∃ members, j = .object members := by
  rw [encodeAt] at h
  obtain ⟨members, -, h⟩ := bind_eq_ok.1 h
  cases h
  exact ⟨members, rfl⟩

/-- Only the null value is written as null. -/
theorem encodeAt_eq_null {v : Value} {path : String} (h : v.encodeAt path = .ok .null) :
    v = .null := by
  cases v with
  | null => rfl
  | float x => cases encodeAt_float h
  | dateTime t =>
    obtain ⟨_, -, hj⟩ := encodeAt_dateTime h
    cases hj
  | list items =>
    obtain ⟨_, hj⟩ := encodeAt_list h
    cases hj
  | record type fields =>
    obtain ⟨_, hj⟩ := encodeAt_record h
    cases hj
  | _ =>
    rw [encodeAt] at h
    cases h

/-- The mark is written for absence, and for the text that looks like it. -/
theorem encodeAt_eq_mark {v : Value} {path : String}
    (h : v.encodeAt path = .ok (.string absentMark)) : v = .absent ∨ v = .string absentMark := by
  cases v with
  | absent => exact .inl rfl
  | string s =>
    rw [encodeAt] at h
    cases h
    exact .inr rfl
  | float x => cases encodeAt_float h
  | decimal d =>
    rw [encodeAt] at h
    exact absurd (Json.string.inj (Except.ok.inj h)) d.render_ne_mark
  | dateTime t =>
    obtain ⟨text, hrender, hj⟩ := encodeAt_dateTime h
    cases hj
    exact absurd hrender t.render_ne_mark
  | date d =>
    rw [encodeAt] at h
    exact absurd (Json.string.inj (Except.ok.inj h)) d.render_ne_mark
  | list items =>
    obtain ⟨_, hj⟩ := encodeAt_list h
    cases hj
  | record type fields =>
    obtain ⟨_, hj⟩ := encodeAt_record h
    cases hj
  | _ =>
    rw [encodeAt] at h
    cases h

theorem ne_mark_of_encodeAt {v : Value} {path : String} {j : Json} (h : v.encodeAt path = .ok j)
    (habsent : v ≠ .absent) (hmark : v ≠ .string absentMark) : j ≠ .string absentMark := by
  rintro rfl
  exact (encodeAt_eq_mark h).elim habsent hmark

end Value

/-- What stands under the key of a field: nothing where the field is absent, else its JSON. -/
inductive Written : Value → Option Json → Prop
  | absent : Written .absent none
  | present {v : Value} {j : Json} (habsent : v ≠ .absent) (h : ∀ path, v.encodeAt path = .ok j) :
      Written v (some j)

theorem Value.isAbsent_iff {v : Value} : v.isAbsent = true ↔ v = .absent := by
  cases v <;> simp [isAbsent]

theorem Value.encodeItems_written {items : List Value}
    (h : ∀ v ∈ items, ∃ j, ∀ path, v.encodeAt path = .ok j) :
    ∃ js, (∀ index path, encodeItems items index path = .ok js) ∧
      ∀ v ∈ items, ∃ j ∈ js, ∀ path, v.encodeAt path = .ok j := by
  induction items with
  | nil => exact ⟨[], fun _ _ => rfl, List.forall_mem_nil _⟩
  | cons v rest ih =>
    rw [List.forall_mem_cons] at h
    obtain ⟨j, hj⟩ := h.1
    obtain ⟨js, hencode, hwritten⟩ := ih h.2
    refine ⟨j :: js, fun index path => ?_, ?_⟩
    · rw [encodeItems, hj, hencode]
      rfl
    · rw [List.forall_mem_cons]
      refine ⟨⟨j, List.mem_cons_self, hj⟩, fun v hmem => ?_⟩
      obtain ⟨j', hj', hv⟩ := hwritten v hmem
      exact ⟨j', List.mem_cons_of_mem j hj', hv⟩

theorem Value.encodeFields_written {fields : List (String × Value)}
    (hdistinct : (fields.map Prod.fst).Nodup)
    (h : ∀ field ∈ fields, field.2 ≠ .absent → ∃ j, ∀ path, field.2.encodeAt path = .ok j) :
    ∃ members, (∀ path, encodeFields fields path = .ok members) ∧
      (∀ key ∉ fields.map Prod.fst, members.lookup key = none) ∧
      ∀ field ∈ fields, Written field.2 (members.lookup field.1) := by
  induction fields with
  | nil => exact ⟨[], fun _ => rfl, fun _ _ => rfl, fun _ hmem => nomatch hmem⟩
  | cons field rest ih =>
    obtain ⟨key, v⟩ := field
    rw [List.map_cons, List.nodup_cons] at hdistinct
    rw [List.forall_mem_cons] at h
    obtain ⟨members, hencode, hnone, hwritten⟩ := ih hdistinct.2 h.2
    by_cases habsent : v = .absent
    · subst habsent
      refine ⟨members, fun path => ?_, fun k hk => ?_, ?_⟩
      · rw [encodeFields, if_pos (isAbsent_iff.2 rfl), hencode]
      · apply hnone
        exact fun hmem => hk (List.mem_cons_of_mem _ hmem)
      · rw [List.forall_mem_cons]
        refine ⟨?_, hwritten⟩
        rw [hnone key hdistinct.1]
        exact .absent
    · obtain ⟨j, hj⟩ := h.1 habsent
      refine ⟨(key, j) :: members, fun path => ?_, fun k hk => ?_, ?_⟩
      · rw [encodeFields, if_neg (mt isAbsent_iff.1 habsent), hj, hencode]
        rfl
      · rw [List.map_cons, List.mem_cons, not_or] at hk
        rw [Entries.lookup_cons_ne hk.1, hnone k hk.2]
      · rw [List.forall_mem_cons]
        refine ⟨?_, fun field hmem => ?_⟩
        · rw [List.lookup_cons_self]
          exact .present habsent hj
        · have hne : field.1 ≠ key := fun heq => hdistinct.1 (List.mem_map.2 ⟨field, hmem, heq⟩)
          rw [Entries.lookup_cons_ne hne]
          exact hwritten field hmem

end StatementGate
