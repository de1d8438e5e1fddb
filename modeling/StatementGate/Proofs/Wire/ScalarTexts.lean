import StatementGate.Proofs.Wire.Rereading

/-! # The text that a scalar is written as

A decimal, a moment and a day are read from many texts: with exponents and underscores, in a leap
second, with digits past the nanosecond. One writing settles the text: what it reads as is the same
value, and is written as the same text again. -/

namespace StatementGate

variable {R : Registry}

theorem Decimal.render_reread (d : Decimal) : d.reread.render = d.render := by
  obtain ⟨d', hparse, -, hrender⟩ := d.parse_render_stable
  rw [parse_render_reread] at hparse
  cases hparse
  exact hrender

/-- The kinds with a syntax of their own inside a JSON string. -/
inductive ScalarKind.Textual : ScalarKind → Prop
  | decimal : Textual .decimal
  | dateTime : Textual .dateTime
  | date : Textual .date

/-- Only a decimal is also read from a number, however many digits that has. -/
theorem decodeScalar_textual_fits {kind : ScalarKind} (hkind : kind.Textual) {j : Json}
    {path : String} {v : Value} (hmark : j ≠ .string absentMark)
    (h : decodeScalar j kind path = .ok v) : v.Fits R (.scalar kind) := by
  cases j with
  | string text => exact decodeScalar_fits (.string text) hmark h
  | number n =>
    cases hkind with
    | decimal =>
      cases decodeDecimal_has h with
      | decimal d => exact .decimal d
    | dateTime => cases h
    | date => cases h
  | _ => cases hkind <;> cases h

namespace Value.Fits

theorem rereads_textual {kind : ScalarKind} (hkind : kind.Textual) {v : Value}
    (h : v.Fits R (.scalar kind)) : Rereads R (.scalar kind) v := by
  cases hkind with
  | decimal =>
    cases h with
    | decimal d => exact .decimal d
  | dateTime =>
    cases h with
    | dateTime hyear hday hminute => exact .dateTime (DateTime.render_eq hyear.1 hday hminute)
  | date =>
    cases h with
    | date d => exact .date d

/-- The value and what its text reads as have the same text. -/
theorem exists_text {kind : ScalarKind} (hkind : kind.Textual) {v : Value}
    (h : v.Fits R (.scalar kind)) :
    ∃ text, v.encode = .ok (.string text) ∧ v.reread.encode = .ok (.string text) := by
  cases hkind with
  | decimal =>
    cases h with
    | decimal d =>
      refine ⟨d.render, rfl, ?_⟩
      rw [← d.render_reread]
      rfl
  | dateTime =>
    cases h with
    | @dateTime t hyear hday hminute =>
      have hencode : (Value.dateTime t).encode = .ok (.string (String.ofList t.characters)) := by
        rw [encode, encodeAt, DateTime.render_eq hyear.1 hday hminute]
      exact ⟨_, hencode, hencode⟩
  | date =>
    cases h with
    | date d => exact ⟨d.render, rfl, rfl⟩

end Value.Fits

/-- Whatever text or number a scalar was read from, it has a text, that text reads as the same
value, and this value is written as that text. -/
theorem scalarTexts_normalized {kind : ScalarKind} (hkind : kind.Textual) {j : Json} {v : Value}
    (hmark : j ≠ .string absentMark) (h : decode R j (.scalar kind) = .ok v) :
    ∃ text w, v.encode = .ok (.string text) ∧ decode R (.string text) (.scalar kind) = .ok w ∧
      v.Same w ∧ w.encode = .ok (.string text) := by
  rw [decode, decodeAt_scalar hmark] at h
  have hfits : v.Fits R (.scalar kind) := decodeScalar_textual_fits hkind hmark h
  obtain ⟨text, hwritten, hagain⟩ := hfits.exists_text hkind
  have hread := (hfits.rereads_textual hkind).decode_written hwritten Path.root
  exact ⟨text, v.reread, hwritten, hread, v.same_reread, hagain⟩

/-- The leap second of 2016, in a zone half an hour west of UTC. -/
def westernLeapSecond : DateTime where
  date := leapSecond.date
  hour := 23
  minute := 29
  second := 59
  nanosecond := 999999999
  offset := -1800
  time_bounds := by decide
  offset_bounds := by decide

theorem parse_westernLeapSecond :
    DateTime.parse "2016-12-31t23:29:60.25-00:30" = .ok westernLeapSecond := by
  decide +kernel

/-- A leap second is written as the last nanosecond before it. The exponent of the decimal is the
largest that a scale can hold. -/
theorem westernLeapSecond_normalized :
    ScalarKind.Textual .dateTime ∧ ScalarKind.Textual .decimal ∧
    decode people (.string "2016-12-31t23:29:60.25-00:30") (.scalar .dateTime) =
      .ok (.dateTime westernLeapSecond) ∧
    decode people (.string "-1_2E+9223372036854775808") (.scalar .decimal) =
      .ok (.decimal ⟨-12, Int64.minValue⟩) ∧
    (∃ text w, (Value.dateTime westernLeapSecond).encode = .ok (.string text) ∧
      decode people (.string text) (.scalar .dateTime) = .ok w ∧
      (Value.dateTime westernLeapSecond).Same w ∧ w.encode = .ok (.string text)) ∧
    ∃ text w, (Value.decimal ⟨-12, Int64.minValue⟩).encode = .ok (.string text) ∧
      decode people (.string text) (.scalar .decimal) = .ok w ∧
      (Value.decimal ⟨-12, Int64.minValue⟩).Same w ∧ w.encode = .ok (.string text) := by
  have hmoment : decode people (.string "2016-12-31t23:29:60.25-00:30") (.scalar .dateTime) =
      .ok (.dateTime westernLeapSecond) := by
    rw [decode, decodeAt_scalar (by decide), decodeScalar, parse_westernLeapSecond]
  have hdecimal : decode people (.string "-1_2E+9223372036854775808") (.scalar .decimal) =
      .ok (.decimal ⟨-12, Int64.minValue⟩) := by
    rw [decode, decodeAt_scalar (by decide)]
    rfl
  exact ⟨.dateTime, .decimal, hmoment, hdecimal,
    scalarTexts_normalized .dateTime (by decide) hmoment,
    scalarTexts_normalized .decimal (by decide) hdecimal⟩

end StatementGate
