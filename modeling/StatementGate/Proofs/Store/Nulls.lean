import StatementGate.Proofs.Calendar.Text
import StatementGate.Proofs.Store.Parameters

/-! # What is bound as null

Binding fails only for the name of a parameter. Null is bound to null, and to a moment outside the
range of its text: a statement runs with null in the place of that moment, which has no JSON. -/

namespace StatementGate

namespace Scalar

/-- A moment before year 0, or in an offset of a day or more or of a broken minute. -/
def OutOfRange : Scalar → Prop
  | .timestamp t => ¬(0 ≤ t.date.year ∧ t.offset.natAbs < 24 * 3600 ∧ t.offset % 60 = 0)
  | _ => False

/-- The moments out of range are those that RFC 3339 has no text for. -/
theorem outOfRange_timestamp_iff {t : DateTime} :
    (timestamp t).OutOfRange ↔ ∃ cause, t.render = .error cause := by
  constructor
  · intro h
    cases hrender : t.render with
    | error cause => exact ⟨cause, rfl⟩
    | ok s => exact absurd (DateTime.bounds_of_render hrender) h
  · rintro ⟨cause, hcause⟩ ⟨hyear, hday, hminute⟩
    rw [DateTime.render_eq hyear hday hminute] at hcause
    cases hcause

theorem outOfRange_iff_encode {v : Scalar} :
    v.OutOfRange ↔ v.encode = .error .temporalOutOfRange := by
  cases v with
  | timestamp t =>
    rw [outOfRange_timestamp_iff, encode]
    cases t.render <;> simp
  | float x => cases hfinite : x.isFinite <;> simp [OutOfRange, encode, hfinite]
  | _ => simp [OutOfRange, encode]

/-- The scalar, or null in the place of a moment out of range. -/
def nulled (v : Scalar) : Scalar := if v.encode = .error .temporalOutOfRange then .null else v

end Scalar

namespace Store

namespace Cell

theorem ofScalar_eq_null_iff {v : Scalar} : ofScalar v = .null ↔ v = .null ∨ v.OutOfRange := by
  cases v with
  | timestamp t =>
    rw [Scalar.outOfRange_timestamp_iff]
    simp only [ofScalar, Scalar.textForm]
    cases t.render <;> simp [Except.toOption, ofText]
  | _ => simp [ofScalar, Scalar.textForm, Scalar.OutOfRange, ofText]

theorem ofScalar_eq_real_iff {v : Scalar} {x : Binary64} :
    ofScalar v = .real x ↔ v = .float x := by
  cases v with
  | timestamp t =>
    simp only [ofScalar, Scalar.textForm]
    cases t.render <;> simp [Except.toOption, ofText]
  | _ => simp [ofScalar, Scalar.textForm, ofText]

/-- A statement sees no number as null as well. -/
theorem seen_eq_null_iff {cell : Cell} :
    cell.seen = .null ↔ cell = .null ∨ ∃ x, cell = .real x ∧ x.isNaN = true := by
  cases cell with
  | real x => cases hnan : x.isNaN <;> simp [seen, hnan]
  | _ => simp [seen]

theorem ofScalar_nulled (v : Scalar) : ofScalar v.nulled = ofScalar v := by
  rw [Scalar.nulled]
  split
  · rename_i hfails
    exact (ofScalar_eq_null_iff.2 (.inr (Scalar.outOfRange_iff_encode.2 hfails))).symm
  · rfl

end Cell

/-- The binding of a parameter: null for null and for a moment out of range, which has no JSON. No
number is bound as itself and seen as null. -/
structure BoundAs (parameter : String × Scalar) (binding : String × Cell) : Prop where
  spelling : binding.1 = placeholderOf parameter.1
  null_iff : binding.2 = .null ↔ parameter.2 = .null ∨ parameter.2.OutOfRange
  encode_iff : parameter.2.OutOfRange ↔ parameter.2.encode = .error .temporalOutOfRange
  seen_iff : binding.2.seen = .null ↔
    binding.2 = .null ∨ ∃ x, parameter.2 = .float x ∧ x.isNaN = true

theorem boundAs (parameter : String × Scalar) :
    BoundAs parameter (placeholderOf parameter.1, Cell.ofScalar parameter.2) where
  spelling := rfl
  null_iff := Cell.ofScalar_eq_null_iff
  encode_iff := Scalar.outOfRange_iff_encode
  seen_iff := by simp only [Cell.seen_eq_null_iff, Cell.ofScalar_eq_real_iff]

/-- Parameters are bound one by one, or refused for the name of one. -/
theorem bindValues_cases (parameters : Parameters) :
    (∃ name ∈ parameters.keys, isPlainIdentifier name = false ∧
        bindValues parameters = .error (.invalidParameter name)) ∨
      bindValues parameters = .ok (spelled parameters) := by
  rcases mapM_cases (fun (entry : String × Scalar) => if isPlainIdentifier entry.1 then
      .ok (placeholderOf entry.1, Cell.ofScalar entry.2)
      else Except.error (DatabaseError.invalidParameter entry.1)) parameters.entries with
    ⟨bindings, hok⟩ | ⟨entry, hmem, e, he, hfails⟩
  · obtain ⟨-, rfl⟩ := bindValues_eq_ok hok
    exact .inr hok
  · by_cases hplain : isPlainIdentifier entry.1 = true
    · simp [hplain] at he
    · simp only [hplain, Bool.false_eq_true, if_false, Except.error.injEq] at he
      subst he
      exact .inl ⟨entry.1, List.mem_map_of_mem hmem, by simpa using hplain, hfails⟩

theorem bindValues_nulled (parameters : Parameters) :
    bindValues (parameters.map Scalar.nulled) = bindValues parameters := by
  rw [bindValues, KeyMap.map, List.mapM_map]
  simp only [Function.comp_def, Cell.ofScalar_nulled]
  rfl

namespace Engine

variable {τ σ : Type}

theorem query_nulled (e : Engine τ) (run : τ → Slots → List (Except DatabaseError (List Cell)))
    (sql : String) (parameters : Parameters) :
    e.query run sql (parameters.map Scalar.nulled) = e.query run sql parameters := by
  simp only [query, readyToQuery, bindValues_nulled]

theorem execute_nulled (e : Engine τ) (run : σ → τ → Slots → Except DatabaseError Nat × σ)
    (state : σ) (sql : String) (parameters : Parameters) :
    e.execute run state sql (parameters.map Scalar.nulled) = e.execute run state sql parameters := by
  simp only [execute, readyToExecute, bindValues_nulled]

end Engine

/-- Binding fails for the name of a parameter only. Otherwise null is bound exactly to null and to the
moments out of range, which are those that have no JSON; and a statement with such moments runs as it
does with null in their place. -/
theorem nulls_bound (parameters : Parameters) :
    ((∃ name ∈ parameters.keys, isPlainIdentifier name = false ∧
        bindValues parameters = .error (.invalidParameter name)) ∨
      ∃ bindings, bindValues parameters = .ok bindings ∧
        List.Forall₂ BoundAs parameters.entries bindings) ∧
    (∀ (τ : Type) (e : Engine τ) (run : τ → Slots → List (Except DatabaseError (List Cell)))
        (sql : String),
      e.query run sql (parameters.map Scalar.nulled) = e.query run sql parameters) ∧
    ∀ (τ σ : Type) (e : Engine τ) (run : σ → τ → Slots → Except DatabaseError Nat × σ) (state : σ)
        (sql : String),
      e.execute run state sql (parameters.map Scalar.nulled) =
        e.execute run state sql parameters := by
  refine ⟨(bindValues_cases parameters).imp_right fun hok => ⟨_, hok, ?_⟩, ?_, ?_⟩
  · rw [spelled, List.forall₂_map_right_iff]
    exact List.forall₂_same.2 fun parameter _ => boundAs parameter
  · exact fun τ e run sql => e.query_nulled run sql parameters
  · exact fun τ σ e run state sql => e.execute_nulled run state sql parameters

/-- A noon of 30 BC in Alexandria, before the first year that RFC 3339 can write. -/
def deathOfCleopatra : DateTime where
  date := ⟨-29, 8, 10, by decide, by decide, by decide⟩
  hour := 12
  minute := 0
  second := 0
  nanosecond := 0
  offset := 7200
  time_bounds := by decide
  offset_bounds := by decide

def rulers : Tables := [⟨"ruler", ["died"], []⟩]

def burial : String := "INSERT INTO ruler VALUES (:died)"

/-- A moment that has no JSON is bound as null, and null is what an execution stores. -/
theorem cleopatra_bound_null :
    (Scalar.timestamp deathOfCleopatra).encode = .error .temporalOutOfRange ∧
    bindValues (KeyMap.ofList [("died", .timestamp deathOfCleopatra)]) = .ok [(":died", .null)] ∧
    rulers.execute ⟨false, 0⟩ burial (KeyMap.ofList [("died", .timestamp deathOfCleopatra)]) =
      (.ok 1, ⟨false, 1⟩, [⟨"ruler", ["died"], [[.null]]⟩]) := by
  have hbound : bindValues (KeyMap.ofList [("died", .timestamp deathOfCleopatra)]) =
      .ok [(":died", .null)] := by
    decide +kernel
  have htokens : Token.ofText burial = .ok [⟨.name "INSERT", "INSERT", 0⟩,
      ⟨.name "INTO", "INTO", 7⟩, ⟨.name "ruler", "ruler", 12⟩, ⟨.name "VALUES", "VALUES", 18⟩,
      ⟨.symbol '(', "(", 25⟩, ⟨.placeholder, ":died", 26⟩, ⟨.symbol ')', ")", 31⟩] := by
    decide +kernel
  have hread : Statement.read burial =
      .ok ⟨.insert "ruler" none [.placeholder ":died"], Placeholders.empty.add ":died", false⟩ := by
    rw [Statement.read, htokens]
    decide +kernel
  have hplan : rulers.engine.prepare burial = .ok ⟨.insert ⟨"ruler", ["died"], []⟩
      [.placeholder ":died"], Placeholders.empty.add ":died"⟩ := by
    rw [Tables.engine_prepare, Tables.plan, hread]
    decide +kernel
  refine ⟨by decide +kernel, hbound, ?_⟩
  rw [Tables.execute, Engine.execute, Engine.readyToExecute, hbound, hplan]
  decide +kernel

end Store

end StatementGate
