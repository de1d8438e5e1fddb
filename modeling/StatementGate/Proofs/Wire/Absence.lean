import StatementGate.Proofs.Wire.Inhabits
import StatementGate.Proofs.Wire.Registry
import StatementGate.Proofs.Wire.RoundTrip

/-! # Absence and null

Absence is read from its mark and null from null, and from nothing else. Null is read wherever the
descriptor accepts it: an alternative in front refuses it for what it is, unless its type is missing. -/

namespace StatementGate

variable {R : Registry}

/-- No scalar reads as absence, and null reads as null alone. -/
theorem source_of_decodeScalar {j : Json} {kind : ScalarKind} {path : String} {v : Value}
    (h : decodeScalar j kind path = .ok v) : v ≠ .absent ∧ (v = .null ↔ j = .null) := by
  rw [decodeScalar.eq_def] at h
  split at h
  case h_4 i =>
    by_cases hfits : fitsInt64 i
    · rw [if_pos hfits] at h
      cases h
      simp
    · rw [if_neg hfits] at h
      cases h
  case h_8 s =>
    cases decodeDecimal_has h
    simp
  case h_9 n =>
    cases decodeDecimal_has h
    simp
  case h_10 s =>
    cases hparse : DateTime.parse s with
    | ok t =>
      rw [hparse] at h
      cases h
      simp
    | error cause =>
      rw [hparse] at h
      cases h
  case h_11 s =>
    cases hparse : Date.parse s with
    | ok d =>
      rw [hparse] at h
      cases h
      simp
    | error cause =>
      rw [hparse] at h
      cases h
  case h_5 => cases h
  case h_12 => cases h
  all_goals
    cases h
    simp

/-- What is absent was marked so, and what is null was null. -/
theorem source_of_decodeAt (R : Registry) (j : Json) (d : Descriptor) (path : String) (v : Value)
    (h : decodeAt R j d path = .ok v) :
    (v = .absent ↔ j = .string absentMark) ∧ (v = .null ↔ j = .null) := by
  cases readsAs_of_decodeAt h with
  | absent => simp
  | scalar hmark h =>
    obtain ⟨hpresent, hnull⟩ := source_of_decodeScalar h
    exact ⟨iff_of_false hpresent hmark, hnull⟩
  | optionalNull => simp
  | @optional _ inner place _ h => exact source_of_decodeAt R j inner place v h
  | list => simp
  | @union _ _ d place _ hmem h =>
    have := List.sizeOf_lt_of_mem hmem
    exact source_of_decodeAt R j d place v h
  | record => simp
termination_by sizeOf d

/-- What reading null comes to: null where it is accepted, else a refusal. -/
inductive ReadsNull : (accepted : Bool) → Except CodecError Value → Prop
  | accepted : ReadsNull true (.ok .null)
  | refused (path : String) (problem : Problem) : ReadsNull false (.error (.invalid path problem))

theorem decodeScalar_null (kind : ScalarKind) (path : String) :
    ReadsNull (Descriptor.scalar kind).acceptsNull (decodeScalar .null kind path) := by
  cases kind with
  | null => exact .accepted
  | _ => exact .refused _ _

mutual

theorem decodeAt_null (d : Descriptor)
    (hnames : ∀ type, d.Mentions type → (R.lookup type).isSome) (path : String) :
    ReadsNull d.acceptsNull (decodeAt R .null d path) := by
  rw [decodeAt.eq_def, if_neg Json.noConfusion]
  cases d with
  | scalar kind => exact decodeScalar_null kind path
  | optional inner => exact .accepted
  | list item => exact .refused _ _
  | union alternatives =>
    exact decodeUnion_null _ alternatives (fun d hmem type h => hnames type (.union hmem h)) [] path
  | named type =>
    obtain ⟨schema, hlookup⟩ := Option.isSome_iff_exists.1 (hnames type (.named type))
    dsimp only
    rw [hlookup]
    exact .refused _ _
termination_by sizeOf d

/-- The first alternative that accepts null decides; those in front of it pass it on. -/
theorem decodeUnion_null (union : Descriptor) (alternatives : List Descriptor)
    (hnames : ∀ d ∈ alternatives, ∀ type, d.Mentions type → (R.lookup type).isSome)
    (reasons : List (Descriptor × Problem)) (path : String) :
    ReadsNull (Descriptor.anyAcceptsNull alternatives)
      (decodeUnion R .null union alternatives reasons path) := by
  cases alternatives with
  | nil =>
    rw [decodeUnion]
    exact .refused _ _
  | cons d rest =>
    rw [List.forall_mem_cons] at hnames
    have hhead := decodeAt_null d hnames.1 path
    rw [decodeUnion, Descriptor.anyAcceptsNull]
    generalize d.acceptsNull = accepted at hhead
    generalize decodeAt R .null d path = outcome at hhead
    cases hhead with
    | accepted => exact .accepted
    | refused found problem => exact decodeUnion_null union rest hnames.2 _ path
termination_by sizeOf alternatives

end

theorem ReadsNull.eq_ok_iff {accepted : Bool} {x : Except CodecError Value}
    (h : ReadsNull accepted x) : x = .ok .null ↔ accepted = true := by
  cases h <;> simp

theorem ReadsNull.succeeds_iff {accepted : Bool} {x : Except CodecError Value}
    (h : ReadsNull accepted x) : Succeeds x ↔ accepted = true := by
  cases h <;> simp [Succeeds]

/-- Whatever a descriptor reads, it reads as an optional one too. -/
theorem decodeAt_optional_of_ok {j : Json} {d : Descriptor} {path : String} {v : Value}
    (h : decodeAt R j d path = .ok v) : decodeAt R j (.optional d) path = .ok v := by
  by_cases hmark : j = .string absentMark
  · subst hmark
    rw [decodeAt_mark] at h ⊢
    exact h
  by_cases hnull : j = .null
  · have hv := (source_of_decodeAt R j d path v h).2.2 hnull
    subst hnull hv
    rw [decodeAt, if_neg hmark]
  · rw [decodeAt_optional hmark hnull]
    exact h

/-- Absence is read from its mark alone, and null from null alone, where the descriptor accepts it;
elsewhere null is refused. Making a descriptor optional changes nothing that it reads. Of the types,
only those that the descriptor itself mentions have to be registered: null is never looked into. -/
theorem absence_and_null_as_written {d : Descriptor}
    (hnames : ∀ type, d.Mentions type → (R.lookup type).isSome) (j : Json) :
    (decode R j d = .ok .absent ↔ j = .string absentMark) ∧
      (decode R j d = .ok .null ↔ j = .null ∧ d.acceptsNull = true) ∧
      ((∃ v, decode R .null d = .ok v) ↔ d.acceptsNull = true) ∧
      ∀ v, decode R j d = .ok v → decode R j (.optional d) = .ok v := by
  have hreads : ReadsNull d.acceptsNull (decode R .null d) := decodeAt_null d hnames Path.root
  refine ⟨⟨fun h => ?_, fun h => ?_⟩, ⟨fun h => ?_, ?_⟩, hreads.succeeds_iff, fun v h => ?_⟩
  · exact (source_of_decodeAt R j d Path.root _ h).1.1 rfl
  · subst h
    exact decodeAt_mark d Path.root
  · have hnull := (source_of_decodeAt R j d Path.root _ h).2.1 rfl
    subst hnull
    exact ⟨rfl, hreads.eq_ok_iff.1 h⟩
  · rintro ⟨rfl, haccepts⟩
    exact hreads.eq_ok_iff.2 haccepts
  · exact decodeAt_optional_of_ok h

/-- A node, a number or a text that may be null: null is offered in the innermost alternative. -/
def nodeOrLabel : Descriptor :=
  .union [.named nodeType, .union [.scalar .integer, .list (.optional (.named nodeType)),
    .optional (.scalar .string)]]

theorem nodeOrLabel_as_written :
    (∀ type, nodeOrLabel.Mentions type → (nodes.lookup type).isSome) ∧
      decode nodes .null nodeOrLabel = .ok .null ∧
      (∃ v, decode nodes .null nodeOrLabel = .ok v) ∧
      decode nodes .null (.optional nodeOrLabel) = .ok .null := by
  have hnames : ∀ type, nodeOrLabel.Mentions type → (nodes.lookup type).isSome := by
    intro type h
    have hmem := Descriptor.mem_names_iff.2 h
    simp only [nodeOrLabel, Descriptor.names, Descriptor.namesOfAll, List.append_nil,
      List.nil_append, List.singleton_append, List.mem_cons, List.not_mem_nil, or_false,
      or_self] at hmem
    rw [hmem]
    rfl
  obtain ⟨-, hnull, hreads, hoptional⟩ := absence_and_null_as_written hnames .null
  have hread : decode nodes .null nodeOrLabel = .ok .null := hnull.2 ⟨rfl, rfl⟩
  exact ⟨hnames, hread, hreads.2 rfl, hoptional _ hread⟩

end StatementGate
