import StatementGate.Proofs.Wire.Rewriting
import StatementGate.Wire.Rows

/-! # Rows and redundant nesting

Rows are read as a whole or one by one, and no rows as absence or null, as the outermost form of the
descriptor says. Nested optionals and unions read like flat ones, but this choice sees only what
stands at the top: a list under two optionals does not take all rows, and absence in a union inside a
union is not offered where there are no rows. Everywhere else redundant nesting makes no difference. -/

namespace StatementGate

namespace Descriptor

mutual

/-- The alternatives of a union, with those of the unions among them in their place; any other
descriptor is the only one. -/
def alternatives : Descriptor → List Descriptor
  | .union ds => alternativesOfAll ds
  | d => [d]

def alternativesOfAll : List Descriptor → List Descriptor
  | [] => []
  | d :: rest => alternatives d ++ alternativesOfAll rest

end

/-- The descriptor with the optionals at its top collapsed and the unions at its top spliced. -/
def flat : Descriptor → Descriptor
  | .optional (.optional d) => flat (.optional d)
  | .optional (.union ds) => .optional (.union (alternativesOfAll ds))
  | .union ds => .union (alternativesOfAll ds)
  | d => d

mutual

theorem rewrites_alternatives (before : List Descriptor) (d : Descriptor)
    (after : List Descriptor) :
    Rewrites (.union (before ++ d :: after)) (.union (before ++ d.alternatives ++ after)) := by
  cases d with
  | union ds => exact .head (.splice before ds after) (rewrites_alternativesOfAll before ds after)
  | _ =>
    simp only [alternatives, List.append_assoc, List.singleton_append]
    exact .refl
termination_by sizeOf d

theorem rewrites_alternativesOfAll (before ds after : List Descriptor) :
    Rewrites (.union (before ++ ds ++ after)) (.union (before ++ alternativesOfAll ds ++ after)) := by
  cases ds with
  | nil => exact .refl
  | cons d rest =>
    have hhead := rewrites_alternatives before d (rest ++ after)
    have hrest := rewrites_alternativesOfAll (before ++ d.alternatives) rest after
    rw [alternativesOfAll]
    simp only [List.append_assoc, List.cons_append] at hhead hrest ⊢
    exact hhead.trans hrest
termination_by sizeOf ds

end

theorem rewrites_splicedUnion (ds : List Descriptor) :
    Rewrites (.union ds) (.union (alternativesOfAll ds)) := by
  have h := rewrites_alternativesOfAll [] ds []
  simpa using h

/-- A descriptor comes to its flat form by the laws of unions and optionals. -/
theorem rewrites_flat (d : Descriptor) : d.Rewrites d.flat := by
  fun_induction flat d with
  | case1 d ih => exact .head (.collapse d) ih
  | case2 ds => exact (rewrites_splicedUnion ds).lift _ fun _ _ => .optional
  | case3 ds => exact rewrites_splicedUnion ds
  | case4 d => exact .refl

theorem anyAcceptsNull_eq_any (ds : List Descriptor) : anyAcceptsNull ds = ds.any acceptsNull := by
  induction ds with
  | nil => rfl
  | cons d rest ih => rw [anyAcceptsNull, ih, List.any_cons]

theorem acceptsNull_union (ds : List Descriptor) :
    acceptsNull (.union ds) = ds.any acceptsNull := by
  rw [acceptsNull, anyAcceptsNull_eq_any]

theorem Rewrite.acceptsNull_eq {d d' : Descriptor} (h : d.Rewrite d') :
    d.acceptsNull = d'.acceptsNull := by
  induction h with
  | splice before inner after => simp [acceptsNull_union]
  | @repeated d before hmem after =>
    simp only [acceptsNull_union, List.any_append, List.any_cons]
    cases hd : d.acceptsNull with
    | false => rfl
    | true =>
      have hany : before.any acceptsNull = true := List.any_eq_true.2 ⟨d, hmem, hd⟩
      rw [hany]
      rfl
  | collapse inner => rfl
  | orNull inner => rfl
  | optional _ _ => rfl
  | list _ _ => rfl
  | union before after _ ih => simp only [acceptsNull_union, List.any_append, List.any_cons, ih]

theorem Rewrites.acceptsNull_eq {d d' : Descriptor} (h : d.Rewrites d') :
    d.acceptsNull = d'.acceptsNull := by
  induction h with
  | refl => rfl
  | tail _ hstep ih => exact ih.trans hstep.acceptsNull_eq

/-- Whether absence stands for no value: it is the type, or directly among the alternatives. -/
def offersAbsence : Descriptor → Bool
  | .scalar .absent => true
  | .union ds => ds.contains (.scalar .absent)
  | _ => false

theorem exists_flat_optional : (inner : Descriptor) →
    ∃ inner', flat (.optional inner) = .optional inner'
  | .optional inner => exists_flat_optional inner
  | .scalar _ | .list _ | .union _ | .named _ => ⟨_, rfl⟩

/-- When the unions are spliced, absence is offered wherever it is an alternative. -/
theorem offersAbsence_flat (d : Descriptor) :
    d.flat.offersAbsence = true ↔ .scalar .absent ∈ d.alternatives := by
  cases d with
  | scalar kind => cases kind <;> simp [flat, offersAbsence, alternatives]
  | optional inner =>
    obtain ⟨inner', hflat⟩ := exists_flat_optional inner
    simp [hflat, offersAbsence, alternatives]
  | list item => simp [flat, offersAbsence, alternatives]
  | union ds => simp [flat, offersAbsence, alternatives]
  | named type => simp [flat, offersAbsence, alternatives]

theorem not_offersAbsence_of_takesAllRows {d : Descriptor} (h : d.takesAllRows = true) :
    d.offersAbsence = false := by
  cases d with
  | list => rfl
  | optional => rfl
  | _ => cases h

end Descriptor

variable {R : Registry}

theorem decodeMissing_eq (d : Descriptor) : decodeMissing d =
    if d.offersAbsence then .ok .absent
    else if d.acceptsNull then .ok .null
    else .error (.invalid Path.root (.mismatch d.render "nothing")) := by
  cases d with
  | scalar kind => cases kind <;> rfl
  | _ => rfl

/-- Where all rows are taken, none are an empty list. -/
theorem decode_noRows {d : Descriptor} (h : d.takesAllRows = true) :
    decode R (.array []) d = .ok (.list []) := by
  have hlist (item : Descriptor) : decode R (.array []) (.list item) = .ok (.list []) := by
    simp only [decode, decodeAt, decodeItems]
    rfl
  cases d with
  | list item => exact hlist item
  | optional inner =>
    cases inner with
    | list item => exact (decodeAt_optional (by simp) (by simp) _ _).trans (hlist item)
    | _ => cases h
  | _ => cases h

/-- What no rows are read as, by the outermost form of the descriptor. -/
theorem decodeRows_nil_eq_ok {d : Descriptor} {v : Value} : decodeRows R [] d = .ok v ↔
    d.takesAllRows = true ∧ v = .list [] ∨
      d.takesAllRows = false ∧ d.offersAbsence = true ∧ v = .absent ∨
      d.takesAllRows = false ∧ d.offersAbsence = false ∧ d.acceptsNull = true ∧ v = .null := by
  rw [decodeRows]
  cases hall : d.takesAllRows with
  | true =>
    rw [if_pos rfl, mapError_eq_ok, decode_noRows hall]
    simp [eq_comm (a := v)]
  | false =>
    rw [if_neg Bool.false_ne_true, mapError_eq_ok, decodeMissing_eq]
    cases d.offersAbsence <;> cases d.acceptsNull <;> simp [eq_comm (a := v)]

/-- Rows are read alike against descriptors that read alike and ask for the rows in the same way. -/
theorem decodeRows_of_rewrites {d d' : Descriptor} (h : d.Rewrites d')
    (hall : d.takesAllRows = d'.takesAllRows) {rows : List Json}
    (habsence : rows = [] → d.offersAbsence = d'.offersAbsence) (v : Value) :
    decodeRows R rows d = .ok v ↔ decodeRows R rows d' = .ok v := by
  have hread (j : Json) : decode R j d = .ok v ↔ decode R j d' = .ok v :=
    (h.readsLike j Path.root).eq_ok_iff
  cases rows with
  | nil =>
    simp only [decodeRows_nil_eq_ok]
    rw [hall, habsence rfl, h.acceptsNull_eq]
  | cons row rest =>
    simp only [decodeRows]
    rw [hall]
    cases d'.takesAllRows with
    | true => simp only [if_true, mapError_eq_ok, hread]
    | false =>
      cases rest with
      | nil => simp only [Bool.false_eq_true, if_false, mapError_eq_ok, hread]
      | cons => simp

/-- What no rows are read as tells how the descriptor asks for them. -/
theorem asks_alike_of_noRows {d d' : Descriptor}
    (h : ∀ v, decodeRows R [] d = .ok v ↔ decodeRows R [] d' = .ok v) :
    d.takesAllRows = d'.takesAllRows ∧ d.offersAbsence = d'.offersAbsence := by
  have hlist := h (.list [])
  have habsent := h .absent
  simp only [decodeRows_nil_eq_ok] at hlist habsent
  have hd := @Descriptor.not_offersAbsence_of_takesAllRows d
  have hd' := @Descriptor.not_offersAbsence_of_takesAllRows d'
  revert hlist habsent hd hd'
  cases d.takesAllRows <;> cases d'.takesAllRows <;> cases d.offersAbsence <;>
    cases d'.offersAbsence <;> simp

/-- Redundant nesting changes nothing for rows that are there, unless it hides a list from the choice
to take all of them. Where there are none, it changes nothing exactly when it hides neither a list nor
absence from the top. Against the flat form, no rows are absence wherever absence is an alternative,
and else null wherever null is accepted. -/
theorem rows_of_flat (R : Registry) (d : Descriptor) :
    (d.takesAllRows = d.flat.takesAllRows → ∀ rows ≠ [], ∀ v,
      decodeRows R rows d = .ok v ↔ decodeRows R rows d.flat = .ok v) ∧
    ((∀ v, decodeRows R [] d = .ok v ↔ decodeRows R [] d.flat = .ok v) ↔
      d.takesAllRows = d.flat.takesAllRows ∧ d.offersAbsence = d.flat.offersAbsence) ∧
    (d.flat.takesAllRows = false →
      (decodeRows R [] d.flat = .ok .absent ↔ .scalar .absent ∈ d.alternatives) ∧
      (decodeRows R [] d.flat = .ok .null ↔
        .scalar .absent ∉ d.alternatives ∧ d.acceptsNull = true)) := by
  have hflat := d.rewrites_flat
  refine ⟨fun hall rows hrows => ?_, ⟨asks_alike_of_noRows, ?_⟩, fun hsingle => ?_⟩
  · exact decodeRows_of_rewrites hflat hall fun hnone => absurd hnone hrows
  · rintro ⟨hall, habsence⟩
    exact decodeRows_of_rewrites hflat hall fun _ => habsence
  · simp only [decodeRows_nil_eq_ok, ← Descriptor.offersAbsence_flat, hflat.acceptsNull_eq, hsingle]
    simp

/-- An entry or a text, null or nothing at all. -/
def entryOrText : Descriptor :=
  .union [.union [.named entryType, .union [.scalar .string, .scalar .null]], .scalar .absent]

theorem entryOrText_rows :
    entryOrText.takesAllRows = entryOrText.flat.takesAllRows ∧
      entryOrText.offersAbsence = entryOrText.flat.offersAbsence ∧
      decodeRows (ledger (.scalar .string)) [.string "carried over"] entryOrText.flat =
        .ok (.string "carried over") ∧
      decodeRows (ledger (.scalar .string)) [] entryOrText = .ok .absent := by
  obtain ⟨hsome, hnone, habsent⟩ := rows_of_flat (ledger (.scalar .string)) entryOrText
  have hread : decodeRows (ledger (.scalar .string)) [.string "carried over"] entryOrText =
      .ok (.string "carried over") := by
    simp [decodeRows, entryOrText, Descriptor.takesAllRows, decode, decodeAt, decodeUnion,
      decodeScalar, lookup_ledger, absentMark, Except.mapError]
  refine ⟨rfl, rfl, (hsome rfl _ (by simp) _).1 hread, (hnone.2 ⟨rfl, rfl⟩ _).2 ?_⟩
  exact (habsent rfl).1.2 (by simp [entryOrText, Descriptor.alternatives,
    Descriptor.alternativesOfAll])

/-- Under two optionals a list does not take all rows, and no rows are null and not an empty list. In
a union in a union absence is overlooked, and no rows are refused. -/
theorem nesting_hidden_from_noRows :
    Descriptor.flat (.optional (.optional (.list (.scalar .integer)))) =
        .optional (.list (.scalar .integer)) ∧
      decodeRows .empty [] (.optional (.optional (.list (.scalar .integer)))) = .ok .null ∧
      decodeRows .empty [] (.optional (.list (.scalar .integer))) = .ok (.list []) ∧
      Descriptor.flat (.union [.union [.scalar .absent, .scalar .string], .scalar .integer]) =
        .union [.scalar .absent, .scalar .string, .scalar .integer] ∧
      decodeRows .empty [] (.union [.union [.scalar .absent, .scalar .string], .scalar .integer]) =
        .error (.codec (.invalid "$" (.mismatch "Union[Union[Unset, str], int]" "nothing"))) ∧
      decodeRows .empty [] (.union [.scalar .absent, .scalar .string, .scalar .integer]) =
        .ok .absent := by
  refine ⟨rfl, rfl, ?_, rfl, rfl, rfl⟩
  exact mapError_eq_ok.2 (decode_noRows rfl)

end StatementGate
