import StatementGate.Wire.Codec

/-! # Places in messages

The place a value is read at only goes into the place of an error. What is read and what is refused
do not depend on it. -/

namespace StatementGate

namespace CodecError

/-- The error met at a place below `place`. -/
def under (place : String) : CodecError → CodecError
  | .invalid path problem => .invalid (place ++ path) problem
  | error => error

end CodecError

variable {ε ε' α β : Type}

theorem mapError_bind (f : ε → ε') (x : Except ε α) (g : α → Except ε β) :
    (x >>= g).mapError f = x.mapError f >>= fun a => (g a).mapError f := by
  cases x <;> rfl

theorem Path.child_append (place path key : String) :
    Path.child (place ++ path) key = place ++ Path.child path key := by
  simp only [Path.child]
  rw [String.append_assoc, String.append_assoc, String.append_assoc]

theorem Path.item_append (place path : String) (index : Nat) :
    Path.item (place ++ path) index = place ++ Path.item path index := by
  simp only [Path.item]
  simp only [String.append_assoc]

theorem decodeDecimal_under (place text path : String) :
    decodeDecimal text (place ++ path) = (decodeDecimal text path).mapError (.under place) := by
  simp only [decodeDecimal]
  cases Decimal.parse text <;> rfl

theorem decodeScalar_under (place : String) (j : Json) (kind : ScalarKind) (path : String) :
    decodeScalar j kind (place ++ path) = (decodeScalar j kind path).mapError (.under place) := by
  simp only [decodeScalar]
  split
  case h_4 i =>
    by_cases hfits : fitsInt64 i
    · rw [if_pos hfits, if_pos hfits]
      rfl
    · rw [if_neg hfits, if_neg hfits]
      rfl
  case h_8 => exact decodeDecimal_under place _ path
  case h_9 => exact decodeDecimal_under place _ path
  case h_10 s => cases DateTime.parse s <;> rfl
  case h_11 s => cases Date.parse s <;> rfl
  all_goals rfl

mutual

theorem decodeAt_under (R : Registry) (place : String) (j : Json) (d : Descriptor) (path : String) :
    decodeAt R j d (place ++ path) = (decodeAt R j d path).mapError (.under place) := by
  rw [decodeAt.eq_def R j d (place ++ path), decodeAt.eq_def R j d path]
  by_cases hmark : j = .string absentMark
  · rw [if_pos hmark, if_pos hmark]
    rfl
  · rw [if_neg hmark, if_neg hmark]
    cases d with
    | scalar kind => exact decodeScalar_under place j kind path
    | optional inner =>
      cases j with
      | null => rfl
      | _ => exact decodeAt_under R place _ inner path
    | list item =>
      cases j with
      | array items =>
        dsimp only
        rw [mapError_bind, decodeItems_under R place items item 0 path]
        rfl
      | _ => rfl
    | union alternatives => exact decodeUnion_under R place j _ alternatives [] path
    | named type =>
      dsimp only
      cases R.lookup type with
      | none => rfl
      | some schema =>
        cases j with
        | object members =>
          dsimp only
          rw [mapError_bind, decodeFields_under R place members schema.fields [] path]
          refine congrArg _ (funext fun fields => ?_)
          cases schema.construct with
          | none => rfl
          | some check =>
            dsimp only
            cases check ⟨type, fields⟩ <;> rfl
        | _ => rfl
termination_by (sizeOf j, sizeOf d)

theorem decodeItems_under (R : Registry) (place : String) (items : List Json) (d : Descriptor)
    (index : Nat) (path : String) :
    decodeItems R items d index (place ++ path) =
      (decodeItems R items d index path).mapError (.under place) := by
  cases items with
  | nil =>
    rw [decodeItems, decodeItems]
    rfl
  | cons j rest =>
    rw [decodeItems, decodeItems, Path.item_append, mapError_bind,
      decodeAt_under R place j d (Path.item path index)]
    refine congrArg _ (funext fun v => ?_)
    rw [mapError_bind, decodeItems_under R place rest d (index + 1) path]
    rfl
termination_by (sizeOf items, 0)

theorem decodeUnion_under (R : Registry) (place : String) (j : Json) (union : Descriptor)
    (alternatives : List Descriptor) (reasons : List (Descriptor × Problem)) (path : String) :
    decodeUnion R j union alternatives reasons (place ++ path) =
      (decodeUnion R j union alternatives reasons path).mapError (.under place) := by
  cases alternatives with
  | nil =>
    rw [decodeUnion, decodeUnion]
    rfl
  | cons d rest =>
    rw [decodeUnion, decodeUnion, decodeAt_under R place j d path]
    cases decodeAt R j d path with
    | ok v => rfl
    | error e =>
      cases e with
      | invalid found problem => exact decodeUnion_under R place j union rest _ path
      | _ => rfl
termination_by (sizeOf j, sizeOf alternatives)

theorem decodeFields_under (R : Registry) (place : String) (members : List (String × Json))
    (fields : List FieldSchema) (read : List (String × Value)) (path : String) :
    decodeFields R members fields read (place ++ path) =
      (decodeFields R members fields read path).mapError (.under place) := by
  cases fields with
  | nil =>
    rw [decodeFields, decodeFields]
    rfl
  | cons field rest =>
    rw [decodeFields, decodeFields, Path.child_append]
    split
    case h_1 j hfound =>
      have := sizeOf_lt_of_lookup hfound
      rw [mapError_bind, decodeAt_under R place j field.descriptor (Path.child path field.name)]
      refine congrArg _ (funext fun v => ?_)
      exact decodeFields_under R place members rest _ path
    case h_2 =>
      by_cases hrequired : field.required
      · rw [if_pos hrequired, if_pos hrequired]
        rfl
      · rw [if_neg hrequired, if_neg hrequired]
        exact decodeFields_under R place members rest _ path
termination_by (sizeOf members, sizeOf fields)

end

/-- What is read at one place is read at every other. -/
theorem decodeAt_ok {R : Registry} {j : Json} {d : Descriptor} {path : String} {v : Value}
    (h : decodeAt R j d path = .ok v) (path' : String) : decodeAt R j d path' = .ok v := by
  have hpath := decodeAt_under R path j d ""
  have hpath' := decodeAt_under R path' j d ""
  rw [String.append_empty] at hpath hpath'
  rw [h] at hpath
  cases houter : decodeAt R j d "" with
  | ok w =>
    rw [houter] at hpath hpath'
    cases hpath
    exact hpath'
  | error e =>
    rw [houter] at hpath
    cases hpath

/-- What is refused somewhere below one place is refused there below every other, for the same
reason. -/
theorem decodeAt_invalid_below {R : Registry} {j : Json} {d : Descriptor} {path found : String}
    {problem : Problem} (h : decodeAt R j d path = .error (.invalid found problem)) :
    ∃ suffix, found = path ++ suffix ∧
      ∀ path', decodeAt R j d path' = .error (.invalid (path' ++ suffix) problem) := by
  have hpath := decodeAt_under R path j d ""
  rw [String.append_empty, h] at hpath
  cases houter : decodeAt R j d "" with
  | ok v =>
    rw [houter] at hpath
    cases hpath
  | error e =>
    rw [houter] at hpath
    cases e with
    | invalid suffix cause =>
      cases hpath
      refine ⟨suffix, rfl, fun path' => ?_⟩
      have hpath' := decodeAt_under R path' j d ""
      rwa [String.append_empty, houter] at hpath'
    | _ => cases hpath

/-- What is refused at one place is refused at every other for the same reason. -/
theorem decodeAt_invalid {R : Registry} {j : Json} {d : Descriptor} {path found : String}
    {problem : Problem} (h : decodeAt R j d path = .error (.invalid found problem))
    (path' : String) : ∃ found', decodeAt R j d path' = .error (.invalid found' problem) := by
  obtain ⟨suffix, -, hpath⟩ := decodeAt_invalid_below h
  exact ⟨_, hpath path'⟩

/-- What is refused right at one place is refused right at every other. -/
theorem decodeAt_invalid_here {R : Registry} {j : Json} {d : Descriptor} {path : String}
    {problem : Problem} (h : decodeAt R j d path = .error (.invalid path problem))
    (path' : String) : decodeAt R j d path' = .error (.invalid path' problem) := by
  obtain ⟨suffix, hsuffix, hpath⟩ := decodeAt_invalid_below h
  cases String.append_eq_left_iff.1 hsuffix.symm
  simpa using hpath path'

end StatementGate
