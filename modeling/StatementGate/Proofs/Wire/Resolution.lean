import StatementGate.Proofs.Wire.Registry
import StatementGate.Wire.Codec

/-! # Missing types

Reading fails for want of a type only where the descriptor leads to one that is not registered: never
in a complete registry. Registering more types changes nothing but such failures, since a missing
type ends the search through the alternatives of a union. -/

namespace StatementGate

variable {R R' : Registry}

/-- An error of reading: about the value, or about a missing type to which `leads` applies. -/
def CodecError.OfReading (R : Registry) (leads : TypeName → Prop) : CodecError → Prop
  | .invalid _ _ => True
  | .unregistered type => leads type ∧ R.lookup type = none
  | .descriptor _ => False

theorem FailsOnly.widen {α : Type} {x : Except CodecError α} {leads leads' : TypeName → Prop}
    (hx : FailsOnly (CodecError.OfReading R leads) x) (h : ∀ type, leads type → leads' type) :
    FailsOnly (CodecError.OfReading R leads') x := by
  refine hx.imp fun e he => ?_
  cases e with
  | invalid => trivial
  | unregistered type => exact ⟨h type he.1, he.2⟩
  | descriptor => exact he

/-- What stands at the path itself is refused. -/
def CodecError.StandsAt (path : String) (e : CodecError) : Prop :=
  ∃ problem, e = .invalid path problem

theorem CodecError.StandsAt.ofReading {path : String} {e : CodecError} (h : e.StandsAt path)
    (leads : TypeName → Prop) : e.OfReading R leads := by
  obtain ⟨problem, rfl⟩ := h
  trivial

theorem FailsOnly.invalid {α : Type} (path : String) (problem : Problem) :
    FailsOnly (CodecError.StandsAt path) (.error (.invalid path problem) : Except CodecError α) :=
  .error ⟨problem, rfl⟩

theorem decodeDecimal_failsOnly (text path : String) :
    FailsOnly (CodecError.StandsAt path) (decodeDecimal text path) := by
  rw [decodeDecimal]
  cases Decimal.parse text with
  | ok d => exact .ok _
  | error cause => exact .invalid path _

/-- A scalar is refused for what it is. -/
theorem decodeScalar_failsOnly (j : Json) (kind : ScalarKind) (path : String) :
    FailsOnly (CodecError.StandsAt path) (decodeScalar j kind path) := by
  rw [decodeScalar.eq_def]
  split
  case h_4 i =>
    by_cases hfits : fitsInt64 i
    · rw [if_pos hfits]
      exact .ok _
    · rw [if_neg hfits]
      exact .invalid path _
  case h_8 => exact decodeDecimal_failsOnly _ path
  case h_9 => exact decodeDecimal_failsOnly _ path
  case h_10 s =>
    cases DateTime.parse s with
    | ok t => exact .ok _
    | error cause => exact .invalid path _
  case h_11 s =>
    cases Date.parse s with
    | ok d => exact .ok _
    | error cause => exact .invalid path _
  case h_5 => exact .invalid path _
  case h_12 => exact .invalid path _
  all_goals exact .ok _

mutual

theorem decodeAt_failsOnly (R : Registry) (j : Json) (d : Descriptor) (path : String) :
    FailsOnly (CodecError.OfReading R (R.Reaches d)) (decodeAt R j d path) := by
  rw [decodeAt.eq_def]
  by_cases hmark : j = .string absentMark
  · rw [if_pos hmark]
    exact .ok _
  · rw [if_neg hmark]
    cases d with
    | scalar kind => exact (decodeScalar_failsOnly j kind path).imp fun _ he => he.ofReading _
    | optional inner =>
      cases j with
      | null => exact .ok _
      | _ => exact (decodeAt_failsOnly R _ inner path).widen fun _ h => .optional h
    | list item =>
      cases j with
      | array items =>
        refine FailsOnly.bind ?_ fun _ => .ok _
        exact (decodeItems_failsOnly R items item 0 path).widen fun _ h => .list h
      | _ => exact .error trivial
    | union alternatives =>
      refine (decodeUnion_failsOnly R j _ alternatives [] path).widen ?_
      rintro type ⟨d, hmem, hd⟩
      exact .union hmem hd
    | named type =>
      dsimp only
      cases hlookup : R.lookup type with
      | none => exact .error ⟨.named type, hlookup⟩
      | some schema =>
        cases j with
        | object members =>
          refine FailsOnly.bind ?_ fun fields => ?_
          · refine (decodeFields_failsOnly R members schema.fields [] path).widen ?_
            rintro type ⟨field, hfield, hd⟩
            exact .field hlookup hfield hd
          · cases schema.construct with
            | none => exact .ok _
            | some check =>
              dsimp only
              cases check ⟨type, fields⟩ with
              | ok => exact .ok _
              | error reason => exact .error trivial
        | _ => exact .error trivial
termination_by (sizeOf j, sizeOf d)

theorem decodeItems_failsOnly (R : Registry) (items : List Json) (d : Descriptor) (index : Nat)
    (path : String) :
    FailsOnly (CodecError.OfReading R (R.Reaches d)) (decodeItems R items d index path) := by
  cases items with
  | nil =>
    rw [decodeItems]
    exact .ok _
  | cons j rest =>
    rw [decodeItems]
    apply (decodeAt_failsOnly R j d _).bind
    intro v
    exact (decodeItems_failsOnly R rest d _ path).bind fun _ => .ok _
termination_by (sizeOf items, 0)

theorem decodeUnion_failsOnly (R : Registry) (j : Json) (union : Descriptor)
    (alternatives : List Descriptor) (reasons : List (Descriptor × Problem)) (path : String) :
    FailsOnly (CodecError.OfReading R fun type => ∃ d ∈ alternatives, R.Reaches d type)
      (decodeUnion R j union alternatives reasons path) := by
  cases alternatives with
  | nil =>
    rw [decodeUnion]
    exact .error trivial
  | cons d rest =>
    have hhead := decodeAt_failsOnly R j d path
    rw [decodeUnion]
    cases hd : decodeAt R j d path with
    | ok v => exact .ok v
    | error e =>
      cases e with
      | invalid found problem =>
        refine (decodeUnion_failsOnly R j union rest _ path).widen ?_
        rintro type ⟨d', hmem, hreaches⟩
        exact ⟨d', List.mem_cons_of_mem d hmem, hreaches⟩
      | unregistered type =>
        obtain ⟨hreaches, hnone⟩ := hhead _ hd
        exact .error ⟨⟨d, List.mem_cons_self, hreaches⟩, hnone⟩
      | descriptor cause => exact (hhead _ hd).elim
termination_by (sizeOf j, sizeOf alternatives)

theorem decodeFields_failsOnly (R : Registry) (members : List (String × Json))
    (fields : List FieldSchema) (read : List (String × Value)) (path : String) :
    FailsOnly
      (CodecError.OfReading R fun type => ∃ field ∈ fields, R.Reaches field.descriptor type)
      (decodeFields R members fields read path) := by
  cases fields with
  | nil =>
    rw [decodeFields]
    exact .ok _
  | cons field rest =>
    have hrest (read : List (String × Value)) :
        FailsOnly (CodecError.OfReading R fun type =>
            ∃ field' ∈ field :: rest, R.Reaches field'.descriptor type)
          (decodeFields R members rest read path) := by
      refine (decodeFields_failsOnly R members rest read path).widen ?_
      rintro type ⟨field', hmem, hreaches⟩
      exact ⟨field', List.mem_cons_of_mem field hmem, hreaches⟩
    rw [decodeFields]
    split
    case h_1 j hfound =>
      have := sizeOf_lt_of_lookup hfound
      refine FailsOnly.bind ?_ fun v => hrest _
      exact (decodeAt_failsOnly R j field.descriptor _).widen fun type h =>
        ⟨field, List.mem_cons_self, h⟩
    case h_2 =>
      by_cases hrequired : field.required
      · rw [if_pos hrequired]
        exact .error trivial
      · rw [if_neg hrequired]
        exact hrest _
termination_by (sizeOf members, sizeOf fields)

end

/-- Where no type is missing, what is refused is refused for the value. -/
theorem Registry.Complete.decode_error (hcomplete : R.Complete) {d : Descriptor}
    (hd : ∀ type, d.Mentions type → (R.lookup type).isSome) {j : Json} {e : CodecError}
    (h : decode R j d = .error e) : ∃ path problem, e = .invalid path problem := by
  have he := decodeAt_failsOnly R j d Path.root e h
  cases e with
  | invalid path problem => exact ⟨path, problem, rfl⟩
  | unregistered type =>
    have hsome := hcomplete.isSome_of_reaches hd he.1
    rw [he.2] at hsome
    cases hsome
  | descriptor cause => exact he.elim

/-- Validation accepts exactly the registries in which no type is missing, and with these, reading
against registered types never fails for want of a type. -/
theorem validated_resolves (R : Registry) :
    (R.validate = .ok () ↔ R.Complete) ∧
      (R.validate = .ok () → ∀ d : Descriptor,
        (∀ type, d.Mentions type → (R.lookup type).isSome) →
        ∀ (j : Json) (e : CodecError), decode R j d = .error e →
          ∃ path problem, e = .invalid path problem) :=
  ⟨Registry.validate_eq_ok, fun hvalid _ hd _ _ h =>
    (Registry.validate_eq_ok.1 hvalid).decode_error hd h⟩

def authorType : TypeName := ⟨"library", "Author"⟩

def bookType : TypeName := ⟨"library", "Book"⟩

/-- Authors lead to their books, and books back to authors. -/
def authorSchema : TypeSchema where
  type := authorType
  fields := [⟨"name", .scalar .string, true⟩, ⟨"books", .list (.named bookType), false⟩]
  construct := none

def bookSchema : TypeSchema where
  type := bookType
  fields := [⟨"title", .scalar .string, true⟩,
    ⟨"by", .union [.named authorType, .scalar .string], true⟩]
  construct := none

def library : Registry :=
  ⟨KeyMap.ofList [("library", KeyMap.ofList [("Author", authorSchema), ("Book", bookSchema)])]⟩

theorem library_validated : library.validate = .ok () := rfl

/-- A book whose title is a number, three levels down. -/
def untitledText : Json :=
  .array [.object [("books", .array [.object [("by", .string "Ann"), ("title", .int 7)]]),
    ("name", .string "Ann")]]

theorem untitled_resolves : library.validate = .ok () ∧
    (∀ type, (Descriptor.list (.named authorType)).Mentions type →
      (library.lookup type).isSome) ∧
    ∃ e, decode library untitledText (.list (.named authorType)) = .error e ∧
      ∃ path problem, e = .invalid path problem := by
  have hmentions : ∀ type, (Descriptor.list (.named authorType)).Mentions type →
      (library.lookup type).isSome := by
    rintro type (_ | _ | ⟨⟨⟩⟩)
    rfl
  have hread : decode library untitledText (.list (.named authorType)) =
      .error (.invalid "$[0].books[0].title" (.mismatch "str" "number")) := by
    have hauthor : library.lookup authorType = some authorSchema := rfl
    have hbook : library.lookup bookType = some bookSchema := rfl
    simp [decode, decodeAt, decodeItems, decodeFields, decodeScalar, untitledText, hauthor, hbook,
      authorSchema, bookSchema, List.lookup_cons, absentMark, Json.int, bind, Except.bind]
    rfl
  exact ⟨library_validated, hmentions, _, hread,
    (validated_resolves library).2 library_validated _ hmentions _ _ hread⟩

def CodecError.IsMissingType : CodecError → Prop
  | .unregistered _ => True
  | _ => False

mutual

theorem decodeAt_extended (h : R.Extends R') (j : Json) (d : Descriptor) (path : String) :
    SameUnless CodecError.IsMissingType (decodeAt R j d path) (decodeAt R' j d path) := by
  rw [decodeAt.eq_def R, decodeAt.eq_def R']
  by_cases hmark : j = .string absentMark
  · rw [if_pos hmark, if_pos hmark]
    exact .refl _
  · rw [if_neg hmark, if_neg hmark]
    cases d with
    | scalar kind => exact .refl _
    | optional inner =>
      cases j with
      | null => exact .refl _
      | _ => exact decodeAt_extended h _ inner path
    | list item =>
      cases j with
      | array items => exact (decodeItems_extended h items item 0 path).bind fun _ => .refl _
      | _ => exact .refl _
    | union alternatives => exact decodeUnion_extended h j _ alternatives [] path
    | named type =>
      dsimp only
      cases hlookup : R.lookup type with
      | none => exact .error trivial _
      | some schema =>
        rw [h.lookup_eq hlookup]
        cases j with
        | object members =>
          exact (decodeFields_extended h members schema.fields [] path).bind fun _ => .refl _
        | _ => exact .refl _
termination_by (sizeOf j, sizeOf d)

theorem decodeItems_extended (h : R.Extends R') (items : List Json) (d : Descriptor) (index : Nat)
    (path : String) : SameUnless CodecError.IsMissingType (decodeItems R items d index path)
      (decodeItems R' items d index path) := by
  cases items with
  | nil =>
    rw [decodeItems, decodeItems]
    exact .refl _
  | cons j rest =>
    rw [decodeItems, decodeItems]
    refine (decodeAt_extended h j d _).bind fun v => ?_
    exact (decodeItems_extended h rest d _ path).bind fun _ => .refl _
termination_by (sizeOf items, 0)

theorem decodeUnion_extended (h : R.Extends R') (j : Json) (union : Descriptor)
    (alternatives : List Descriptor) (reasons : List (Descriptor × Problem)) (path : String) :
    SameUnless CodecError.IsMissingType (decodeUnion R j union alternatives reasons path)
      (decodeUnion R' j union alternatives reasons path) := by
  cases alternatives with
  | nil =>
    rw [decodeUnion, decodeUnion]
    exact .refl _
  | cons d rest =>
    rw [decodeUnion, decodeUnion]
    rcases decodeAt_extended h j d path with hsame | ⟨e, he, herror⟩
    · rw [hsame]
      cases decodeAt R j d path with
      | ok v => exact .refl _
      | error e =>
        cases e with
        | invalid found problem => exact decodeUnion_extended h j union rest _ path
        | _ => exact .refl _
    · -- the smaller registry misses a type here, and looks at no further alternative
      rw [herror]
      cases e with
      | unregistered type => exact .error trivial _
      | _ => exact he.elim
termination_by (sizeOf j, sizeOf alternatives)

theorem decodeFields_extended (h : R.Extends R') (members : List (String × Json))
    (fields : List FieldSchema) (read : List (String × Value)) (path : String) :
    SameUnless CodecError.IsMissingType (decodeFields R members fields read path)
      (decodeFields R' members fields read path) := by
  cases fields with
  | nil =>
    rw [decodeFields, decodeFields]
    exact .refl _
  | cons field rest =>
    rw [decodeFields, decodeFields]
    split
    case h_1 j hfound =>
      have := sizeOf_lt_of_lookup hfound
      refine (decodeAt_extended h j field.descriptor _).bind fun v => ?_
      exact decodeFields_extended h members rest _ path
    case h_2 =>
      by_cases hrequired : field.required
      · rw [if_pos hrequired, if_pos hrequired]
        exact .refl _
      · rw [if_neg hrequired, if_neg hrequired]
        exact decodeFields_extended h members rest _ path
termination_by (sizeOf members, sizeOf fields)

end

/-- After further registrations a text is read as before, to the same value or with the same
refusal at the same place, unless a type was missing before. -/
theorem decode_of_extends (h : R.Extends R') (j : Json) (d : Descriptor) :
    decode R' j d = decode R j d ∨
      ∃ type, R.lookup type = none ∧ decode R j d = .error (.unregistered type) := by
  rcases decodeAt_extended h j d Path.root with hsame | ⟨e, he, herror⟩
  · exact .inl hsame
  · cases e with
    | unregistered type =>
      exact .inr ⟨type, (decodeAt_failsOnly R j d Path.root _ herror).2, herror⟩
    | _ => exact he.elim

/-- The library before it had books. -/
def authors : Registry :=
  ⟨KeyMap.ofList [("library", KeyMap.ofList [("Author", authorSchema)])]⟩

theorem authors_extends : authors.Extends library :=
  @Registry.Extends.register authors authors bookSchema .refl rfl

def annText : Json := .object [("born", .int 1901), ("name", .string "Ann")]

def ann : Value := .record authorType [("books", .absent), ("name", .string "Ann")]

/-- An author reads as before in front of the alternative whose type was missing. -/
theorem ann_of_extends : authors.Extends library ∧
    decode authors annText (.union [.named authorType, .named bookType]) = .ok ann ∧
    decode library annText (.union [.named authorType, .named bookType]) = .ok ann := by
  have hread : decode authors annText (.union [.named authorType, .named bookType]) = .ok ann := by
    have hauthor : authors.lookup authorType = some authorSchema := rfl
    have hfields : ∀ name books : Value,
        Entries.put "books" books (Entries.put "name" name []) =
          [("books", books), ("name", name)] := fun _ _ => rfl
    simp [decode, decodeAt, decodeUnion, decodeFields, decodeScalar, annText, ann, hauthor,
      hfields, authorSchema, List.lookup_cons, absentMark, bind, Except.bind, pure, Except.pure]
  refine ⟨authors_extends, hread, ?_⟩
  rcases decode_of_extends authors_extends annText _ with hsame | ⟨type, -, hmissing⟩
  · exact hsame.trans hread
  · rw [hread] at hmissing
    cases hmissing

end StatementGate
