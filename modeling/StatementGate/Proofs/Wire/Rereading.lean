import Mathlib.Data.List.Nodup
import StatementGate.Proofs.Wire.Inhabits
import StatementGate.Proofs.Wire.RoundTrip

/-! # Reading again what was read

What was read against types without unions and checks can be written. Where what was written reads
again, it reads as the same value, decimals compared by number, and it reads again exactly when
every required field inside has a value: the mark of absence reads in a required field too, but an
absent field is left out of what is written. -/

namespace StatementGate

variable {R : Registry}

inductive Descriptor.UnionFree : Descriptor → Prop
  | scalar (kind : ScalarKind) : UnionFree (.scalar kind)
  | optional {inner : Descriptor} (h : UnionFree inner) : UnionFree (.optional inner)
  | list {item : Descriptor} (h : UnionFree item) : UnionFree (.list item)
  | named (type : TypeName) : UnionFree (.named type)

/-- A registry whose types have distinct fields, no unions in them and no checks. -/
structure Registry.Plain (R : Registry) : Prop where
  distinct : ∀ {type schema}, R.lookup type = some schema → (schema.fields.map (·.name)).Nodup
  unchecked : ∀ {type schema}, R.lookup type = some schema → schema.construct = none
  unionFree : ∀ {type schema}, R.lookup type = some schema →
    ∀ field ∈ schema.fields, field.descriptor.UnionFree

theorem Registry.Plain.regular (hplain : R.Plain) : R.Regular where
  distinct := hplain.distinct
  check hlookup hconstruct := by
    rw [hplain.unchecked hlookup] at hconstruct
    cases hconstruct

namespace Value

/-- The value occurs in another one, at any depth. -/
inductive Within : Value → Value → Prop
  | self (v : Value) : Within v v
  | item {w v : Value} {items : List Value} (hmem : v ∈ items) (h : Within w v) :
      Within w (.list items)
  | field {w v : Value} {type : TypeName} {key : String} {fields : List (String × Value)}
      (hmem : (key, v) ∈ fields) (h : Within w v) : Within w (.record type fields)

/-- In every record inside, the required fields have values. -/
def Supplied (R : Registry) (v : Value) : Prop :=
  ∀ type fields schema, (record type fields).Within v → R.lookup type = some schema →
    ∀ field ∈ schema.fields, field.required = true → (field.name, absent) ∉ fields

namespace Supplied

theorem item {items : List Value} (h : (list items).Supplied R) {v : Value} (hmem : v ∈ items) :
    v.Supplied R :=
  fun type fields schema hwithin => h type fields schema (.item hmem hwithin)

theorem field {type : TypeName} {fields : List (String × Value)}
    (h : (record type fields).Supplied R) {key : String} {v : Value} (hmem : (key, v) ∈ fields) :
    v.Supplied R :=
  fun type fields schema hwithin => h type fields schema (.field hmem hwithin)

theorem list {items : List Value} (h : ∀ v ∈ items, v.Supplied R) : (list items).Supplied R := by
  rintro type fields schema (_ | ⟨hmem, hwithin⟩)
  exact h _ hmem type fields schema hwithin

theorem record {type : TypeName} {schema : TypeSchema} {fields : List (String × Value)}
    (hlookup : R.lookup type = some schema)
    (hrequired : ∀ field ∈ schema.fields, field.required = true → (field.name, .absent) ∉ fields)
    (h : ∀ entry ∈ fields, entry.2.Supplied R) : (record type fields).Supplied R := by
  rintro type' fields' schema' (_ | _ | ⟨hmem, hwithin⟩) hlookup'
  · rw [hlookup] at hlookup'
    cases hlookup'
    exact hrequired
  · exact h _ hmem type' fields' schema' hwithin hlookup'

theorem absent : Value.absent.Supplied R := by
  rintro type fields schema ⟨⟩

theorem scalar {kind : ScalarKind} {v : Value} (h : v.Fits R (.scalar kind)) : v.Supplied R := by
  rintro type fields schema hwithin
  cases h <;> cases hwithin

end Supplied

/-- A value that a union-free descriptor describes, but for the absence of what is required. -/
inductive Fills (R : Registry) : Descriptor → Value → Prop
  | absent (d : Descriptor) : Fills R d .absent
  | scalar {kind : ScalarKind} {v : Value} (h : Fits R (.scalar kind) v) : Fills R (.scalar kind) v
  | optionalNull (inner : Descriptor) : Fills R (.optional inner) .null
  | optional {inner : Descriptor} {v : Value} (h : Fills R inner v) : Fills R (.optional inner) v
  | list {item : Descriptor} {items : List Value} (h : ∀ v ∈ items, Fills R item v) :
      Fills R (.list item) (.list items)
  | record {type : TypeName} {schema : TypeSchema} {fields : List (String × Value)}
      (hlookup : R.lookup type = some schema) (hascending : Entries.Ascending fields)
      (hdeclared : ∀ key, key ∈ fields.map Prod.fst ↔ key ∈ schema.fields.map (·.name))
      (h : ∀ field ∈ schema.fields, ∀ v, (field.name, v) ∈ fields → Fills R field.descriptor v) :
      Fills R (.named type) (.record type fields)

end Value

/-- What a scalar is read as fits its kind. -/
theorem decodeScalar_fits {j : Json} {kind : ScalarKind} {path : String} {v : Value}
    (hj : j.Representable) (hmark : j ≠ .string absentMark)
    (h : decodeScalar j kind path = .ok v) : v.Fits R (.scalar kind) := by
  cases decodeScalar_has hj h with
  | null => exact .null
  | boolean b => exact .bool b
  | integer i => exact .integer i
  | float hfinite => exact .float hfinite
  | decimal d => exact .decimal d
  | date d => exact .date d
  | string s =>
    cases j with
    | string text =>
      cases h
      exact .string fun heq => hmark (congrArg Json.string heq)
    | _ => cases h
  | dateTime t =>
    cases j with
    | string text =>
      rw [decodeScalar] at h
      cases hparse : DateTime.parse text with
      | error cause =>
        rw [hparse] at h
        cases h
      | ok moment =>
        rw [hparse] at h
        cases h
        obtain ⟨hyear, hday, hminute⟩ := DateTime.range_of_parse hparse
        exact .dateTime hyear hday hminute
    | _ => cases h

/-- The fields that are read fill the declarations of a type. -/
theorem Value.Fills.of_fields {type : TypeName} {schema : TypeSchema}
    {members : List (String × Json)} {fields : List (String × Value)} {path : String}
    (hlookup : R.lookup type = some schema) (hdistinct : (schema.fields.map (·.name)).Nodup)
    (hfields : decodeFields R members schema.fields [] path = .ok fields)
    (hmember : ∀ field ∈ schema.fields, ∀ j path v, members.lookup field.name = some j →
      decodeAt R j field.descriptor path = .ok v → v.Fills R field.descriptor) :
    (Value.record type fields).Fills R (.named type) := by
  obtain ⟨hascending, hdeclared⟩ := decodeFields_declared hfields
  obtain ⟨read, hschema, hread, rfl⟩ := decodeFields_eq_ok hfields
  apply Value.Fills.record hlookup hascending hdeclared
  intro field hfield v hmem
  obtain ⟨field', hentry, hname⟩ := exists_read_of_mem hmem
  have hfield' : field' ∈ schema.fields := hschema ▸ List.mem_map_of_mem hentry
  have hsame : field' = field := List.inj_on_of_nodup_map hdistinct hfield' hfield hname
  subst hsame
  rcases hread _ hentry with ⟨j, path, hj, hv⟩ | ⟨-, -, habsent⟩
  · exact hmember field' hfield j path v hj hv
  · cases habsent
    exact .absent _

/-- What is read fills its descriptor. -/
theorem fills_of_decodeAt (hplain : R.Plain) (j : Json) (d : Descriptor) (path : String) (v : Value)
    (hj : j.Representable) (hd : d.UnionFree) (h : decodeAt R j d path = .ok v) : v.Fills R d := by
  cases readsAs_of_decodeAt h with
  | absent => exact .absent d
  | scalar hmark h => exact .scalar (decodeScalar_fits hj hmark h)
  | optionalNull inner => exact .optionalNull inner
  | @optional _ inner place _ h =>
    cases hd with
    | optional hd => exact .optional (fills_of_decodeAt hplain j inner place v hj hd h)
  | @list items item vs hlength hitems =>
    apply Value.Fills.list
    rw [← List.map_snd_zip hlength.le]
    intro v hv
    obtain ⟨⟨j, _⟩, hpair, rfl⟩ := List.mem_map.1 hv
    obtain ⟨place, hread⟩ := hitems _ hpair
    have hmem := (List.of_mem_zip hpair).1
    have := List.sizeOf_lt_of_mem hmem
    cases hj with
    | array hj =>
      cases hd with
      | list hd => exact fills_of_decodeAt hplain j item place _ (hj _ hmem) hd hread
  | union => cases hd
  | record hlookup hfields _ =>
    apply Value.Fills.of_fields hlookup (hplain.distinct hlookup) hfields
    intro field hfield j path v hj' hv
    have := sizeOf_lt_of_member hj'
    cases hj with
    | object hj =>
      exact fills_of_decodeAt hplain j field.descriptor path v (hj _ (Entries.mem_of_lookup hj'))
        (hplain.unionFree hlookup field hfield) hv
termination_by (sizeOf j, sizeOf d)

/-- What a field was written as and what is read for it meet in the member under its name. -/
theorem ReadsField.of_written {members : List (String × Json)} {field : FieldSchema} {v w : Value}
    (hread : ReadsField R members field w) (hwritten : Written v (members.lookup field.name)) :
    v = .absent ∧ field.required = false ∨
      v ≠ .absent ∧ ∃ j path, (∀ place, v.encodeAt place = .ok j) ∧
        decodeAt R j field.descriptor path = .ok w := by
  rcases hread with ⟨j, path, hlookup, hdecode⟩ | ⟨hlookup, hoptional, -⟩
  · rw [hlookup] at hwritten
    cases hwritten with
    | present habsent hencode => exact .inr ⟨habsent, j, path, hencode, hdecode⟩
  · rw [hlookup] at hwritten
    cases hwritten
    exact .inl ⟨rfl, hoptional⟩

namespace Value.Fills

theorem ne_mark {d : Descriptor} {v : Value} (h : v.Fills R d) : v ≠ .string absentMark := by
  induction h with
  | scalar h => exact h.ne_mark
  | optional _ ih => exact ih
  | _ => exact Value.noConfusion

/-- What fills a descriptor can be written, wherever it stands. -/
theorem encodes (hplain : R.Plain) {d : Descriptor} {v : Value} (h : v.Fills R d) :
    ∃ j, ∀ path, v.encodeAt path = .ok j := by
  induction h with
  | absent => exact ⟨_, fun _ => rfl⟩
  | scalar h =>
    obtain ⟨j, hencode, -⟩ := h.rereads hplain.regular
    exact ⟨j, hencode⟩
  | optionalNull => exact ⟨_, fun _ => rfl⟩
  | optional _ ih => exact ih
  | list _ ih =>
    obtain ⟨js, hencode, -⟩ := encodeItems_written ih
    refine ⟨.array js, fun path => ?_⟩
    rw [encodeAt, hencode]
    rfl
  | record _ hascending hdeclared _ ih =>
    obtain ⟨members, hencode, -⟩ := Rereads.members_written hascending hdeclared
      fun field hfield v hmem _ => ih field hfield v hmem
    refine ⟨.object members, fun path => ?_⟩
    rw [encodeAt, hencode]
    rfl

/-- It reads again when nothing that is required is absent. -/
theorem rereads (hplain : R.Plain) {d : Descriptor} {v : Value} (h : v.Fills R d)
    (hsupplied : v.Supplied R) : Rereads R d v := by
  induction h with
  | absent d => exact .absent d
  | scalar h => exact h.rereads hplain.regular
  | optionalNull inner => exact (Fits.optionalNull inner).rereads hplain.regular
  | @optional inner v h ih =>
    by_cases habsent : v = .absent
    · subst habsent
      exact .absent _
    · exact (ih hsupplied).optional habsent h.ne_mark
  | list _ ih => exact .list fun v hmem => ih v hmem (hsupplied.item hmem)
  | record hlookup hascending hdeclared _ ih =>
    apply Rereads.record hplain.regular hlookup hascending hdeclared
    · exact fun field hfield v hmem _ => ih field hfield v hmem (hsupplied.field hmem)
    · exact hsupplied _ _ _ (.self _) hlookup
    · intro check hcheck
      rw [hplain.unchecked hlookup] at hcheck
      cases hcheck

/-- Nothing that is required is absent when what was written for it reads at all. -/
theorem supplied (hplain : R.Plain) {d : Descriptor} {v : Value} (h : v.Fills R d) {j : Json}
    (hencode : ∀ path, v.encodeAt path = .ok j) {path : String} {w : Value}
    (hdecode : decodeAt R j d path = .ok w) : v.Supplied R := by
  induction h generalizing j path w with
  | absent => exact .absent
  | scalar h => exact .scalar h
  | optionalNull => exact .scalar .null
  | @optional inner v h ih =>
    by_cases habsent : v = .absent
    · subst habsent
      exact .absent
    by_cases hnull : v = .null
    · subst hnull
      exact .scalar .null
    have hj := ne_mark_of_encodeAt (hencode path) habsent h.ne_mark
    rw [decodeAt_optional hj] at hdecode
    · exact ih hencode hdecode
    · rintro rfl
      exact hnull (encodeAt_eq_null (hencode path))
  | list h ih =>
    obtain ⟨js, hencodes, hwritten⟩ := encodeItems_written fun v hmem => (h v hmem).encodes hplain
    have hj := hencode path
    rw [encodeAt, hencodes] at hj
    cases hj
    cases readsAs_of_decodeAt hdecode with
    | list hlength hitems =>
      apply Supplied.list
      intro v hmem
      obtain ⟨j, hj, hv⟩ := hwritten v hmem
      rw [← List.map_fst_zip hlength.ge] at hj
      obtain ⟨⟨_, w⟩, hpair, rfl⟩ := List.mem_map.1 hj
      obtain ⟨place, hread⟩ := hitems _ hpair
      exact ih v hmem hv hread
  | @record type schema fields hlookup hascending hdeclared h ih =>
    obtain ⟨members, hencodes, hwritten⟩ := Rereads.members_written hascending hdeclared
      fun field hfield v hmem _ => (h field hfield v hmem).encodes hplain
    have hj := hencode path
    rw [encodeAt, hencodes] at hj
    cases hj
    cases readsAs_of_decodeAt hdecode with
    | record hlookup' hfields _ =>
      cases hlookup.symm.trans hlookup'
      obtain ⟨read, hschema, hread, -⟩ := decodeFields_eq_ok hfields
      have hmet : ∀ field ∈ schema.fields, ∀ v, (field.name, v) ∈ fields →
          v.Supplied R ∧ (field.required = true → v ≠ .absent) := by
        intro field hfield v hmem
        obtain ⟨⟨_, w⟩, hentry, rfl⟩ := List.mem_map.1 (hschema ▸ hfield)
        rcases (hread _ hentry).of_written (hwritten _ hmem) with
          ⟨rfl, hoptional⟩ | ⟨hpresent, j, place, hv, hw⟩
        · exact ⟨.absent, fun hrequired => absurd (hoptional.symm.trans hrequired) (by decide)⟩
        · exact ⟨ih _ hfield v hmem hv hw, fun _ => hpresent⟩
      apply Supplied.record hlookup
      · exact fun field hfield hrequired hmem => (hmet field hfield .absent hmem).2 hrequired rfl
      · rintro ⟨key, v⟩ hmem
        obtain ⟨field, hfield, rfl⟩ := List.mem_map.1 ((hdeclared key).1 (List.mem_map_of_mem hmem))
        exact (hmet field hfield v hmem).1

end Value.Fills

/-- What was read can be written. What was written reads as nothing else, and it reads exactly when
nothing required is absent. -/
theorem decoded_rereads_iff_supplied (hplain : R.Plain) {d : Descriptor} (hd : d.UnionFree)
    {j : Json} (hj : j.Representable) {v : Value} (h : decode R j d = .ok v) :
    ∃ j', v.encode = .ok j' ∧ (∀ w, decode R j' d = .ok w → v.Same w) ∧
      ((∃ w, decode R j' d = .ok w) ↔ v.Supplied R) := by
  have hfills := fills_of_decodeAt hplain j d Path.root v hj hd h
  obtain ⟨j', hencode⟩ := hfills.encodes hplain
  have hreread : v.Supplied R → decode R j' d = .ok v.reread := fun hsupplied =>
    (hfills.rereads hplain hsupplied).decode_written (hencode Path.root) Path.root
  refine ⟨j', hencode Path.root, fun w hw => ?_, ?_, fun hsupplied => ⟨_, hreread hsupplied⟩⟩
  · rw [hreread (hfills.supplied hplain hencode hw)] at hw
    cases hw
    exact v.same_reread
  · rintro ⟨w, hw⟩
    exact hfills.supplied hplain hencode hw

def personType : TypeName := ⟨"people", "Person"⟩

/-- A type with itself inside. -/
def personSchema : TypeSchema where
  type := personType
  fields := [⟨"name", .scalar .string, true⟩, ⟨"born", .optional (.scalar .dateTime), false⟩,
    ⟨"balance", .scalar .decimal, false⟩, ⟨"friends", .list (.named personType), true⟩]
  construct := none

def people : Registry := ⟨KeyMap.ofList [("people", KeyMap.ofList [("Person", personSchema)])]⟩

theorem people_plain : people.Plain where
  distinct h := by
    rw [Registry.lookup_single h]
    decide
  unchecked h := by
    rw [Registry.lookup_single h]
    rfl
  unionFree h := by
    rw [Registry.lookup_single h]
    simp only [personSchema, List.forall_mem_cons]
    exact ⟨.scalar _, .optional (.scalar _), .scalar _, .list (.named _), List.forall_mem_nil _⟩

/-- The last second of 2016, which was a leap second. -/
def leapSecond : DateTime where
  date := ⟨2016, 12, 31, by decide, by decide, by decide⟩
  hour := 23
  minute := 59
  second := 59
  nanosecond := 999999999
  offset := 0
  time_bounds := by decide
  offset_bounds := by decide

/-- A text with an unknown key, a null, a mark in a list, a number for a decimal and a leap second. -/
def guestText : Json :=
  .object [("balance", .number (.int 50)),
    ("friends", .array [.string absentMark,
      .object [("born", .string "2016-12-31T23:59:60Z"), ("friends", .array []),
        ("name", .string "Bo")]]),
    ("born", .null), ("name", .string "Ann"), ("title", .bool true)]

def person (balance born friends name : Value) : Value :=
  .record personType [("balance", balance), ("born", born), ("friends", friends), ("name", name)]

def guest : Value :=
  person (.decimal ⟨50, 0⟩) .null
    (.list [.absent, person .absent (.dateTime leapSecond) (.list []) (.string "Bo")])
    (.string "Ann")

theorem guestText_representable : guestText.Representable := by
  have hbo : Json.Representable (.object [("born", .string "2016-12-31T23:59:60Z"),
      ("friends", .array []), ("name", .string "Bo")]) := by
    apply Json.Representable.object
    simp only [List.forall_mem_cons]
    exact ⟨.string _, .array (List.forall_mem_nil _), .string _, List.forall_mem_nil _⟩
  apply Json.Representable.object
  simp only [List.forall_mem_cons]
  refine ⟨.number (.int (by decide) (by decide)), .array ?_, .null, .string _, .bool _,
    List.forall_mem_nil _⟩
  simp only [List.forall_mem_cons]
  exact ⟨.string _, hbo, List.forall_mem_nil _⟩

theorem put_personFields (name born balance friends : Value) :
    Entries.put "friends" friends
        (Entries.put "balance" balance (Entries.put "born" born (Entries.put "name" name []))) =
      [("balance", balance), ("born", born), ("friends", friends), ("name", name)] :=
  rfl

theorem lookup_people : people.lookup personType = some personSchema := rfl

theorem guest_rereads : people.Plain ∧ Descriptor.UnionFree (.named personType) ∧
    guestText.Representable ∧ decode people guestText (.named personType) = .ok guest ∧
    ∃ j, guest.encode = .ok j ∧ (∀ w, decode people j (.named personType) = .ok w → guest.Same w) ∧
      ((∃ w, decode people j (.named personType) = .ok w) ↔ guest.Supplied people) := by
  have hread : decode people guestText (.named personType) = .ok guest := by
    have hborn : DateTime.parse "2016-12-31T23:59:60Z" = .ok leapSecond := by decide +kernel
    have hbalance : Decimal.parse (JsonNumber.render .plain (.int 50)) = .ok ⟨50, 0⟩ := rfl
    simp [decode, decodeAt, decodeItems, decodeFields, decodeScalar, decodeDecimal, guestText,
      guest, person, lookup_people, hborn, hbalance, put_personFields, personSchema,
      List.lookup_cons, absentMark, bind, Except.bind, pure, Except.pure]
  exact ⟨people_plain, .named _, guestText_representable, hread,
    decoded_rereads_iff_supplied people_plain (.named _) guestText_representable hread⟩

/-- The mark of absence in a required field. -/
def namelessText : Json := .object [("friends", .array []), ("name", .string absentMark)]

def nameless : Value := person .absent .absent (.list []) .absent

/-- The field that was read as absent is left out, and without it there is no record. -/
theorem nameless_unread : people.Plain ∧ Descriptor.UnionFree (.named personType) ∧
    namelessText.Representable ∧ decode people namelessText (.named personType) = .ok nameless ∧
    nameless.encode = .ok (.object [("friends", .array [])]) ∧
    decode people (.object [("friends", .array [])]) (.named personType) =
      .error (.invalid (Path.child Path.root "name") .missing) := by
  refine ⟨people_plain, .named _, ?_, ?_, rfl, ?_⟩
  · apply Json.Representable.object
    simp only [List.forall_mem_cons]
    exact ⟨.array (List.forall_mem_nil _), .string _, List.forall_mem_nil _⟩
  · simp [decode, decodeAt, decodeItems, decodeFields, namelessText, nameless, person,
      lookup_people, put_personFields, personSchema, List.lookup_cons, absentMark, bind,
      Except.bind, pure, Except.pure]
  · simp [decode, decodeAt, decodeFields, lookup_people, personSchema, List.lookup_cons,
      absentMark, bind, Except.bind]

end StatementGate
