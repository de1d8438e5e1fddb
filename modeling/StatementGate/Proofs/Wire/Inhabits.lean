import StatementGate.Proofs.Lookup
import StatementGate.Proofs.Number.Binary64
import StatementGate.Proofs.Outcome
import StatementGate.Wire.Codec

/-! # What reading gives

Whatever is read from JSON inhabits the descriptor it was read against, down to the innermost
fields. A record is read as a whole or not at all. -/

namespace StatementGate

/-- The numbers that JSON texts give: integers of one word, with a sign or without, and finite
floats. -/
inductive JsonNumber.Representable : JsonNumber → Prop
  | int {i : Int} (hlow : -9223372036854775808 ≤ i) (hhigh : i < 18446744073709551616) :
      Representable (.int i)
  | float {x : Binary64} (hfinite : x.isFinite = true) : Representable (.float x)

inductive Json.Representable : Json → Prop
  | null : Representable .null
  | bool (b : Bool) : Representable (.bool b)
  | number {n : JsonNumber} (h : n.Representable) : Representable (.number n)
  | string (s : String) : Representable (.string s)
  | array {items : List Json} (h : ∀ j ∈ items, j.Representable) : Representable (.array items)
  | object {members : List (String × Json)} (h : ∀ m ∈ members, m.2.Representable) :
      Representable (.object members)

/-- The values of a scalar kind. -/
inductive ScalarKind.Has : ScalarKind → Value → Prop
  | null : Has .null .null
  | boolean (b : Bool) : Has .boolean (.bool b)
  | integer (i : Int64) : Has .integer (.integer i)
  | float {x : Binary64} (hfinite : x.isFinite = true) : Has .float (.float x)
  | string (s : String) : Has .string (.string s)
  | decimal (d : Decimal) : Has .decimal (.decimal d)
  | dateTime (t : DateTime) : Has .dateTime (.dateTime t)
  | date (d : Date) : Has .date (.date d)

/-- The declaration under a name, the last one where a schema repeats it. -/
def TypeSchema.declaration? (schema : TypeSchema) (key : String) : Option FieldSchema :=
  schema.fields.reverse.find? (·.name = key)

/-- A value that was read from JSON as an inhabitant of a descriptor. -/
inductive Value.Inhabits (R : Registry) : Json → Descriptor → Value → Prop
  | absent (d : Descriptor) : Inhabits R (.string absentMark) d .absent
  | scalar {j : Json} {kind : ScalarKind} {v : Value} (h : kind.Has v) :
      Inhabits R j (.scalar kind) v
  | optionalNull (inner : Descriptor) : Inhabits R .null (.optional inner) .null
  | optional {j : Json} {inner : Descriptor} {v : Value} (h : Inhabits R j inner v) :
      Inhabits R j (.optional inner) v
  | list {items : List Json} {item : Descriptor} {vs : List Value}
      (hlength : vs.length = items.length) (h : ∀ p ∈ items.zip vs, Inhabits R p.1 item p.2) :
      Inhabits R (.array items) (.list item) (.list vs)
  | union {j : Json} {alternatives : List Descriptor} {d : Descriptor} {v : Value}
      (hmem : d ∈ alternatives) (h : Inhabits R j d v) : Inhabits R j (.union alternatives) v
  | record {type : TypeName} {schema : TypeSchema} {members : List (String × Json)}
      {fields : List (String × Value)} (hlookup : R.lookup type = some schema)
      (hascending : Entries.Ascending fields)
      (hdeclared : ∀ key, key ∈ fields.map Prod.fst ↔ key ∈ schema.fields.map (·.name))
      (hread : ∀ key v field j, (key, v) ∈ fields → schema.declaration? key = some field →
        members.lookup key = some j → Inhabits R j field.descriptor v)
      (hmissing : ∀ key v, (key, v) ∈ fields → members.lookup key = none → v = .absent ∧
        ∀ field ∈ schema.fields, field.name = key → field.required = false)
      (habsent : ∀ key, (key, .absent) ∈ fields →
        members.lookup key = none ∨ members.lookup key = some (.string absentMark))
      (hcheck : ∀ check, schema.construct = some check → check ⟨type, fields⟩ = .ok ()) :
      Inhabits R (.object members) (.named type) (.record type fields)

namespace Value.Inhabits

variable {R : Registry}

/-- Absence is read from nothing but its mark. -/
theorem eq_mark {j : Json} {d : Descriptor} {v : Value} (h : v.Inhabits R j d)
    (hv : v = .absent) : j = .string absentMark := by
  induction h with
  | absent => rfl
  | scalar h =>
    subst hv
    cases h
  | optionalNull => cases hv
  | optional _ ih => exact ih hv
  | list => cases hv
  | union _ _ ih => exact ih hv
  | record => cases hv

end Value.Inhabits

theorem decodeDecimal_has {text path : String} {v : Value} (h : decodeDecimal text path = .ok v) :
    ScalarKind.decimal.Has v := by
  rw [decodeDecimal] at h
  split at h
  · cases h
    exact .decimal _
  · cases h

/-- A scalar is read as a value of its kind, and a float as a finite one. -/
theorem decodeScalar_has {j : Json} {kind : ScalarKind} {path : String} {v : Value}
    (hj : j.Representable) (h : decodeScalar j kind path = .ok v) : kind.Has v := by
  rw [decodeScalar.eq_def] at h
  split at h
  · cases h
    exact .null
  · cases h
    exact .string _
  · cases h
    exact .boolean _
  · split at h
    · cases h
      exact .integer _
    · cases h
  · cases h
  · cases h
    cases hj with
    | number hj =>
      cases hj with
      | int hlow hhigh => exact .float (Binary64.isFinite_ofInt (by omega))
  · cases h
    cases hj with
    | number hj =>
      cases hj with
      | float hfinite => exact .float hfinite
  · exact decodeDecimal_has h
  · exact decodeDecimal_has h
  · split at h
    · cases h
      exact .dateTime _
    · cases h
  · split at h
    · cases h
      exact .date _
    · cases h
  · cases h

variable {R : Registry}

/-- Items are read one by one. -/
theorem decodeItems_eq_ok {items : List Json} {d : Descriptor} {index : Nat} {path : String}
    {vs : List Value} (h : decodeItems R items d index path = .ok vs) :
    vs.length = items.length ∧
      ∀ p ∈ items.zip vs, ∃ path, decodeAt R p.1 d path = .ok p.2 := by
  induction items generalizing index vs with
  | nil =>
    rw [decodeItems] at h
    cases h
    exact ⟨rfl, List.forall_mem_nil _⟩
  | cons j rest ih =>
    rw [decodeItems, bind_eq_ok] at h
    obtain ⟨v, hv, h⟩ := h
    obtain ⟨others, hothers, h⟩ := bind_eq_ok.1 h
    cases h
    obtain ⟨hlength, hrest⟩ := ih hothers
    rw [List.length_cons, List.length_cons, hlength, List.zip_cons_cons, List.forall_mem_cons]
    exact ⟨rfl, ⟨_, hv⟩, hrest⟩

/-- What a union is read as, one of its alternatives is read as. -/
theorem decodeUnion_eq_ok {j : Json} {union : Descriptor} {alternatives : List Descriptor}
    {reasons : List (Descriptor × Problem)} {path : String} {v : Value}
    (h : decodeUnion R j union alternatives reasons path = .ok v) :
    ∃ d ∈ alternatives, decodeAt R j d path = .ok v := by
  induction alternatives generalizing reasons with
  | nil =>
    rw [decodeUnion] at h
    cases h
  | cons d rest ih =>
    rw [decodeUnion] at h
    split at h
    · rename_i hd
      cases h
      exact ⟨d, List.mem_cons_self, hd⟩
    · obtain ⟨d', hmem, hd'⟩ := ih h
      exact ⟨d', List.mem_cons_of_mem d hmem, hd'⟩
    · cases h

/-- What a field is read as: its member, or absence where it may be left out. -/
def ReadsField (R : Registry) (members : List (String × Json)) (field : FieldSchema) (v : Value) :
    Prop :=
  (∃ j path, members.lookup field.name = some j ∧ decodeAt R j field.descriptor path = .ok v) ∨
    members.lookup field.name = none ∧ field.required = false ∧ v = .absent

/-- Every declaration of a record is read, and what is read is put under its name. -/
theorem decodeFields_eq_ok {members : List (String × Json)} {fields : List FieldSchema}
    {before out : List (String × Value)} {path : String}
    (h : decodeFields R members fields before path = .ok out) :
    ∃ read : List (FieldSchema × Value), read.map Prod.fst = fields ∧
      (∀ entry ∈ read, ReadsField R members entry.1 entry.2) ∧
      out = (read.map fun entry => (entry.1.name, entry.2)).foldl
        (fun sorted entry => Entries.put entry.1 entry.2 sorted) before := by
  induction fields generalizing before with
  | nil =>
    rw [decodeFields] at h
    cases h
    exact ⟨[], rfl, List.forall_mem_nil _, rfl⟩
  | cons field rest ih =>
    have hstep : ∃ v, ReadsField R members field v ∧
        decodeFields R members rest (Entries.put field.name v before) path = .ok out := by
      rw [decodeFields] at h
      split at h
      · rename_i j hj
        obtain ⟨v, hv, h⟩ := bind_eq_ok.1 h
        exact ⟨v, .inl ⟨j, _, hj, hv⟩, h⟩
      · rename_i hmissing
        by_cases hrequired : field.required
        · rw [if_pos hrequired] at h
          cases h
        · rw [if_neg hrequired] at h
          exact ⟨.absent, .inr ⟨hmissing, by simpa using hrequired, rfl⟩, h⟩
    obtain ⟨v, hv, hrest⟩ := hstep
    obtain ⟨read, rfl, hread, rfl⟩ := ih hrest
    exact ⟨(field, v) :: read, rfl, List.forall_mem_cons.2 ⟨hv, hread⟩, rfl⟩

/-- Every entry of what was put in comes of a declaration. -/
theorem exists_read_of_mem {read : List (FieldSchema × Value)} {key : String} {v : Value}
    (h : (key, v) ∈ Entries.ofList (read.map fun entry => (entry.1.name, entry.2))) :
    ∃ field, (field, v) ∈ read ∧ field.name = key := by
  rcases Entries.mem_of_mem_putAll h with hmem | hmem
  · obtain ⟨⟨field, w⟩, hentry, heq⟩ := List.mem_map.1 hmem
    cases heq
    exact ⟨field, hentry, rfl⟩
  · cases hmem

/-- The fields of a record that was read are those its type declares, in key order. -/
theorem decodeFields_declared {members : List (String × Json)} {fields : List FieldSchema}
    {out : List (String × Value)} {path : String}
    (h : decodeFields R members fields [] path = .ok out) :
    Entries.Ascending out ∧ ∀ key, key ∈ out.map Prod.fst ↔ key ∈ fields.map (·.name) := by
  obtain ⟨read, rfl, -, rfl⟩ := decodeFields_eq_ok h
  refine ⟨Entries.ascending_ofList _, fun key => ?_⟩
  rw [Entries.mem_keys_putAll]
  simp

theorem TypeSchema.declaration?_eq_some {schema : TypeSchema} {key : String} {field : FieldSchema}
    (h : schema.declaration? key = some field) :
    ∃ before after, schema.fields = before ++ field :: after ∧ field.name = key ∧
      key ∉ after.map (·.name) := by
  obtain ⟨hname, after, before, hfields, hafter⟩ := List.find?_eq_some_iff_append.1 h
  refine ⟨before.reverse, after.reverse, ?_, by simpa using hname, ?_⟩
  · rw [List.reverse_eq_iff] at hfields
    simp [hfields]
  · intro hmem
    obtain ⟨other, hother, hkey⟩ := List.mem_map.1 hmem
    have := hafter other (List.mem_reverse.1 hother)
    simp [hkey] at this

/-- A record inhabits its type when each of its members is read as an inhabitant. -/
theorem Value.Inhabits.of_fields {type : TypeName} {schema : TypeSchema}
    {members : List (String × Json)} {fields : List (String × Value)} {path : String}
    (hlookup : R.lookup type = some schema)
    (hfields : decodeFields R members schema.fields [] path = .ok fields)
    (hcheck : ∀ check, schema.construct = some check → check ⟨type, fields⟩ = .ok ())
    (hmember : ∀ key j d path v, members.lookup key = some j → decodeAt R j d path = .ok v →
      v.Inhabits R j d) :
    (Value.record type fields).Inhabits R (.object members) (.named type) := by
  obtain ⟨hascending, hdeclared⟩ := decodeFields_declared hfields
  obtain ⟨read, hschema, hread, hfields⟩ := decodeFields_eq_ok hfields
  have hsource : ∀ key v, (key, v) ∈ fields → ∃ field, (field, v) ∈ read ∧ field.name = key := by
    intro key v hmem
    rw [hfields] at hmem
    exact exists_read_of_mem hmem
  have hleft : ∀ {field v}, (field, v) ∈ read → members.lookup field.name = none →
      field.required = false ∧ v = .absent := by
    intro field v hentry hnone
    rcases hread _ hentry with ⟨j, _, hj, _⟩ | ⟨_, hleft⟩
    · rw [hj] at hnone
      cases hnone
    · exact hleft
  apply Value.Inhabits.record hlookup hascending hdeclared _ _ _ hcheck
  · intro key v field j hmem hdeclared hj
    obtain ⟨before, after, hparts, rfl, hlast⟩ := TypeSchema.declaration?_eq_some hdeclared
    rw [← hschema] at hparts
    obtain ⟨before, rest, rfl, rfl, hrest⟩ := List.map_eq_append_iff.1 hparts
    obtain ⟨⟨field, w⟩, after, rfl, rfl, rfl⟩ := List.map_eq_cons_iff.1 hrest
    have hfound : fields.lookup field.name = some w := by
      rw [hfields, List.map_append, List.map_cons]
      apply Entries.lookup_ofList_last w
      simpa using hlast
    rw [Entries.lookup_of_mem hascending.keys_nodup hmem] at hfound
    cases hfound
    rcases hread (field, v) (by simp) with ⟨j', path, hj', hv⟩ | ⟨hnone, _⟩
    · rw [hj] at hj'
      cases hj'
      exact hmember _ _ _ _ _ hj hv
    · rw [hj] at hnone
      cases hnone
  · intro key v hmem hnone
    obtain ⟨field, hentry, rfl⟩ := hsource key v hmem
    constructor
    · exact (hleft hentry hnone).2
    · intro other hother hname
      rw [← hschema] at hother
      obtain ⟨⟨other, w⟩, hentry, rfl⟩ := List.mem_map.1 hother
      exact (hleft hentry (hname ▸ hnone)).1
  · intro key hmem
    obtain ⟨field, hentry, rfl⟩ := hsource key _ hmem
    rcases hread _ hentry with ⟨j, path, hj, hv⟩ | ⟨hnone, _⟩
    · rw [(hmember _ _ _ _ _ hj hv).eq_mark rfl] at hj
      exact .inr hj
    · exact .inl hnone

/-- How a value is read, down to the values inside it. -/
inductive ReadsAs (R : Registry) : Json → Descriptor → Value → Prop
  | absent (d : Descriptor) : ReadsAs R (.string absentMark) d .absent
  | scalar {j : Json} {kind : ScalarKind} {path : String} {v : Value}
      (hmark : j ≠ .string absentMark) (h : decodeScalar j kind path = .ok v) :
      ReadsAs R j (.scalar kind) v
  | optionalNull (inner : Descriptor) : ReadsAs R .null (.optional inner) .null
  | optional {j : Json} {inner : Descriptor} {path : String} {v : Value}
      (h : decodeAt R j inner path = .ok v) : ReadsAs R j (.optional inner) v
  | list {items : List Json} {item : Descriptor} {vs : List Value}
      (hlength : vs.length = items.length)
      (h : ∀ p ∈ items.zip vs, ∃ path, decodeAt R p.1 item path = .ok p.2) :
      ReadsAs R (.array items) (.list item) (.list vs)
  | union {j : Json} {alternatives : List Descriptor} {d : Descriptor} {path : String} {v : Value}
      (hmem : d ∈ alternatives) (h : decodeAt R j d path = .ok v) :
      ReadsAs R j (.union alternatives) v
  | record {type : TypeName} {schema : TypeSchema} {members : List (String × Json)}
      {fields : List (String × Value)} {path : String} (hlookup : R.lookup type = some schema)
      (hfields : decodeFields R members schema.fields [] path = .ok fields)
      (hcheck : ∀ check, schema.construct = some check → check ⟨type, fields⟩ = .ok ()) :
      ReadsAs R (.object members) (.named type) (.record type fields)

/-- A value is read in one of these ways. -/
theorem readsAs_of_decodeAt {j : Json} {d : Descriptor} {path : String} {v : Value}
    (h : decodeAt R j d path = .ok v) : ReadsAs R j d v := by
  rw [decodeAt.eq_def] at h
  by_cases hmark : j = .string absentMark
  · rw [if_pos hmark] at h
    cases h
    subst hmark
    exact .absent d
  rw [if_neg hmark] at h
  cases d with
  | scalar kind => exact .scalar hmark h
  | optional inner =>
    dsimp only at h
    split at h
    · cases h
      exact .optionalNull inner
    · exact .optional h
  | list item =>
    cases j with
    | array items =>
      obtain ⟨vs, hvs, h⟩ := bind_eq_ok.1 h
      cases h
      obtain ⟨hlength, hitems⟩ := decodeItems_eq_ok hvs
      exact .list hlength hitems
    | _ => cases h
  | union alternatives =>
    obtain ⟨d, hd, h⟩ := decodeUnion_eq_ok h
    exact .union hd h
  | named type =>
    dsimp only at h
    cases hlookup : R.lookup type with
    | none =>
      rw [hlookup] at h
      cases h
    | some schema =>
      rw [hlookup] at h
      cases j with
      | object members =>
        obtain ⟨fields, hfields, h⟩ := bind_eq_ok.1 h
        cases hconstruct : schema.construct with
        | none =>
          rw [hconstruct] at h
          cases h
          exact .record hlookup hfields (by simp [hconstruct])
        | some check =>
          rw [hconstruct] at h
          dsimp only at h
          split at h
          · rename_i hcheck
            cases h
            exact .record hlookup hfields (by simpa [hconstruct] using hcheck)
          · cases h
      | _ => cases h

theorem sizeOf_lt_of_member {members : List (String × Json)} {key : String} {j : Json}
    (h : members.lookup key = some j) : sizeOf j < sizeOf (Json.object members) := by
  have := sizeOf_lt_of_lookup h
  simp
  omega

/-- What is read inhabits its descriptor. -/
theorem inhabits_of_decodeAt (R : Registry) (j : Json) (d : Descriptor) (path : String) (v : Value)
    (hj : j.Representable) (h : decodeAt R j d path = .ok v) : v.Inhabits R j d := by
  cases readsAs_of_decodeAt h with
  | absent => exact .absent d
  | scalar _ h => exact .scalar (decodeScalar_has hj h)
  | optionalNull inner => exact .optionalNull inner
  | @optional _ inner place _ h => exact .optional (inhabits_of_decodeAt R j inner place v hj h)
  | @list items item vs hlength hitems =>
    apply Value.Inhabits.list hlength
    intro p hp
    obtain ⟨place, hv⟩ := hitems p hp
    have hmem := (List.of_mem_zip hp).1
    have := List.sizeOf_lt_of_mem hmem
    cases hj with
    | array hj => exact inhabits_of_decodeAt R p.1 item place p.2 (hj _ hmem) hv
  | @union _ _ d place _ hd h =>
    have := List.sizeOf_lt_of_mem hd
    exact .union hd (inhabits_of_decodeAt R j d place v hj h)
  | record hlookup hfields hcheck =>
    apply Value.Inhabits.of_fields hlookup hfields hcheck
    intro key j d path v hj' hv
    have := sizeOf_lt_of_member hj'
    cases hj with
    | object hj => exact inhabits_of_decodeAt R j d path v (hj _ (Entries.mem_of_lookup hj')) hv
termination_by (sizeOf j, sizeOf d)

/-- What is read is an inhabitant of the descriptor, with all that is inside it. -/
theorem decoded_inhabits {j : Json} {d : Descriptor} {v : Value} (hj : j.Representable)
    (h : decode R j d = .ok v) : v.Inhabits R j d :=
  inhabits_of_decodeAt R j d Path.root v hj h

def folderType : TypeName := ⟨"files", "Folder"⟩

/-- A type with itself inside and a name that must not be empty. -/
def folderSchema : TypeSchema where
  type := folderType
  fields := [⟨"name", .scalar .string, true⟩, ⟨"note", .optional (.scalar .string), false⟩,
    ⟨"size", .scalar .float, false⟩,
    ⟨"entries", .list (.union [.named folderType, .scalar .string]), true⟩]
  construct := some fun r =>
    match r.get? "name" with
    | some (.string "") => .error "no name"
    | _ => .ok ()

def folders : Registry := ⟨KeyMap.ofList [("files", KeyMap.ofList [("Folder", folderSchema)])]⟩

def folderText : Json :=
  .object [("entries", .array [.object [("entries", .array []), ("name", .string "inner"),
      ("size", .number (.int 3))], .string "loose"]),
    ("name", .string "outer"), ("note", .string absentMark)]

def folder : Value :=
  .record folderType [("entries", .list [.record folderType [("entries", .list []),
      ("name", .string "inner"), ("note", .absent), ("size", .float (Binary64.ofInt 3))],
      .string "loose"]),
    ("name", .string "outer"), ("note", .absent), ("size", .absent)]

theorem folderText_representable : folderText.Representable := by
  have hinner : Json.Representable (.object [("entries", .array []), ("name", .string "inner"),
      ("size", .number (.int 3))]) := by
    apply Json.Representable.object
    simp only [List.forall_mem_cons]
    exact ⟨.array (List.forall_mem_nil _), .string _, .number (.int (by decide) (by decide)),
      List.forall_mem_nil _⟩
  apply Json.Representable.object
  simp only [List.forall_mem_cons]
  refine ⟨.array ?_, .string _, .string _, List.forall_mem_nil _⟩
  simp only [List.forall_mem_cons]
  exact ⟨hinner, .string _, List.forall_mem_nil _⟩

theorem folder_inhabits : folderText.Representable ∧
    decode folders folderText (.named folderType) = .ok folder ∧
    folder.Inhabits folders folderText (.named folderType) := by
  have hread : decode folders folderText (.named folderType) = .ok folder := by
    have hlookup : folders.lookup folderType = some folderSchema := rfl
    have hfields : ∀ name note size entries : Value,
        Entries.put "entries" entries
            (Entries.put "size" size (Entries.put "note" note (Entries.put "name" name []))) =
          [("entries", entries), ("name", name), ("note", note), ("size", size)] :=
      fun _ _ _ _ => rfl
    simp [decode, decodeAt, decodeItems, decodeUnion, decodeFields, decodeScalar, folderText,
      folder, hlookup, hfields, folderSchema, Record.get?, List.lookup_cons, absentMark, bind,
      Except.bind, pure, Except.pure]
  exact ⟨folderText_representable, hread, decoded_inhabits folderText_representable hread⟩

end StatementGate
