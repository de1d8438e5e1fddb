import StatementGate.Proofs.Wire.Refusals
import StatementGate.Proofs.Wire.Writing
import StatementGate.Wire.Rows

/-! # Rows as records

A row is written without knowing what type it will be read against. Its record holds what the row has
in the declared columns, with absence where it has nothing; further columns make no difference. Rows
that supply every declared field are read as their records, one by one and in order. -/

namespace StatementGate

/-- The value has a JSON, and that reads as the value, decimals compared by number. -/
def Value.RoundTrips (R : Registry) (d : Descriptor) (v : Value) : Prop :=
  ∃ j w, v.encode = .ok j ∧ decode R j d = .ok w ∧ v.Same w

theorem Value.Fits.roundTrips {R : Registry} (hregular : R.Regular) {d : Descriptor} {v : Value}
    (h : v.Fits R d) : v.RoundTrips R d := by
  obtain ⟨j, hencode, hdecode⟩ := h.rereads hregular
  exact ⟨j, v.reread, hencode Path.root, hdecode Path.root, v.same_reread⟩

namespace TypeSchema

def Accepts (schema : TypeSchema) (r : Record) : Prop :=
  ∀ check, schema.construct = some check → check r = .ok ()

/-- The check of the type looks at the value of a decimal, not at its representation. -/
def IgnoresScale (schema : TypeSchema) : Prop :=
  ∀ r r', (Value.ofRecord r).Same (.ofRecord r') → schema.Accepts r → schema.Accepts r'

end TypeSchema

theorem Registry.Regular.ignoresScale {R : Registry} (hregular : R.Regular) {type : TypeName}
    {schema : TypeSchema} (hlookup : R.lookup type = some schema) : schema.IgnoresScale :=
  fun _ _ hsame haccepts check hcheck =>
    hregular.check hlookup hcheck hsame (haccepts check hcheck)

namespace Row

/-- What a row has in a column: absence where it has no such column. -/
def cell (row : Row) (column : String) : Value := (row.lookup column).getD .absent

/-- The record of a type that a row stands for. -/
def toRecord (row : Row) (type : TypeName) (schema : TypeSchema) : Record :=
  ⟨type, Entries.ofList (schema.fields.map fun field => (field.name, row.cell field.name))⟩

/-- The row has a value for the field, or may leave it out. -/
inductive Supplies (R : Registry) (row : Row) (field : FieldSchema) : Prop
  | value {v : Value} (hcolumn : row.lookup field.name = some v) (hpresent : v ≠ .absent)
      (h : v.RoundTrips R field.descriptor) : Supplies R row field
  | nothing (hoptional : field.required = false)
      (hcolumn : row.lookup field.name = none ∨ row.lookup field.name = some .absent) :
      Supplies R row field

theorem Supplies.ofFits {R : Registry} (hregular : R.Regular) {row : Row} {field : FieldSchema}
    {v : Value} (hcolumn : row.lookup field.name = some v) (h : v.Fits R field.descriptor) :
    row.Supplies R field :=
  .value hcolumn h.ne_absent (h.roundTrips hregular)

/-- A row is written with a member for each column that is not absent. -/
theorem members_written {row : Row} (hdistinct : (row.map Prod.fst).Nodup) {j : Json}
    (h : row.encode = .ok j) :
    ∃ members, j = .object members ∧ ∀ column, Written (row.cell column) (members.lookup column) := by
  obtain ⟨members, hmembers, h⟩ := bind_eq_ok.1 h
  cases h
  refine ⟨members, rfl, fun column => ?_⟩
  obtain ⟨-, hvalues⟩ := Value.mirrors_of_encodeFields row hmembers
  have hjson : ∀ field ∈ row, field.2 ≠ .absent → ∃ j, ∀ path, field.2.encodeAt path = .ok j := by
    intro field hmem hpresent
    have hvalue := List.mem_map_of_mem (f := Prod.snd)
      (Value.mem_presentFields.2 ⟨hmem, hpresent⟩)
    obtain ⟨j, -, hmirrors⟩ := exists_of_mem_forall₂ hvalues.flip hvalue
    exact ⟨j, hmirrors.encodeAt _⟩
  obtain ⟨members', hencode, hnone, hwritten⟩ := Value.encodeFields_written hdistinct hjson
  cases (hencode Path.root).symm.trans hmembers
  rw [cell]
  cases hcolumn : row.lookup column with
  | none =>
    rw [hnone column (mt Entries.isSome_lookup_iff.2 (by simp [hcolumn]))]
    exact .absent
  | some v => exact hwritten _ (Entries.mem_of_lookup hcolumn)

variable {R : Registry}

/-- A field that the row supplies is read as what the row has there. -/
theorem Supplies.reads {row : Row} {field : FieldSchema} {members : List (String × Json)}
    (h : row.Supplies R field) (hwritten : Written (row.cell field.name) (members.lookup field.name)) :
    ∃ w, ReadsField R members field w ∧ (row.cell field.name).Same w := by
  cases h with
  | value hcolumn hpresent h =>
    obtain ⟨j, w, hencode, hdecode, hsame⟩ := h
    rw [cell, hcolumn, Option.getD_some] at hwritten ⊢
    generalize hmember : members.lookup field.name = member at hwritten
    cases hwritten with
    | absent => exact absurd rfl hpresent
    | present _ hanywhere =>
      cases (hanywhere Path.root).symm.trans hencode
      exact ⟨w, .inl ⟨j, Path.root, hmember, hdecode⟩, hsame⟩
  | nothing hoptional hcolumn =>
    have hcell : row.cell field.name = .absent := by
      rcases hcolumn with hcolumn | hcolumn <;> rw [cell, hcolumn] <;> rfl
    rw [hcell] at hwritten ⊢
    generalize hmember : members.lookup field.name = member at hwritten
    cases hwritten with
    | absent => exact ⟨.absent, .inr ⟨hmember, hoptional, rfl⟩, .refl _⟩
    | present habsent => exact absurd rfl habsent

end Row

variable {R : Registry}

/-- Fields that are read one by one are read together, each put under its name. -/
theorem decodeFields_of_readsFields {members : List (String × Json)} {fields : List FieldSchema}
    {vs : List Value} (h : List.Forall₂ (ReadsField R members) fields vs)
    (read : List (String × Value)) (path : String) :
    decodeFields R members fields read path =
      .ok (((fields.map (·.name)).zip vs).foldl
        (fun sorted entry => Entries.put entry.1 entry.2 sorted) read) := by
  induction h generalizing read with
  | nil =>
    rw [decodeFields]
    rfl
  | cons hfield _ ih =>
    rw [hfield.decodeFields_cons, ih]
    rfl

/-- Items that are read one by one are read together. -/
theorem decodeItems_of_reads {js : List Json} {d : Descriptor} {vs : List Value}
    (h : List.Forall₂ (fun j v => ∀ path, decodeAt R j d path = .ok v) js vs) (index : Nat)
    (path : String) : decodeItems R js d index path = .ok vs := by
  induction h generalizing index with
  | nil => rw [decodeItems]
  | cons hitem _ ih =>
    rw [decodeItems, hitem, ih]
    rfl

theorem decodeAt_record {type : TypeName} {schema : TypeSchema} {members : List (String × Json)}
    {fields : List (String × Value)} {path : String} (hlookup : R.lookup type = some schema)
    (hfields : decodeFields R members schema.fields [] path = .ok fields)
    (haccepts : schema.Accepts ⟨type, fields⟩) :
    decodeAt R (.object members) (.named type) path = .ok (.record type fields) := by
  rw [decodeAt, if_neg Json.noConfusion, hlookup]
  dsimp only
  rw [hfields]
  cases hconstruct : schema.construct with
  | none => rfl
  | some check =>
    dsimp only [bind, Except.bind]
    rw [haccepts check hconstruct]
    rfl

namespace Row

/-- A row with distinct columns that supplies each declared field, and whose record the type accepts. -/
structure FillsType (R : Registry) (type : TypeName) (schema : TypeSchema) (row : Row) : Prop where
  distinct : (row.map Prod.fst).Nodup
  supplied : ∀ field ∈ schema.fields, row.Supplies R field
  accepted : schema.Accepts (row.toRecord type schema)

/-- The value is the record that the row stands for. -/
def ArrivesAs (type : TypeName) (schema : TypeSchema) (row : Row) (v : Value) : Prop :=
  (Value.ofRecord (row.toRecord type schema)).Same v

/-- A row is read as its record. -/
theorem FillsType.arrives {type : TypeName} {schema : TypeSchema} {row : Row} {j : Json}
    (h : row.FillsType R type schema) (hlookup : R.lookup type = some schema)
    (hscale : schema.IgnoresScale) (hencode : row.encode = .ok j) :
    ∃ v, row.ArrivesAs type schema v ∧ ∀ path, decodeAt R j (.named type) path = .ok v := by
  obtain ⟨members, rfl, hwritten⟩ := members_written h.distinct hencode
  obtain ⟨vs, hread⟩ := exists_forall₂ fun field hfield =>
    (h.supplied field hfield).reads (hwritten field.name)
  have hvalues : List.Forall₂ (Entries.Alike Value.Same)
      (schema.fields.map fun field => (field.name, row.cell field.name))
      ((schema.fields.map (·.name)).zip vs) := by
    generalize schema.fields = fields at hread
    induction hread with
    | nil => exact .nil
    | cons hboth _ ih => exact .cons ⟨rfl, hboth.2⟩ ih
  have hfields := decodeFields_of_readsFields (hread.imp fun _ _ hboth => hboth.1) []
  have hsame : row.ArrivesAs type schema (.record type _) :=
    .ofAlike (Entries.putAll_alike hvalues .nil)
  exact ⟨_, hsame, fun path =>
    decodeAt_record hlookup (hfields path) (hscale _ ⟨type, _⟩ hsame h.accepted)⟩

/-- Rows are read as their records, one by one. -/
theorem arrive {type : TypeName} {schema : TypeSchema} {rows : List Row} {js : List Json}
    (hrows : ∀ row ∈ rows, row.FillsType R type schema) (hlookup : R.lookup type = some schema)
    (hscale : schema.IgnoresScale)
    (hencode : List.Forall₂ (fun row j => row.encode = .ok j) rows js) :
    ∃ vs, List.Forall₂ (ArrivesAs type schema) rows vs ∧
      List.Forall₂ (fun j v => ∀ path, decodeAt R j (.named type) path = .ok v) js vs := by
  induction hencode with
  | nil => exact ⟨[], .nil, .nil⟩
  | cons hrow _ ih =>
    rw [List.forall_mem_cons] at hrows
    obtain ⟨v, hv, hread⟩ := hrows.1.arrives hlookup hscale hrow
    obtain ⟨vs, hvs, hreads⟩ := ih hrows.2
    exact ⟨v :: vs, .cons hv hvs, .cons hread hreads⟩

end Row

/-- An object is read against an optional as without it. -/
theorem decode_optional_row {row : Row} {j : Json} (h : row.encode = .ok j) (d : Descriptor) :
    decode R j (.optional d) = decode R j d := by
  obtain ⟨members, -, h⟩ := bind_eq_ok.1 h
  cases h
  exact decodeAt_optional Json.noConfusion Json.noConfusion d Path.root

/-- Rows that were written and fit a type arrive as its records, in order and one for each row, as a list
or as a list that may be missing; a single row arrives as its record alone. -/
theorem rows_arrive {type : TypeName} {schema : TypeSchema} {rows : List Row} {js : List Json}
    (hlookup : R.lookup type = some schema) (hscale : schema.IgnoresScale)
    (hrows : ∀ row ∈ rows, row.FillsType R type schema) (hencode : rows.mapM Row.encode = .ok js) :
    ∃ vs, List.Forall₂ (Row.ArrivesAs type schema) rows vs ∧
      decodeRows R js (.list (.named type)) = .ok (.list vs) ∧
      decodeRows R js (.optional (.list (.named type))) = .ok (.list vs) ∧
      ∀ row, rows = [row] → ∃ v, vs = [v] ∧ decodeRows R js (.named type) = .ok v ∧
        decodeRows R js (.optional (.named type)) = .ok v := by
  rw [mapM_eq_ok] at hencode
  obtain ⟨vs, harrive, hread⟩ := Row.arrive hrows hlookup hscale hencode
  have hlist : decode R (.array js) (.list (.named type)) = .ok (.list vs) := by
    rw [decode, decodeAt, if_neg Json.noConfusion, decodeItems_of_reads hread]
    rfl
  refine ⟨vs, harrive, ?_, ?_, ?_⟩
  · exact mapError_eq_ok.2 hlist
  · refine mapError_eq_ok.2 ?_
    exact (decodeAt_optional Json.noConfusion Json.noConfusion _ Path.root).trans hlist
  · rintro row rfl
    obtain ⟨j, _, hj, hnone, rfl⟩ := List.forall₂_cons_left_iff.1 hencode
    cases hnone
    obtain ⟨v, _, hv, hnone, rfl⟩ := List.forall₂_cons_left_iff.1 hread
    cases hnone
    refine ⟨v, rfl, mapError_eq_ok.2 (hv Path.root), mapError_eq_ok.2 ?_⟩
    exact (decode_optional_row hj _).trans (hv Path.root)

/-- A row with a column that nodes do not have and without a next node. Its amount is written `50` and
reads as another decimal. -/
def rankedRow : Row :=
  [("amount", .decimal ⟨5, -1⟩), ("label", .string "first"), ("rank", .integer 3),
    ("tags", .list [.integer 7, .string "seven", .absent])]

/-- A row without an amount, and with a next node that is null. -/
def lastRow : Row :=
  [("amount", .absent), ("label", .string "last"), ("next", .null), ("tags", .list [])]

theorem rankedRow_fills : rankedRow.FillsType nodes nodeType nodeSchema where
  distinct := by decide
  supplied := by
    intro field hfield
    simp only [nodeSchema, List.mem_cons, List.not_mem_nil, or_false] at hfield
    rcases hfield with rfl | rfl | rfl | rfl
    · exact .ofFits nodes_regular rfl (.string (by decide))
    · exact .ofFits nodes_regular rfl (.decimal _)
    · exact .nothing rfl (.inl rfl)
    · exact .ofFits nodes_regular rfl tags_fit
  accepted := by
    intro check hcheck
    cases hcheck
    rfl

theorem lastRow_fills : lastRow.FillsType nodes nodeType nodeSchema where
  distinct := by decide
  supplied := by
    intro field hfield
    simp only [nodeSchema, List.mem_cons, List.not_mem_nil, or_false] at hfield
    rcases hfield with rfl | rfl | rfl | rfl
    · exact .ofFits nodes_regular rfl (.string (by decide))
    · exact .nothing rfl (.inr rfl)
    · exact .ofFits nodes_regular rfl (.optionalNull _)
    · exact .ofFits nodes_regular rfl (.list fun _ hmem => absurd hmem (List.not_mem_nil))
  accepted := by
    intro check hcheck
    cases hcheck
    rfl

theorem ranked_rows_arrive : ∃ js, [rankedRow, lastRow].mapM Row.encode = .ok js ∧
    nodes.lookup nodeType = some nodeSchema ∧ nodeSchema.IgnoresScale ∧
    (∀ row ∈ [rankedRow, lastRow], row.FillsType nodes nodeType nodeSchema) ∧
    ∃ vs, List.Forall₂ (Row.ArrivesAs nodeType nodeSchema) [rankedRow, lastRow] vs ∧
      decodeRows nodes js (.list (.named nodeType)) = .ok (.list vs) := by
  have hlookup : nodes.lookup nodeType = some nodeSchema := rfl
  have hscale := nodes_regular.ignoresScale hlookup
  have hrows : ∀ row ∈ [rankedRow, lastRow], row.FillsType nodes nodeType nodeSchema := by
    simp only [List.forall_mem_cons]
    exact ⟨rankedRow_fills, lastRow_fills, List.forall_mem_nil _⟩
  obtain ⟨js, hencode⟩ : ∃ js, [rankedRow, lastRow].mapM Row.encode = .ok js := ⟨_, rfl⟩
  obtain ⟨vs, harrive, hlist, -⟩ := rows_arrive hlookup hscale hrows hencode
  exact ⟨js, hencode, hlookup, hscale, hrows, vs, harrive, hlist⟩

end StatementGate
