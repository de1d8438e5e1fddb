import StatementGate.Proofs.Wire.Conformance
import StatementGate.Proofs.Wire.Encoding
import StatementGate.Proofs.Wire.Paths

/-! # Reading back what was written

The JSON of a conforming value reads as the value itself, up to the scale of decimals. The step is
one lemma for each form of a value; the induction is on conformance, since a registry may lead
from a type back to itself. -/

namespace StatementGate

variable {R : Registry}

theorem decodeAt_mark (d : Descriptor) (path : String) :
    decodeAt R (.string absentMark) d path = .ok .absent := by
  rw [decodeAt.eq_def, if_pos rfl]

theorem decodeAt_scalar {j : Json} (h : j ≠ .string absentMark) (kind : ScalarKind)
    (path : String) : decodeAt R j (.scalar kind) path = decodeScalar j kind path := by
  rw [decodeAt, if_neg h]

theorem decodeScalar_integer (i : Int64) (path : String) :
    decodeScalar (.int i.toInt) .integer path = .ok (.integer i) := by
  apply (if_pos (fitsInt64_toInt i)).trans
  rw [Int64.ofInt_toInt]

theorem decodeAt_optional {j : Json} (h : j ≠ .string absentMark) (hnull : j ≠ .null)
    (inner : Descriptor) (path : String) :
    decodeAt R j (.optional inner) path = decodeAt R j inner path := by
  rw [decodeAt, if_neg h]
  exact hnull

theorem decodeAt_union {j : Json} (h : j ≠ .string absentMark) (alternatives : List Descriptor)
    (path : String) : decodeAt R j (.union alternatives) path =
      decodeUnion R j (.union alternatives) alternatives [] path := by
  rw [decodeAt, if_neg h]

/-- The alternatives in front that refuse a text are passed over. -/
theorem decodeUnion_of_refused {j : Json} {d : Descriptor} {path : String} {v : Value}
    (h : decodeAt R j d path = .ok v) (union : Descriptor) (after : List Descriptor)
    {before : List Descriptor}
    (hbefore : ∀ b ∈ before, ∃ found problem, decodeAt R j b path = .error (.invalid found problem))
    (reasons : List (Descriptor × Problem)) :
    decodeUnion R j union (before ++ d :: after) reasons path = .ok v := by
  induction before generalizing reasons with
  | nil =>
    rw [List.nil_append, decodeUnion, h]
  | cons b before ih =>
    rw [List.forall_mem_cons] at hbefore
    obtain ⟨found, problem, hrefused⟩ := hbefore.1
    rw [List.cons_append, decodeUnion, hrefused]
    exact ih hbefore.2 _

/-- Wherever it stands, the value is written, and what is written reads as the value. -/
def Rereads (R : Registry) (d : Descriptor) (v : Value) : Prop :=
  ∃ j, (∀ path, v.encodeAt path = .ok j) ∧ ∀ path, decodeAt R j d path = .ok v.reread

namespace Rereads

/-- Whatever JSON was written for the value, it reads as the value. -/
theorem decode_written {d : Descriptor} {v : Value} (h : Rereads R d v) {written : String}
    {j : Json} (hwritten : v.encodeAt written = .ok j) (path : String) :
    decodeAt R j d path = .ok v.reread := by
  obtain ⟨j', hencode, hdecode⟩ := h
  rw [hencode] at hwritten
  cases hwritten
  exact hdecode path

theorem absent (d : Descriptor) : Rereads R d .absent :=
  ⟨_, fun _ => rfl, fun path => decodeAt_mark d path⟩

theorem scalar {kind : ScalarKind} {v : Value} {j : Json} (hmark : j ≠ .string absentMark)
    (hencode : ∀ path, v.encodeAt path = .ok j)
    (hdecode : ∀ path, decodeScalar j kind path = .ok v.reread) : Rereads R (.scalar kind) v := by
  refine ⟨j, hencode, fun path => ?_⟩
  rw [decodeAt_scalar hmark]
  exact hdecode path

theorem decimal (d : Decimal) : Rereads R (.scalar .decimal) (.decimal d) := by
  apply Rereads.scalar
  · exact fun heq => d.render_ne_mark (Json.string.inj heq)
  · exact fun _ => rfl
  · intro path
    rw [decodeScalar, decodeDecimal, d.parse_render_reread]
    rfl

theorem dateTime {t : DateTime} {text : String} (h : t.render = .ok text) :
    Rereads R (.scalar .dateTime) (.dateTime t) := by
  apply Rereads.scalar (j := .string text)
  · intro heq
    rw [Json.string.inj heq] at h
    exact t.render_ne_mark h
  · intro path
    rw [Value.encodeAt, h]
  · intro path
    rw [decodeScalar, DateTime.parse_render h]
    rfl

theorem date (d : Date) : Rereads R (.scalar .date) (.date d) := by
  apply Rereads.scalar
  · exact fun heq => d.render_ne_mark (Json.string.inj heq)
  · exact fun _ => rfl
  · intro path
    rw [decodeScalar, d.parse_render]
    rfl

theorem optional {inner : Descriptor} {v : Value} (h : Rereads R inner v) (habsent : v ≠ .absent)
    (hmark : v ≠ .string absentMark) : Rereads R (.optional inner) v := by
  obtain ⟨j, hencode, hdecode⟩ := h
  refine ⟨j, hencode, fun path => ?_⟩
  have hj := Value.ne_mark_of_encodeAt (hencode path) habsent hmark
  by_cases hnull : j = .null
  · subst hnull
    have hv := Value.encodeAt_eq_null (hencode path)
    subst hv
    rw [decodeAt, if_neg hj]
    rfl
  · rw [decodeAt_optional hj hnull, hdecode]

theorem union {before after : List Descriptor} {d : Descriptor} {v : Value} {j : Json}
    (h : Rereads R d v) (habsent : v ≠ .absent) (hmark : v ≠ .string absentMark)
    (hencode : v.encode = .ok j)
    (hbefore : ∀ b ∈ before, ∃ path problem, decode R j b = .error (.invalid path problem)) :
    Rereads R (.union (before ++ d :: after)) v := by
  have hj := Value.ne_mark_of_encodeAt hencode habsent hmark
  have hdecode := h.decode_written hencode
  obtain ⟨j', hencode', -⟩ := h
  have hsame := (hencode' Path.root).symm.trans hencode
  cases hsame
  refine ⟨j, hencode', fun path => ?_⟩
  rw [decodeAt_union hj]
  apply decodeUnion_of_refused (hdecode path)
  intro b hb
  obtain ⟨_, problem, hrefused⟩ := hbefore b hb
  obtain ⟨found, hfound⟩ := decodeAt_invalid hrefused path
  exact ⟨found, problem, hfound⟩

theorem items {item : Descriptor} {items : List Value} (h : ∀ v ∈ items, Rereads R item v) :
    ∃ js, (∀ index path, Value.encodeItems items index path = .ok js) ∧
      ∀ index path, decodeItems R js item index path = .ok (Value.rereadItems items) := by
  induction items with
  | nil =>
    refine ⟨[], fun _ _ => rfl, fun index path => ?_⟩
    rw [decodeItems]
    rfl
  | cons v items ih =>
    rw [List.forall_mem_cons] at h
    obtain ⟨j, hencode, hdecode⟩ := h.1
    obtain ⟨js, hencodes, hdecodes⟩ := ih h.2
    refine ⟨j :: js, fun index path => ?_, fun index path => ?_⟩
    · rw [Value.encodeItems, hencode, hencodes]
      rfl
    · rw [decodeItems, hdecode, hdecodes]
      rfl

theorem list {item : Descriptor} {items : List Value} (h : ∀ v ∈ items, Rereads R item v) :
    Rereads R (.list item) (.list items) := by
  obtain ⟨js, hencode, hdecode⟩ := Rereads.items h
  refine ⟨.array js, fun path => ?_, fun path => ?_⟩
  · rw [Value.encodeAt, hencode]
    rfl
  · rw [decodeAt, if_neg Json.noConfusion, hdecode]
    rfl

end Rereads

/-- How a field of a record is read from the members: as `v`, or left out. -/
inductive FieldReads (R : Registry) (members : List (String × Json)) (field : FieldSchema) :
    Value → Prop
  | found {j : Json} {v : Value} (hlookup : members.lookup field.name = some j)
      (h : ∀ path, decodeAt R j field.descriptor path = .ok v) : FieldReads R members field v
  | missing (hlookup : members.lookup field.name = none) (hrequired : field.required = false) :
      FieldReads R members field .absent

theorem FieldReads.of_written {members : List (String × Json)} {field : FieldSchema} {v : Value}
    (hwritten : Written v (members.lookup field.name))
    (h : v ≠ .absent → Rereads R field.descriptor v)
    (hrequired : v = .absent → field.required = false) : FieldReads R members field v.reread := by
  cases hmember : members.lookup field.name with
  | none =>
    rw [hmember] at hwritten
    cases hwritten
    exact .missing hmember (hrequired rfl)
  | some j =>
    rw [hmember] at hwritten
    cases hwritten with
    | present habsent hencode =>
      exact .found hmember ((h habsent).decode_written (hencode Path.root))

theorem decodeFields_of_reads {members : List (String × Json)} {value : String → Value}
    {fields : List FieldSchema}
    (h : ∀ field ∈ fields, FieldReads R members field (value field.name))
    (read : List (String × Value)) (path : String) :
    decodeFields R members fields read path =
      .ok ((fields.map fun field => (field.name, value field.name)).foldl
        (fun sorted entry => Entries.put entry.1 entry.2 sorted) read) := by
  induction fields generalizing read with
  | nil =>
    rw [decodeFields]
    rfl
  | cons field rest ih =>
    rw [List.forall_mem_cons] at h
    have hfield := h.1
    rw [List.map_cons, List.foldl_cons, ← ih h.2, decodeFields]
    generalize value field.name = v at hfield ⊢
    cases hfield with
    | @found j _ hlookup hdecode =>
      split
      case h_1 j' hfound =>
        rw [hlookup] at hfound
        cases hfound
        rw [hdecode]
        rfl
      case h_2 hfound =>
        rw [hlookup] at hfound
        cases hfound
    | missing hlookup hrequired =>
      split
      case h_1 j' hfound =>
        rw [hlookup] at hfound
        cases hfound
      case h_2 => rw [hrequired, if_neg Bool.false_ne_true]

/-- The value of a field, read back; absence where the record has none. -/
def rereadField (fields : List (String × Value)) (key : String) : Value :=
  ((fields.lookup key).getD .absent).reread

namespace Rereads

/-- The values of a record's fields, read back, are the entries that decoding puts in. -/
theorem fields {schema : TypeSchema} {fields : List (String × Value)}
    (hdistinct : (schema.fields.map (·.name)).Nodup) (hascending : Entries.Ascending fields)
    (hdeclared : ∀ key, key ∈ fields.map Prod.fst ↔ key ∈ schema.fields.map (·.name)) :
    Entries.ofList (schema.fields.map fun field => (field.name, rereadField fields field.name)) =
      Value.rereadFields fields := by
  apply Entries.Ascending.ext (Entries.ascending_ofList _) (Value.ascending_rereadFields hascending)
  intro key
  rw [Value.lookup_rereadFields]
  have hnames : (schema.fields.map fun field =>
      (field.name, rereadField fields field.name)).map Prod.fst =
      schema.fields.map (·.name) := by
    rw [List.map_map]
    rfl
  by_cases hkey : key ∈ fields.map Prod.fst
  · obtain ⟨field, hfield, rfl⟩ := List.mem_map.1 ((hdeclared key).1 hkey)
    obtain ⟨v, hv⟩ := Option.isSome_iff_exists.1 (Entries.isSome_lookup_iff.2 hkey)
    have hentry := List.mem_map_of_mem (f := fun field : FieldSchema =>
      (field.name, rereadField fields field.name)) hfield
    rw [Entries.ofList, Entries.lookup_putAll_of_mem (hnames ▸ hdistinct) hentry [], rereadField,
      hv]
    rfl
  · have hnone := Entries.isSome_lookup_iff.not.2 hkey
    rw [Option.not_isSome_iff_eq_none] at hnone
    rw [Entries.ofList, Entries.lookup_putAll_of_not_mem _ [], hnone]
    · rfl
    · rw [hnames]
      exact mt (hdeclared key).2 hkey

/-- A record whose declared fields can be written has members for those it has. -/
theorem members_written {schema : TypeSchema} {fields : List (String × Value)}
    (hascending : Entries.Ascending fields)
    (hdeclared : ∀ key, key ∈ fields.map Prod.fst ↔ key ∈ schema.fields.map (·.name))
    (h : ∀ field ∈ schema.fields, ∀ v, (field.name, v) ∈ fields → v ≠ .absent →
      ∃ j, ∀ path, v.encodeAt path = .ok j) :
    ∃ members, (∀ path, Value.encodeFields fields path = .ok members) ∧
      ∀ entry ∈ fields, Written entry.2 (members.lookup entry.1) := by
  have hjson : ∀ entry ∈ fields, entry.2 ≠ .absent → ∃ j, ∀ path, entry.2.encodeAt path = .ok j := by
    intro entry hmem hpresent
    obtain ⟨field, hfield, heq⟩ := List.mem_map.1 ((hdeclared _).1 (List.mem_map_of_mem hmem))
    exact h field hfield entry.2 (heq ▸ hmem) hpresent
  obtain ⟨members, hencode, -, hwritten⟩ :=
    Value.encodeFields_written hascending.keys_nodup hjson
  exact ⟨members, hencode, hwritten⟩

/-- The fields of a record are written under their keys, and each reads as its value. -/
theorem members {schema : TypeSchema} {fields : List (String × Value)}
    (hascending : Entries.Ascending fields)
    (hdeclared : ∀ key, key ∈ fields.map Prod.fst ↔ key ∈ schema.fields.map (·.name))
    (h : ∀ field ∈ schema.fields, ∀ v, (field.name, v) ∈ fields → v ≠ .absent →
      Rereads R field.descriptor v)
    (hrequired : ∀ field ∈ schema.fields, field.required = true → (field.name, .absent) ∉ fields) :
    ∃ members, (∀ path, Value.encodeFields fields path = .ok members) ∧
      ∀ field ∈ schema.fields, FieldReads R members field (rereadField fields field.name) := by
  obtain ⟨members, hencode, hwritten⟩ := members_written hascending hdeclared
    fun field hfield v hmem hpresent =>
      (h field hfield v hmem hpresent).imp fun _ hencode => hencode.1
  refine ⟨members, hencode, ?_⟩
  intro field hfield
  obtain ⟨⟨_, v⟩, hmem, rfl⟩ := List.mem_map.1 ((hdeclared _).2 (List.mem_map_of_mem hfield))
  rw [rereadField, Entries.lookup_of_mem hascending.keys_nodup hmem, Option.getD_some]
  apply FieldReads.of_written (hwritten _ hmem) (h field hfield v hmem)
  rintro rfl
  by_contra hnot
  exact hrequired field hfield (Bool.not_eq_false _ ▸ hnot) hmem

theorem record (hregular : R.Regular) {type : TypeName} {schema : TypeSchema}
    {fields : List (String × Value)} (hlookup : R.lookup type = some schema)
    (hascending : Entries.Ascending fields)
    (hdeclared : ∀ key, key ∈ fields.map Prod.fst ↔ key ∈ schema.fields.map (·.name))
    (h : ∀ field ∈ schema.fields, ∀ v, (field.name, v) ∈ fields → v ≠ .absent →
      Rereads R field.descriptor v)
    (hrequired : ∀ field ∈ schema.fields, field.required = true → (field.name, .absent) ∉ fields)
    (hcheck : ∀ check, schema.construct = some check → check ⟨type, fields⟩ = .ok ()) :
    Rereads R (.named type) (.record type fields) := by
  obtain ⟨members, hencode, hreads⟩ := Rereads.members hascending hdeclared h hrequired
  refine ⟨.object members, fun path => ?_, fun path => ?_⟩
  · rw [Value.encodeAt, hencode]
    rfl
  · have hfields : decodeFields R members schema.fields [] path =
        .ok (Value.rereadFields fields) := by
      rw [← Rereads.fields (hregular.distinct hlookup) hascending hdeclared]
      exact decodeFields_of_reads hreads [] path
    rw [decodeAt, if_neg Json.noConfusion, hlookup]
    dsimp only
    rw [hfields]
    cases hconstruct : schema.construct with
    | none => rfl
    | some check =>
      have hsame : (Value.ofRecord ⟨type, fields⟩).Same
          (.ofRecord ⟨type, Value.rereadFields fields⟩) := Value.same_reread (.record type fields)
      have haccepted := hregular.check hlookup hconstruct hsame (hcheck check hconstruct)
      dsimp only [bind, Except.bind]
      rw [haccepted]
      rfl

end Rereads

theorem Value.Fits.rereads (hregular : R.Regular) {d : Descriptor} {v : Value}
    (h : v.Fits R d) : Rereads R d v := by
  induction h with
  | null => exact .scalar Json.noConfusion (fun _ => rfl) fun _ => rfl
  | bool b => exact .scalar Json.noConfusion (fun _ => rfl) fun _ => rfl
  | integer i => exact .scalar Json.noConfusion (fun _ => rfl) (decodeScalar_integer i)
  | float hfinite => exact .scalar Json.noConfusion (fun _ => if_pos hfinite) fun _ => rfl
  | string hmark =>
    apply Rereads.scalar
    · exact fun heq => hmark (Json.string.inj heq)
    · exact fun _ => rfl
    · exact fun _ => rfl
  | decimal d => exact .decimal d
  | dateTime hyear hday hminute => exact .dateTime (DateTime.render_eq hyear.1 hday hminute)
  | date d => exact .date d
  | optionalNull inner =>
    refine ⟨.null, fun _ => rfl, fun path => ?_⟩
    rw [decodeAt, if_neg Json.noConfusion]
    rfl
  | optional h ih => exact ih.optional h.ne_absent h.ne_mark
  | @list item items _ ih =>
    apply Rereads.list
    intro v hmem
    by_cases habsent : v = .absent
    · subst habsent
      exact .absent item
    · exact ih v hmem habsent
  | record hlookup hascending hdeclared _ hrequired hcheck ih =>
    exact .record hregular hlookup hascending hdeclared ih hrequired hcheck
  | union hencode hbefore h ih => exact ih.union h.ne_absent h.ne_mark hencode hbefore

/-- A conforming value has a JSON, and that reads as the value, decimals compared by number. -/
theorem conforming_roundTrip (hregular : R.Regular) {d : Descriptor} {v : Value}
    (h : v.Conforms R d) : ∃ j w, v.encode = .ok j ∧ decode R j d = .ok w ∧ v.Same w := by
  have hrereads : Rereads R d v := by
    rcases h with rfl | h
    · exact .absent d
    · exact h.rereads hregular
  obtain ⟨j, hencode, hdecode⟩ := hrereads
  exact ⟨j, v.reread, hencode Path.root, hdecode Path.root, v.same_reread⟩

def nodeType : TypeName := ⟨"crm", "Node"⟩

/-- A type that leads back to itself, with a check. -/
def nodeSchema : TypeSchema where
  type := nodeType
  fields := [⟨"label", .scalar .string, true⟩, ⟨"amount", .scalar .decimal, false⟩,
    ⟨"next", .optional (.named nodeType), false⟩,
    ⟨"tags", .list (.union [.scalar .integer, .scalar .string]), true⟩]
  construct := some fun r => if r.fields.isEmpty then .error "no fields" else .ok ()

def nodes : Registry := ⟨KeyMap.ofList [("crm", KeyMap.ofList [("Node", nodeSchema)])]⟩

/-- A registry of one type finds nothing else. -/
theorem Registry.lookup_single {space name : String} {only : TypeSchema} {type : TypeName}
    {schema : TypeSchema}
    (h : Registry.lookup ⟨KeyMap.ofList [(space, KeyMap.ofList [(name, only)])]⟩ type =
      some schema) : schema = only := by
  obtain ⟨names, hspace, hname⟩ := Option.bind_eq_some_iff.1 h
  cases List.mem_singleton.1 (Entries.mem_of_lookup hspace)
  cases List.mem_singleton.1 (Entries.mem_of_lookup hname)
  rfl

theorem nodes_regular : nodes.Regular where
  distinct h := by
    rw [Registry.lookup_single h]
    decide
  check h hconstruct := by
    intro r r' hsame haccepted
    rw [Registry.lookup_single h] at hconstruct
    cases hconstruct
    have hempty : r.fields.isEmpty = r'.fields.isEmpty := by
      rw [← List.isEmpty_map (f := Prod.fst), hsame.keys, List.isEmpty_map]
    dsimp only at haccepted ⊢
    rwa [← hempty]

def node (amount label next tags : Value) : Value :=
  .record nodeType [("amount", amount), ("label", label), ("next", next), ("tags", tags)]

theorem node_fits {amount label next tags : Value}
    (hamount : amount ≠ .absent → amount.Fits nodes (.scalar .decimal))
    (hlabel : label.Fits nodes (.scalar .string))
    (hnext : next ≠ .absent → next.Fits nodes (.optional (.named nodeType)))
    (htags : tags.Fits nodes (.list (.union [.scalar .integer, .scalar .string]))) :
    (node amount label next tags).Fits nodes (.named nodeType) := by
  have hlookup : nodes.lookup nodeType = some nodeSchema := rfl
  apply Value.Fits.record hlookup
  · have hkeys : ["amount", "label", "next", "tags"].Pairwise (· < ·) := by decide
    exact List.pairwise_map.1 hkeys
  · intro key
    simp [nodeSchema]
    tauto
  · intro field hfield v hmem hpresent
    simp only [nodeSchema, List.mem_cons, List.not_mem_nil, or_false] at hfield
    rcases hfield with rfl | rfl | rfl | rfl
    · simp at hmem
      exact hmem ▸ hlabel
    · simp at hmem
      exact hmem ▸ hamount (hmem ▸ hpresent)
    · simp at hmem
      exact hmem ▸ hnext (hmem ▸ hpresent)
    · simp at hmem
      exact hmem ▸ htags
  · simp [nodeSchema, hlabel.ne_absent.symm, htags.ne_absent.symm]
  · intro check hcheck
    cases hcheck
    rfl

theorem tags_fit : (Value.list [.integer 7, .string "seven", .absent]).Fits nodes
    (.list (.union [.scalar .integer, .scalar .string])) := by
  apply Value.Fits.list
  simp only [List.forall_mem_cons]
  refine ⟨fun _ => ?_, fun _ => ?_, fun h => absurd rfl h, fun _ hmem => nomatch hmem⟩
  · exact @Value.Fits.union nodes [] _ _ _ _ rfl (fun _ hmem => nomatch hmem) (.integer 7)
  · apply @Value.Fits.union nodes [.scalar .integer] [] _ _ _ rfl _ (.string (by decide))
    rw [List.forall_mem_singleton]
    refine ⟨Path.root, .mismatch "int" "string", ?_⟩
    rw [decode, decodeAt_scalar (by decide)]
    rfl

/-- A chain of two nodes. The amount of the second is written `50` and reads as another decimal. -/
def chain : Value :=
  node .absent (.string "first")
    (node (.decimal ⟨5, -1⟩) (.string "second") .null
      (.list [.integer 7, .string "seven", .absent]))
    (.list [])

theorem chain_fits : chain.Fits nodes (.named nodeType) := by
  apply node_fits
  · exact fun h => absurd rfl h
  · exact .string (by decide)
  · intro _
    apply Value.Fits.optional
    exact node_fits (fun _ => .decimal _) (.string (by decide)) (fun _ => .optionalNull _) tags_fit
  · exact .list fun _ hmem => nomatch hmem

theorem chain_roundTrip : nodes.Regular ∧ chain.Conforms nodes (.named nodeType) ∧
    ∃ j w, chain.encode = .ok j ∧ decode nodes j (.named nodeType) = .ok w ∧ chain.Same w :=
  ⟨nodes_regular, .inr chain_fits, conforming_roundTrip nodes_regular (.inr chain_fits)⟩

end StatementGate
