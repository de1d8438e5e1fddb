import StatementGate.Proofs.Wire.Inhabits
import StatementGate.Proofs.Wire.Paths
import StatementGate.Proofs.Wire.Positions
import StatementGate.Proofs.Wire.Resolution
import StatementGate.Proofs.Wire.RoundTrip

/-! # Where reading stops

A refusal names a position of the JSON: whatever comes before it is read, and what stands there is
refused on its own for the same reason, or a required field is missing there. A union is refused as a
whole. The other way round, what reading stops at is refused by the name of its position. -/

namespace StatementGate

variable {R : Registry}

/-- Reading comes to the part at a position and the descriptor it is read against: through optionals, to
an item behind items that are read, and to a field behind fields that are read or left out. It comes to
nothing inside a union. -/
inductive ComesTo (R : Registry) : Json → Descriptor → Position → Json → Descriptor → Prop
  | here (j : Json) (d : Descriptor) : ComesTo R j d [] j d
  | optional {j k : Json} {inner d : Descriptor} {p : Position} (hnull : j ≠ .null)
      (h : ComesTo R j inner p k d) : ComesTo R j (.optional inner) p k d
  | item {before after : List Json} {j k : Json} {item d : Descriptor} {p : Position}
      (hbefore : ∀ b ∈ before, Succeeds (decode R b item)) (h : ComesTo R j item p k d) :
      ComesTo R (.array (before ++ j :: after)) (.list item) (.item before.length :: p) k d
  | field {type : TypeName} {schema : TypeSchema} {before after : List FieldSchema}
      {field : FieldSchema} {members : List (String × Json)} {j k : Json} {d : Descriptor}
      {p : Position} (hlookup : R.lookup type = some schema)
      (hfields : schema.fields = before ++ field :: after)
      (hbefore : ∀ b ∈ before, ∃ v, ReadsField R members b v)
      (hmember : members.lookup field.name = some j) (h : ComesTo R j field.descriptor p k d) :
      ComesTo R (.object members) (.named type) (.field field.name :: p) k d

/-- The position is one of the JSON. -/
theorem ComesTo.at {j k : Json} {d d' : Descriptor} {p : Position} (h : ComesTo R j d p k d') :
    j.At p k := by
  induction h with
  | here j d => exact .here j
  | optional _ _ ih => exact ih
  | item _ _ ih => exact .item (by simp) ih
  | field _ _ _ hmember _ ih => exact .field (Entries.mem_of_lookup hmember) ih

/-- Where reading stops, and why: a part is refused on its own, or a required field is missing behind
fields that are read. -/
inductive StopsAt (R : Registry) (j : Json) (d : Descriptor) : Position → Problem → Prop
  | refused {p : Position} {k : Json} {d' : Descriptor} {problem : Problem}
      (h : ComesTo R j d p k d') (hrefused : decode R k d' = .error (.invalid Path.root problem)) :
      StopsAt R j d p problem
  | missing {p : Position} {type : TypeName} {schema : TypeSchema} {before after : List FieldSchema}
      {field : FieldSchema} {members : List (String × Json)}
      (h : ComesTo R j d p (.object members) (.named type))
      (hlookup : R.lookup type = some schema) (hfields : schema.fields = before ++ field :: after)
      (hbefore : ∀ b ∈ before, ∃ v, ReadsField R members b v) (hrequired : field.required = true)
      (hmissing : members.lookup field.name = none) :
      StopsAt R j d (p ++ [.field field.name]) .missing

namespace StopsAt

theorem here {j : Json} {d : Descriptor} {path : String} {problem : Problem}
    (h : decodeAt R j d path = .error (.invalid path problem)) : StopsAt R j d [] problem :=
  .refused (.here j d) (decodeAt_invalid_here h Path.root)

/-- Where reading stops in a part that it comes to, it stops in the whole. -/
theorem lift {j k : Json} {d d' : Descriptor} {p q : Position} {problem : Problem}
    (hstops : StopsAt R k d' q problem)
    (h : ∀ {q : Position} {l : Json} {d'' : Descriptor}, ComesTo R k d' q l d'' →
      ComesTo R j d (p ++ q) l d'') : StopsAt R j d (p ++ q) problem := by
  cases hstops with
  | refused hcomes hrefused => exact .refused (h hcomes) hrefused
  | missing hcomes hlookup hfields hbefore hrequired hmissing =>
    rw [← List.append_assoc]
    exact .missing (h hcomes) hlookup hfields hbefore hrequired hmissing

/-- The position is one of the JSON, up to the name of a field that is missing there. -/
theorem at_or_missing {j : Json} {d : Descriptor} {p : Position} {problem : Problem}
    (h : StopsAt R j d p problem) : (∃ k, j.At p k) ∨
      ∃ q name members, p = q ++ [.field name] ∧ j.At q (.object members) ∧
        members.lookup name = none := by
  cases h with
  | refused h _ => exact .inl ⟨_, h.at⟩
  | missing h _ _ _ _ hmissing => exact .inr ⟨_, _, _, rfl, h.at, hmissing⟩

end StopsAt

/-- Items are read up to the one that is refused. -/
theorem decodeItems_eq_error {items : List Json} {d : Descriptor} {index : Nat} {path : String}
    {e : CodecError} (h : decodeItems R items d index path = .error e) :
    ∃ before j after, items = before ++ j :: after ∧ (∀ b ∈ before, Succeeds (decode R b d)) ∧
      decodeAt R j d (Path.item path (index + before.length)) = .error e := by
  induction items generalizing index with
  | nil =>
    rw [decodeItems] at h
    cases h
  | cons j rest ih =>
    rw [decodeItems] at h
    rcases bind_eq_error.1 h with h | ⟨v, hv, h⟩
    · exact ⟨[], j, rest, rfl, List.forall_mem_nil _, h⟩
    · rcases bind_eq_error.1 h with h | ⟨_, _, h⟩
      · obtain ⟨before, k, after, rfl, hbefore, hk⟩ := ih h
        have hindex : index + 1 + before.length = index + (j :: before).length := by
          rw [List.length_cons]
          omega
        refine ⟨j :: before, k, after, rfl, ?_, hindex ▸ hk⟩
        exact List.forall_mem_cons.2 ⟨⟨v, decodeAt_ok hv Path.root⟩, hbefore⟩
      · cases h

theorem decodeItems_of_refused {before after : List Json} {j : Json} {d : Descriptor} {path : String}
    {e : CodecError} (hbefore : ∀ b ∈ before, Succeeds (decode R b d)) {index : Nat}
    (h : decodeAt R j d (Path.item path (index + before.length)) = .error e) :
    decodeItems R (before ++ j :: after) d index path = .error e := by
  induction before generalizing index with
  | nil =>
    rw [List.length_nil, Nat.add_zero] at h
    rw [List.nil_append, decodeItems, h]
    rfl
  | cons b before ih =>
    rw [List.forall_mem_cons] at hbefore
    obtain ⟨v, hv⟩ := hbefore.1
    have hindex : index + (b :: before).length = index + 1 + before.length := by
      rw [List.length_cons]
      omega
    rw [List.cons_append, decodeItems, decodeAt_ok hv, ih hbefore.2 (hindex ▸ h)]
    rfl

/-- Why a field is not read: its member is refused, or it is required and has none. -/
inductive FieldRefused (R : Registry) (members : List (String × Json)) (field : FieldSchema)
    (path : String) : CodecError → Prop
  | member {j : Json} {e : CodecError} (hmember : members.lookup field.name = some j)
      (h : decodeAt R j field.descriptor (Path.child path field.name) = .error e) :
      FieldRefused R members field path e
  | missing (hmissing : members.lookup field.name = none) (hrequired : field.required = true) :
      FieldRefused R members field path (.invalid (Path.child path field.name) .missing)

/-- A field that is read is put in front of what is read of the others. -/
theorem ReadsField.decodeFields_cons {members : List (String × Json)} {field : FieldSchema}
    {v : Value} (h : ReadsField R members field v) (rest : List FieldSchema)
    (read : List (String × Value)) (path : String) :
    decodeFields R members (field :: rest) read path =
      decodeFields R members rest (Entries.put field.name v read) path := by
  rw [decodeFields]
  rcases h with ⟨j, place, hmember, hv⟩ | ⟨hmissing, hrequired, rfl⟩
  · split
    · rename_i k hk
      cases hmember.symm.trans hk
      rw [decodeAt_ok hv]
      rfl
    · rename_i hnone
      cases hmember.symm.trans hnone
  · split
    · rename_i k hk
      cases hmissing.symm.trans hk
    · rw [hrequired, if_neg Bool.false_ne_true]

theorem FieldRefused.decodeFields_cons {members : List (String × Json)} {field : FieldSchema}
    {path : String} {e : CodecError} (h : FieldRefused R members field path e)
    (rest : List FieldSchema) (read : List (String × Value)) :
    decodeFields R members (field :: rest) read path = .error e := by
  rw [decodeFields]
  cases h with
  | @member j _ hmember hrefused =>
    split
    · rename_i k hk
      cases hmember.symm.trans hk
      rw [hrefused]
      rfl
    · rename_i hnone
      cases hmember.symm.trans hnone
  | missing hmissing hrequired =>
    split
    · rename_i k hk
      cases hmissing.symm.trans hk
    · rw [if_pos hrequired]

/-- A field is read, or there is a reason why it is not. -/
theorem readsField_or_refused (members : List (String × Json)) (field : FieldSchema)
    (path : String) : (∃ v, ReadsField R members field v) ∨ ∃ e, FieldRefused R members field path e := by
  cases hmember : members.lookup field.name with
  | some j =>
    cases hread : decodeAt R j field.descriptor (Path.child path field.name) with
    | ok v => exact .inl ⟨v, .inl ⟨j, _, hmember, hread⟩⟩
    | error e => exact .inr ⟨e, .member hmember hread⟩
  | none =>
    cases hrequired : field.required with
    | false => exact .inl ⟨.absent, .inr ⟨hmember, hrequired, rfl⟩⟩
    | true => exact .inr ⟨_, .missing hmember hrequired⟩

/-- Fields are read or left out up to the one that is refused or missing. -/
theorem decodeFields_eq_error {members : List (String × Json)} {fields : List FieldSchema}
    {read : List (String × Value)} {path : String} {e : CodecError}
    (h : decodeFields R members fields read path = .error e) :
    ∃ before field after, fields = before ++ field :: after ∧
      (∀ b ∈ before, ∃ v, ReadsField R members b v) ∧ FieldRefused R members field path e := by
  induction fields generalizing read with
  | nil =>
    rw [decodeFields] at h
    cases h
  | cons field rest ih =>
    rcases readsField_or_refused members field path with ⟨v, hv⟩ | ⟨e', hrefused⟩
    · rw [hv.decodeFields_cons] at h
      obtain ⟨before, other, after, rfl, hbefore, hother⟩ := ih h
      exact ⟨field :: before, other, after, rfl, List.forall_mem_cons.2 ⟨⟨v, hv⟩, hbefore⟩, hother⟩
    · rw [hrefused.decodeFields_cons] at h
      cases h
      exact ⟨[], field, rest, rfl, List.forall_mem_nil _, hrefused⟩

theorem FieldRefused.decodeFields {members : List (String × Json)} {before after : List FieldSchema}
    {field : FieldSchema} {path : String} {e : CodecError}
    (hbefore : ∀ b ∈ before, ∃ v, ReadsField R members b v)
    (h : FieldRefused R members field path e) (read : List (String × Value)) :
    decodeFields R members (before ++ field :: after) read path = .error e := by
  induction before generalizing read with
  | nil => exact h.decodeFields_cons after read
  | cons b before ih =>
    rw [List.forall_mem_cons] at hbefore
    obtain ⟨v, hv⟩ := hbefore.1
    rw [List.cons_append, hv.decodeFields_cons]
    exact ih hbefore.2 _

/-- A union is refused as a whole. -/
theorem decodeUnion_invalid {j : Json} {union : Descriptor} {alternatives : List Descriptor}
    {reasons : List (Descriptor × Problem)} {path found : String} {problem : Problem}
    (h : decodeUnion R j union alternatives reasons path = .error (.invalid found problem)) :
    found = path := by
  induction alternatives generalizing reasons with
  | nil =>
    rw [decodeUnion] at h
    cases h
    rfl
  | cons d rest ih =>
    rw [decodeUnion] at h
    split at h
    · cases h
    · exact ih h
    · rename_i e hinvalid he
      cases h
      exact absurd rfl (hinvalid found problem)

theorem sizeOf_lt_of_item (before after : List Json) (j : Json) :
    sizeOf j < sizeOf (Json.array (before ++ j :: after)) := by
  have : sizeOf j < sizeOf (before ++ j :: after) := List.sizeOf_lt_of_mem (by simp)
  simp only [Json.array.sizeOf_spec]
  omega

/-- A refusal names the position where reading stops. -/
theorem exists_stopsAt (R : Registry) (j : Json) (d : Descriptor) (path : String) {found : String}
    {problem : Problem} (h : decodeAt R j d path = .error (.invalid found problem)) :
    ∃ p, found = Position.under path p ∧ StopsAt R j d p problem := by
  -- where the error stands at the path itself, reading stops right here
  have hhere : found = path → ∃ p, found = Position.under path p ∧ StopsAt R j d p problem := by
    rintro rfl
    exact ⟨[], rfl, .here h⟩
  rw [decodeAt.eq_def] at h
  by_cases hmark : j = .string absentMark
  · rw [if_pos hmark] at h
    cases h
  rw [if_neg hmark] at h
  cases d with
  | scalar kind =>
    obtain ⟨_, he⟩ := decodeScalar_failsOnly j kind path _ h
    cases he
    exact hhere rfl
  | optional inner =>
    dsimp only at h
    split at h
    · cases h
    · rename_i hnull
      obtain ⟨p, rfl, hstops⟩ := exists_stopsAt R j inner path h
      exact ⟨p, rfl, hstops.lift (p := []) fun hcomes => .optional hnull hcomes⟩
  | list item =>
    cases j with
    | array items =>
      rcases bind_eq_error.1 h with h | ⟨_, _, h⟩
      · obtain ⟨before, k, after, rfl, hbefore, hk⟩ := decodeItems_eq_error h
        have := sizeOf_lt_of_item before after k
        obtain ⟨p, rfl, hstops⟩ := exists_stopsAt R k item _ hk
        rw [Nat.zero_add]
        exact ⟨.item before.length :: p, rfl,
          hstops.lift (p := [.item before.length]) fun hcomes => .item hbefore hcomes⟩
      · cases h
    | _ =>
      cases h
      exact hhere rfl
  | union alternatives => exact hhere (decodeUnion_invalid h)
  | named type =>
    dsimp only at h
    cases hlookup : R.lookup type with
    | none =>
      rw [hlookup] at h
      cases h
    | some schema =>
      rw [hlookup] at h
      cases j with
      | object members =>
        rcases bind_eq_error.1 h with h | ⟨fields, _, h⟩
        · obtain ⟨before, field, after, hfields, hbefore, hrefused⟩ := decodeFields_eq_error h
          cases hrefused with
          | member hmember hk =>
            have := sizeOf_lt_of_member hmember
            obtain ⟨p, rfl, hstops⟩ := exists_stopsAt R _ field.descriptor _ hk
            exact ⟨.field field.name :: p, rfl, hstops.lift (p := [.field field.name])
              fun hcomes => .field hlookup hfields hbefore hmember hcomes⟩
          | missing hmissing hrequired =>
            exact ⟨[.field field.name], rfl,
              .missing (p := []) (.here _ _) hlookup hfields hbefore hrequired hmissing⟩
        · split at h
          · cases h
          · split at h
            · cases h
            · cases h
              exact hhere rfl
      | _ =>
        cases h
        exact hhere rfl
termination_by (sizeOf j, sizeOf d)

theorem decodeAt_object {type : TypeName} {schema : TypeSchema} {members : List (String × Json)}
    {path : String} {e : CodecError} (hlookup : R.lookup type = some schema)
    (h : decodeFields R members schema.fields [] path = .error e) :
    decodeAt R (.object members) (.named type) path = .error e := by
  rw [decodeAt, if_neg Json.noConfusion, hlookup]
  dsimp only
  rw [h]
  rfl

/-- What is refused somewhere in a part that reading comes to is refused there in the whole. -/
theorem ComesTo.refused {j k : Json} {d d' : Descriptor} {p q : Position} {problem : Problem}
    (h : ComesTo R j d p k d')
    (hk : ∀ path, decodeAt R k d' path = .error (.invalid (Position.under path q) problem))
    (path : String) :
    decodeAt R j d path = .error (.invalid (Position.under path (p ++ q)) problem) := by
  induction h generalizing path with
  | here => exact hk path
  | @optional j _ _ _ _ hnull _ ih =>
    have hinner := ih hk path
    by_cases hmark : j = .string absentMark
    · rw [hmark, decodeAt_mark] at hinner
      cases hinner
    · rw [decodeAt_optional hmark hnull]
      exact hinner
  | @item before _ j _ item _ _ hbefore _ ih =>
    have hitem := ih hk (Path.item path before.length)
    rw [← Nat.zero_add before.length] at hitem
    rw [decodeAt, if_neg Json.noConfusion, decodeItems_of_refused hbefore hitem, Nat.zero_add]
    rfl
  | field hlookup hfields hbefore hmember _ ih =>
    apply decodeAt_object hlookup
    rw [hfields]
    exact FieldRefused.decodeFields hbefore (.member hmember (ih hk _)) []

theorem StopsAt.refuses {j : Json} {d : Descriptor} {p : Position} {problem : Problem}
    (h : StopsAt R j d p problem) : decode R j d = .error (.invalid p.path problem) := by
  cases h with
  | @refused _ k d' _ hcomes hrefused =>
    have hk (path : String) := decodeAt_invalid_here hrefused path
    have hwhole := hcomes.refused (q := []) hk Path.root
    rwa [List.append_nil] at hwhole
  | missing hcomes hlookup hfields hbefore hrequired hmissing =>
    refine hcomes.refused (fun path => decodeAt_object hlookup ?_) Path.root
    rw [hfields]
    exact FieldRefused.decodeFields hbefore (.missing hmissing hrequired) []

/-- A refusal names the position where reading stops, which is one of the JSON or that of a missing
field, and where reading stops there is that refusal. -/
theorem refused_where_reading_stops (R : Registry) (j : Json) (d : Descriptor) (path : String)
    (problem : Problem) : decode R j d = .error (.invalid path problem) ↔
      ∃ p : Position, path = p.path ∧ StopsAt R j d p problem ∧
        ((∃ k, j.At p k) ∨ ∃ q name members, p = q ++ [.field name] ∧ j.At q (.object members) ∧
          members.lookup name = none) := by
  constructor
  · intro h
    obtain ⟨p, hpath, hstops⟩ := exists_stopsAt R j d Path.root h
    exact ⟨p, hpath, hstops, hstops.at_or_missing⟩
  · rintro ⟨p, rfl, hstops, -⟩
    exact hstops.refuses

/-- The author's name is read, and of the first book the title is refused, which stands behind another
member but is declared first. -/
theorem untitled_refused : decode library untitledText (.list (.named authorType)) =
    .error (.invalid "$[0].books[0].title" (.mismatch "str" "number")) := by
  have hauthor : library.lookup authorType = some authorSchema := rfl
  have hbook : library.lookup bookType = some bookSchema := rfl
  have htitle : ComesTo library untitledText (.list (.named authorType))
      [.item 0, .field "books", .item 0, .field "title"] (.int 7) (.scalar .string) := by
    refine @ComesTo.item _ [] _ _ _ _ _ _ (List.forall_mem_nil _) ?_
    refine @ComesTo.field _ _ _ [⟨"name", .scalar .string, true⟩] _ _ _ _ _ _ _ hauthor rfl ?_ rfl ?_
    · rw [List.forall_mem_singleton]
      refine ⟨.string "Ann", .inl ⟨.string "Ann", Path.root, rfl, ?_⟩⟩
      rw [decodeAt_scalar (by decide)]
      rfl
    · refine @ComesTo.item _ [] _ _ _ _ _ _ (List.forall_mem_nil _) ?_
      exact @ComesTo.field _ _ _ [] _ _ _ _ _ _ _ hbook rfl (List.forall_mem_nil _) rfl (.here _ _)
  apply (refused_where_reading_stops library untitledText _ _ _).2
  refine ⟨_, rfl, .refused htitle ?_, .inl ⟨_, htitle.at⟩⟩
  rw [decode, decodeAt_scalar (by simp [Json.int])]
  rfl

end StatementGate
