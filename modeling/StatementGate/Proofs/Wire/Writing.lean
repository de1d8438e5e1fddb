import StatementGate.Proofs.Wire.Encoding
import StatementGate.Proofs.Wire.Positions

/-! # What is written and what cannot be

A value is written unless a float in it is no number or a moment lies outside the range of its text, and
is refused at the first of these. The JSON has the parts of the value in their places. Absence is left
out where it is a field, and is the mark only at the root and among the items of a list. -/

namespace StatementGate

namespace Value

/-- The value on its own has a JSON, whatever the parts of it do. -/
def Writable : Value → Prop
  | .float x => x.isFinite = true
  | .dateTime t => (0 ≤ t.date.year ∧ t.date.year ≤ 9999) ∧ t.offset.natAbs < 24 * 3600 ∧
      t.offset % 60 = 0
  | _ => True

/-- The fields that a record writes. -/
def presentFields (fields : List (String × Value)) : List (String × Value) :=
  fields.filter fun field => !field.2.isAbsent

/-- The JSON of a value, part by part. -/
inductive Mirrors : Value → Json → Prop
  | null : Mirrors .null .null
  | absent : Mirrors .absent (.string absentMark)
  | bool (b : Bool) : Mirrors (.bool b) (.bool b)
  | integer (i : Int64) : Mirrors (.integer i) (.int i.toInt)
  | float {x : Binary64} (hfinite : x.isFinite = true) : Mirrors (.float x) (.number (.float x))
  | string (s : String) : Mirrors (.string s) (.string s)
  | decimal (d : Decimal) : Mirrors (.decimal d) (.string d.render)
  | dateTime {t : DateTime} {text : String} (h : t.render = .ok text) :
      Mirrors (.dateTime t) (.string text)
  | date (d : Date) : Mirrors (.date d) (.string d.render)
  | list {items : List Value} {js : List Json} (h : List.Forall₂ Mirrors items js) :
      Mirrors (.list items) (.array js)
  | record {type : TypeName} {fields : List (String × Value)} {members : List (String × Json)}
      (hkeys : members.map Prod.fst = (presentFields fields).map Prod.fst)
      (h : List.Forall₂ Mirrors ((presentFields fields).map Prod.snd) (members.map Prod.snd)) :
      Mirrors (.record type fields) (.object members)

theorem presentFields_cons (field : String × Value) (rest : List (String × Value)) :
    presentFields (field :: rest) =
      if field.2.isAbsent then presentFields rest else field :: presentFields rest := by
  cases habsent : field.2.isAbsent <;> simp [presentFields, habsent]

theorem mem_presentFields {fields : List (String × Value)} {field : String × Value} :
    field ∈ presentFields fields ↔ field ∈ fields ∧ field.2 ≠ .absent := by
  simp [presentFields, ← isAbsent_iff]

mutual

theorem mirrors_of_encodeAt : (v : Value) → ∀ {path j}, v.encodeAt path = .ok j → v.Mirrors j
  | .float x, path, j, h => by
    have hj := encodeAt_float h
    subst hj
    rw [encodeAt] at h
    split at h
    · rename_i hfinite
      exact .float hfinite
    · cases h
  | .dateTime t, path, j, h => by
    obtain ⟨text, hrender, rfl⟩ := encodeAt_dateTime h
    exact .dateTime hrender
  | .list items, path, j, h => by
    obtain ⟨js, hjs, h⟩ := bind_eq_ok.1 h
    cases h
    exact .list (mirrors_of_encodeItems items hjs)
  | .record type fields, path, j, h => by
    obtain ⟨members, hmembers, h⟩ := bind_eq_ok.1 h
    cases h
    obtain ⟨hkeys, hvalues⟩ := mirrors_of_encodeFields fields hmembers
    exact .record hkeys hvalues
  | .null, _, _, h => by cases h; exact .null
  | .absent, _, _, h => by cases h; exact .absent
  | .bool b, _, _, h => by cases h; exact .bool b
  | .integer i, _, _, h => by cases h; exact .integer i
  | .string s, _, _, h => by cases h; exact .string s
  | .decimal d, _, _, h => by cases h; exact .decimal d
  | .date d, _, _, h => by cases h; exact .date d

theorem mirrors_of_encodeItems : (items : List Value) → ∀ {index path js},
    encodeItems items index path = .ok js → List.Forall₂ Mirrors items js
  | [], _, _, _, h => by
    cases h
    exact .nil
  | v :: rest, index, path, js, h => by
    obtain ⟨j, hj, h⟩ := bind_eq_ok.1 h
    obtain ⟨others, hothers, h⟩ := bind_eq_ok.1 h
    cases h
    exact .cons (mirrors_of_encodeAt v hj) (mirrors_of_encodeItems rest hothers)

theorem mirrors_of_encodeFields : (fields : List (String × Value)) → ∀ {path members},
    encodeFields fields path = .ok members →
      members.map Prod.fst = (presentFields fields).map Prod.fst ∧
        List.Forall₂ Mirrors ((presentFields fields).map Prod.snd) (members.map Prod.snd)
  | [], _, _, h => by
    cases h
    exact ⟨rfl, .nil⟩
  | (key, v) :: rest, path, members, h => by
    rw [encodeFields] at h
    rw [presentFields_cons]
    by_cases habsent : v.isAbsent
    · rw [if_pos habsent] at h ⊢
      exact mirrors_of_encodeFields rest h
    · rw [if_neg habsent] at h ⊢
      obtain ⟨j, hj, h⟩ := bind_eq_ok.1 h
      obtain ⟨others, hothers, h⟩ := bind_eq_ok.1 h
      cases h
      obtain ⟨hkeys, hvalues⟩ := mirrors_of_encodeFields rest hothers
      exact ⟨congrArg (key :: ·) hkeys, .cons (mirrors_of_encodeAt v hj) hvalues⟩

end

mutual

/-- A value is written as the JSON that mirrors it, wherever it stands. -/
theorem Mirrors.encodeAt : (v : Value) → ∀ {j}, v.Mirrors j → ∀ path, v.encodeAt path = .ok j
  | .float x, _, h, _ => by
    cases h with
    | float hfinite => exact if_pos hfinite
  | .dateTime t, _, h, path => by
    cases h with
    | dateTime hrender => rw [Value.encodeAt, hrender]
  | .list items, _, h, path => by
    cases h with
    | list h =>
      rw [Value.encodeAt, encodeItems_of_mirrors items h]
      rfl
  | .record type fields, _, h, path => by
    cases h with
    | record hkeys h =>
      rw [Value.encodeAt, encodeFields_of_mirrors fields hkeys h]
      rfl
  | .null, _, h, _ => by cases h; rfl
  | .absent, _, h, _ => by cases h; rfl
  | .bool b, _, h, _ => by cases h; rfl
  | .integer i, _, h, _ => by cases h; rfl
  | .string s, _, h, _ => by cases h; rfl
  | .decimal d, _, h, _ => by cases h; rfl
  | .date d, _, h, _ => by cases h; rfl

theorem encodeItems_of_mirrors : (items : List Value) → ∀ {js}, List.Forall₂ Mirrors items js →
    ∀ index path, encodeItems items index path = .ok js
  | [], _, h, _, _ => by
    cases h
    rfl
  | v :: rest, _, h, index, path => by
    cases h with
    | cons hv h =>
      rw [encodeItems, Mirrors.encodeAt v hv, encodeItems_of_mirrors rest h]
      rfl

theorem encodeFields_of_mirrors : (fields : List (String × Value)) → ∀ {members},
    members.map Prod.fst = (presentFields fields).map Prod.fst →
      List.Forall₂ Mirrors ((presentFields fields).map Prod.snd) (members.map Prod.snd) →
        ∀ path, encodeFields fields path = .ok members
  | [], members, hkeys, _, _ => by
    cases List.map_eq_nil_iff.1 hkeys
    rfl
  | (key, v) :: rest, members, hkeys, h, path => by
    rw [presentFields_cons] at hkeys h
    rw [encodeFields]
    by_cases habsent : v.isAbsent
    · rw [if_pos habsent] at hkeys h ⊢
      exact encodeFields_of_mirrors rest hkeys h path
    · rw [if_neg habsent] at hkeys h ⊢
      cases members with
      | nil => cases hkeys
      | cons member members =>
        obtain ⟨k, j⟩ := member
        obtain ⟨rfl, hothers⟩ := List.cons.inj hkeys
        obtain ⟨hv, hrest⟩ := List.forall₂_cons.1 h
        rw [Mirrors.encodeAt v hv, encodeFields_of_mirrors rest hothers hrest]
        rfl

end

/-- The part of a list that a JSON item mirrors stands at the same index. -/
theorem exists_mirrored_item {items : List Value} {js : List Json}
    (h : List.Forall₂ Mirrors items js) {index : Nat} {j : Json} (hj : js[index]? = some j) :
    ∃ v, items[index]? = some v ∧ v.Mirrors j := by
  induction h generalizing index with
  | nil => cases hj
  | @cons v j' items js hv _ ih =>
    cases index with
    | zero =>
      cases hj
      exact ⟨v, rfl, hv⟩
    | succ index => exact ih hj

theorem exists_mirrored_field {fields : List (String × Value)} {members : List (String × Json)}
    (hkeys : members.map Prod.fst = fields.map Prod.fst)
    (h : List.Forall₂ Mirrors (fields.map Prod.snd) (members.map Prod.snd)) {name : String}
    {j : Json} (hmem : (name, j) ∈ members) : ∃ v, (name, v) ∈ fields ∧ v.Mirrors j := by
  induction members generalizing fields with
  | nil => cases hmem
  | cons member rest ih =>
    cases fields with
    | nil => cases hkeys
    | cons field fields =>
      obtain ⟨hkey, hkeys⟩ := List.cons.inj hkeys
      obtain ⟨hv, h⟩ := List.forall₂_cons.1 h
      rcases List.mem_cons.1 hmem with heq | hmem
      · subst heq
        exact ⟨field.2, List.mem_cons.2 (.inl (Prod.ext hkey rfl)), hv⟩
      · obtain ⟨v, hfield, hv⟩ := ih hkeys h hmem
        exact ⟨v, List.mem_cons_of_mem field hfield, hv⟩

/-- Every part of a value that has a JSON can be written. -/
theorem Mirrors.writable {v w : Value} {p : Position} (hat : v.At p w) {j : Json}
    (h : v.Mirrors j) : w.Writable := by
  induction hat generalizing j with
  | here v =>
    cases h with
    | float hfinite => exact hfinite
    | @dateTime t text h =>
      obtain ⟨hyear, hday, hminute⟩ := DateTime.bounds_of_render h
      exact ⟨⟨hyear, t.date.year_bounds.2⟩, hday, hminute⟩
    | _ => trivial
  | item hitem _ ih =>
    cases h with
    | list h =>
      obtain ⟨j, -, hv⟩ := exists_of_mem_forall₂ h.flip (List.mem_of_getElem? hitem)
      exact ih hv
  | @field type fields name v w p hfield hat ih =>
    cases h with
    | record hkeys h =>
      by_cases habsent : v = .absent
      · subst habsent
        cases hat
        trivial
      · have hpresent := List.mem_map_of_mem (f := Prod.snd)
          (mem_presentFields.2 ⟨hfield, habsent⟩)
        obtain ⟨j, -, hv⟩ := exists_of_mem_forall₂ h.flip hpresent
        exact ih hv

theorem Mirrors.eq_mark {v : Value} {j : Json} (h : v.Mirrors j) (hj : j = .string absentMark) :
    v = .absent ∨ v = .string absentMark := by
  cases h with
  | absent => exact .inl rfl
  | string s => exact .inr (congrArg _ (Json.string.inj hj))
  | decimal d => exact absurd (Json.string.inj hj) d.render_ne_mark
  | @dateTime t text h => exact absurd (Json.string.inj hj ▸ h) t.render_ne_mark
  | date d => exact absurd (Json.string.inj hj) d.render_ne_mark
  | _ => cases hj

/-- Where no text looks like it, the mark is written for nothing but absence, at the root or as an
item. -/
theorem Mirrors.mark_at {j k : Json} {p : Position} (hat : j.At p k) (hk : k = .string absentMark)
    {v : Value} (h : v.Mirrors j) (hplain : ∀ q, ¬v.At q (.string absentMark)) :
    v.At p .absent ∧ (p = [] ∨ ∃ q index, p = q ++ [.item index]) := by
  induction hat generalizing v with
  | here j =>
    rcases h.eq_mark hk with rfl | rfl
    · exact ⟨.here _, .inl rfl⟩
    · exact absurd (.here _) (hplain [])
  | @item items index j k p hitem hat ih =>
    cases h with
    | list h =>
      obtain ⟨v, hv, hmirrors⟩ := exists_mirrored_item h hitem
      obtain ⟨habsent, hend⟩ := ih hk hmirrors fun q hq => hplain _ (.item hv hq)
      refine ⟨.item hv habsent, .inr ?_⟩
      rcases hend with rfl | ⟨q, last, rfl⟩
      · exact ⟨[], index, rfl⟩
      · exact ⟨.item index :: q, last, rfl⟩
  | @field members name j k p hmember hat ih =>
    cases h with
    | record hkeys h =>
      obtain ⟨v, hv, hmirrors⟩ := exists_mirrored_field hkeys h hmember
      obtain ⟨hfield, hpresent⟩ := mem_presentFields.1 hv
      obtain ⟨habsent, hend⟩ := ih hk hmirrors fun q hq => hplain _ (.field hfield hq)
      refine ⟨.field hfield habsent, .inr ?_⟩
      rcases hend with rfl | ⟨q, last, rfl⟩
      · cases habsent
        exact absurd rfl hpresent
      · exact ⟨.field name :: q, last, rfl⟩

/-- The items are written up to the one that is refused. -/
theorem encodeItems_eq_error {items : List Value} {index : Nat} {path : String} {e : CodecError}
    (h : encodeItems items index path = .error e) :
    ∃ before v after, items = before ++ v :: after ∧ (∀ b ∈ before, ∃ j, b.Mirrors j) ∧
      v.encodeAt (Path.item path (index + before.length)) = .error e := by
  induction items generalizing index with
  | nil => cases h
  | cons v rest ih =>
    rw [encodeItems] at h
    rcases bind_eq_error.1 h with h | ⟨j, hj, h⟩
    · exact ⟨[], v, rest, rfl, List.forall_mem_nil _, h⟩
    · rcases bind_eq_error.1 h with h | ⟨_, _, h⟩
      · obtain ⟨before, w, after, rfl, hbefore, hw⟩ := ih h
        have hindex : index + 1 + before.length = index + (v :: before).length := by
          rw [List.length_cons]
          omega
        refine ⟨v :: before, w, after, rfl, ?_, hindex ▸ hw⟩
        exact List.forall_mem_cons.2 ⟨⟨j, mirrors_of_encodeAt v hj⟩, hbefore⟩
      · cases h

/-- The fields are written or left out up to the one that is refused. -/
theorem encodeFields_eq_error {fields : List (String × Value)} {path : String} {e : CodecError}
    (h : encodeFields fields path = .error e) :
    ∃ before key v after, fields = before ++ (key, v) :: after ∧
      (∀ b ∈ before, b.2 = .absent ∨ ∃ j, b.2.Mirrors j) ∧
      v.encodeAt (Path.child path key) = .error e := by
  induction fields with
  | nil => cases h
  | cons field rest ih =>
    obtain ⟨key, v⟩ := field
    rw [encodeFields] at h
    by_cases habsent : v.isAbsent
    · rw [if_pos habsent] at h
      obtain ⟨before, key', w, after, rfl, hbefore, hw⟩ := ih h
      refine ⟨(key, v) :: before, key', w, after, rfl, ?_, hw⟩
      exact List.forall_mem_cons.2 ⟨.inl (isAbsent_iff.1 habsent), hbefore⟩
    · rw [if_neg habsent] at h
      rcases bind_eq_error.1 h with h | ⟨j, hj, h⟩
      · exact ⟨[], key, v, rest, rfl, List.forall_mem_nil _, h⟩
      · rcases bind_eq_error.1 h with h | ⟨_, _, h⟩
        · obtain ⟨before, key', w, after, rfl, hbefore, hw⟩ := ih h
          refine ⟨(key, v) :: before, key', w, after, rfl, ?_, hw⟩
          exact List.forall_mem_cons.2 ⟨.inr ⟨j, mirrors_of_encodeAt v hj⟩, hbefore⟩
        · cases h

/-- A part that cannot be written stands at the position, and every other one behind it. -/
structure FirstUnwritable (v : Value) (p : Position) : Prop where
  unwritable : ∃ w, v.At p w ∧ ¬w.Writable
  first : ∀ {q w}, v.At q w → ¬w.Writable → q = p ∨ p.Before q

namespace FirstUnwritable

theorem here {v : Value} (h : ¬v.Writable) : v.FirstUnwritable [] where
  unwritable := ⟨v, .here v, h⟩
  first hat _ := by
    cases hat with
    | here => exact .inl rfl
    | item => exact absurd trivial h
    | field => exact absurd trivial h

theorem item {before after : List Value} {v : Value} {p : Position}
    (hbefore : ∀ b ∈ before, ∃ j, b.Mirrors j) (h : v.FirstUnwritable p) :
    (list (before ++ v :: after)).FirstUnwritable (.item before.length :: p) where
  unwritable := by
    obtain ⟨w, hat, hw⟩ := h.unwritable
    exact ⟨w, .item (by simp) hat, hw⟩
  first hat hw := by
    cases hat with
    | here => exact absurd trivial hw
    | @item _ index u _ q hitem hat =>
      rcases Nat.lt_trichotomy index before.length with hlt | rfl | hgt
      · rw [List.getElem?_append_left hlt] at hitem
        obtain ⟨j, hj⟩ := hbefore u (List.mem_of_getElem? hitem)
        exact absurd (hj.writable hat) hw
      · rw [List.getElem?_append_right (Nat.le_refl _), Nat.sub_self] at hitem
        cases hitem
        rcases h.first hat hw with rfl | hlater
        · exact .inl rfl
        · exact .inr (.inner _ hlater)
      · exact .inr (.item hgt p q)

theorem field {type : TypeName} {before after : List (String × Value)} {key : String} {v : Value}
    {p : Position} (hascending : Entries.Ascending (before ++ (key, v) :: after))
    (hbefore : ∀ b ∈ before, b.2 = .absent ∨ ∃ j, b.2.Mirrors j) (h : v.FirstUnwritable p) :
    (record type (before ++ (key, v) :: after)).FirstUnwritable (.field key :: p) where
  unwritable := by
    obtain ⟨w, hat, hw⟩ := h.unwritable
    exact ⟨w, .field (by simp) hat, hw⟩
  first hat hw := by
    cases hat with
    | here => exact absurd trivial hw
    | @field _ _ name u _ q hfield hat =>
      rcases List.mem_append.1 hfield with hmem | hmem
      · rcases hbefore _ hmem with habsent | ⟨j, hj⟩
        · dsimp only at habsent
          subst habsent
          cases hat
          exact absurd trivial hw
        · exact absurd (hj.writable hat) hw
      · rcases List.mem_cons.1 hmem with heq | hmem
        · cases heq
          rcases h.first hat hw with rfl | hlater
          · exact .inl rfl
          · exact .inr (.inner _ hlater)
        · have hbehind := (List.pairwise_append.1 hascending).2.1
          exact .inr (.field (Entries.Ascending.head_lt hbehind _ hmem) p q)

end FirstUnwritable

theorem sizeOf_lt_of_field (type : TypeName) {fields : List (String × Value)} {key : String}
    {v : Value} (h : (key, v) ∈ fields) : sizeOf v < sizeOf (record type fields) := by
  have := List.sizeOf_lt_of_mem h
  simp at this ⊢
  omega

/-- A value is refused at the first part that cannot be written. -/
theorem exists_firstUnwritable (v : Value) {path : String} {e : CodecError} (hordered : v.Ordered)
    (h : v.encodeAt path = .error e) :
    ∃ p problem, e = .invalid (Position.under path p) problem ∧ v.FirstUnwritable p := by
  cases v with
  | float x =>
    rw [encodeAt] at h
    split at h
    · cases h
    · rename_i hfinite
      cases h
      exact ⟨[], _, rfl, .here hfinite⟩
  | dateTime t =>
    rw [encodeAt] at h
    split at h
    · cases h
    · rename_i cause hrender
      cases h
      refine ⟨[], _, rfl, .here ?_⟩
      rintro ⟨hyear, hday, hminute⟩
      rw [DateTime.render_eq hyear.1 hday hminute] at hrender
      cases hrender
  | list items =>
    rw [encodeAt] at h
    rcases bind_eq_error.1 h with h | ⟨_, _, h⟩
    · obtain ⟨before, w, after, rfl, hbefore, hw⟩ := encodeItems_eq_error h
      have hmem : w ∈ before ++ w :: after := by simp
      have := List.sizeOf_lt_of_mem hmem
      obtain ⟨p, problem, rfl, hfirst⟩ := exists_firstUnwritable w (hordered.item hmem) hw
      refine ⟨.item before.length :: p, problem, ?_, hfirst.item hbefore⟩
      rw [Nat.zero_add, Position.under]
    · cases h
  | record type fields =>
    rw [encodeAt] at h
    rcases bind_eq_error.1 h with h | ⟨_, _, h⟩
    · obtain ⟨before, key, w, after, rfl, hbefore, hw⟩ := encodeFields_eq_error h
      have hmem : (key, w) ∈ before ++ (key, w) :: after := by simp
      have := sizeOf_lt_of_field type hmem
      obtain ⟨p, problem, rfl, hfirst⟩ := exists_firstUnwritable w (hordered.field hmem) hw
      exact ⟨.field key :: p, problem, rfl, hfirst.field (hordered (.here _)) hbefore⟩
    · cases h
  | _ => cases h
termination_by sizeOf v

/-- A value is written exactly if all its parts can be, and else refused at the first that cannot. What
is written has the parts in their places, and the mark nowhere but for absence at the root or in a list,
unless a text looks like the mark. A row is written as a record is. -/
theorem written_exactly {v : Value} (hordered : v.Ordered) :
    (Succeeds v.encode ↔ ∀ p w, v.At p w → w.Writable) ∧
      (∀ e, v.encode = .error e →
        ∃ p problem, e = .invalid (Position.path p) problem ∧ v.FirstUnwritable p) ∧
      (∀ j, v.encode = .ok j → v.Mirrors j ∧
        ((∀ p, ¬v.At p (.string absentMark)) → ∀ p, j.At p (.string absentMark) →
          v.At p .absent ∧ (p = [] ∨ ∃ q index, p = q ++ [.item index]))) ∧
      ∀ type row, v = .record type row → Row.encode row = v.encode := by
  have hrefused : ∀ e, v.encode = .error e →
      ∃ p problem, e = .invalid (Position.path p) problem ∧ v.FirstUnwritable p :=
    fun e h => exists_firstUnwritable v hordered h
  refine ⟨⟨?_, fun hall => ?_⟩, hrefused, fun j h => ?_, ?_⟩
  · rintro ⟨j, hj⟩ p w hat
    exact (mirrors_of_encodeAt v hj).writable hat
  · cases hencode : v.encode with
    | ok j => exact succeeds_ok j
    | error e =>
      obtain ⟨p, _, _, hfirst⟩ := hrefused e hencode
      obtain ⟨w, hat, hw⟩ := hfirst.unwritable
      exact absurd (hall p w hat) hw
  · have hmirrors := mirrors_of_encodeAt v h
    exact ⟨hmirrors, fun hplain p hat => hmirrors.mark_at hat rfl hplain⟩
  · rintro type row rfl
    rfl

/-- A measurement with an absent and a null field, a gap among its samples, and two parts that cannot be
written: a sample and, behind it, the moment. -/
def measurement : Value :=
  .record ⟨"lab", "Measurement"⟩ [("by", .absent), ("note", .null),
    ("samples", .list [.float (.zero false), .absent, .float (.nan false)]),
    ("taken", .dateTime ⟨⟨-44, 3, 15, by decide, by decide, by decide⟩, 11, 7, 5, 0, 3600, by decide,
      by decide⟩)]

theorem measurement_ordered : measurement.Ordered := by
  intro p type fields hat
  cases hat with
  | here =>
    have hkeys : ["by", "note", "samples", "taken"].Pairwise (· < ·) := by decide
    exact List.pairwise_map.1 hkeys
  | field hfield hat =>
    -- the only part with parts of its own is the list of samples, and none of these is a record
    simp at hfield
    rcases hfield with ⟨-, rfl⟩ | ⟨-, rfl⟩ | ⟨-, rfl⟩ | ⟨-, rfl⟩
    · cases hat
    · cases hat
    · cases hat with
      | item hitem hat =>
        have hmem := List.mem_of_getElem? hitem
        simp at hmem
        rcases hmem with rfl | rfl | rfl <;> cases hat
    · cases hat

theorem measurement_refused : measurement.Ordered ∧
    measurement.encode = .error (.invalid "$.samples[2]" .notFinite) ∧
    ∃ p, Position.path p = "$.samples[2]" ∧ measurement.FirstUnwritable p := by
  have hrefused : measurement.encode = .error (.invalid "$.samples[2]" .notFinite) := rfl
  obtain ⟨p, problem, he, hfirst⟩ := (written_exactly measurement_ordered).2.1 _ hrefused
  exact ⟨measurement_ordered, hrefused, p, (CodecError.invalid.inj he).1.symm, hfirst⟩

end Value

end StatementGate
