import Mathlib.Data.List.Nodup
import StatementGate.Json.Record
import StatementGate.Proofs.Lookup
import StatementGate.Proofs.Outcome

/-! # Objects that read as they are

A record's object without repeated or unknown members is read member by member, the entries of a
map read as that map, and JSON in key order is already normal. -/

namespace StatementGate

namespace RecordShape

theorem length_filter_key_le {members : List (String × Json)}
    (hdistinct : (members.map Prod.fst).Nodup) (name : String) :
    (members.filter (·.1 == name)).length ≤ 1 := by
  have hcount := List.nodup_iff_count_le_one.1 hdistinct name
  rwa [List.count_eq_countP, List.countP_map, List.countP_eq_length_filter] at hcount

/-- An object of distinct known members is read as it is, when only fields with a default are
missing. -/
theorem read?_object {shape : RecordShape} {members : List (String × Json)}
    (hdistinct : (members.map Prod.fst).Nodup)
    (hknown : ∀ member ∈ members, member.1 ∈ shape.names)
    (hpresent : ∀ field ∈ shape.fields, field.2 ≠ .defaulted → field.1 ∈ members.map Prod.fst) :
    shape.read? (.object members) = some (.object members) := by
  have hall : members.filter (fun member => shape.names.contains member.1) = members := by
    rw [List.filter_eq_self]
    exact fun member hmem => List.contains_iff_mem.2 (hknown member hmem)
  have hrepeated : (shape.names.any fun name =>
      decide (1 < (members.filter (·.1 == name)).length)) = false := by
    rw [List.any_eq_false]
    intro name _
    simpa using length_filter_key_le hdistinct name
  have hmissing : ∀ field ∈ shape.fields.filter (fun field => !members.any (·.1 == field.1)),
      field.2 = .defaulted := by
    intro field hfield
    obtain ⟨hfield, habsent⟩ := List.mem_filter.1 hfield
    by_contra hnot
    obtain ⟨member, hmem, heq⟩ := List.mem_map.1 (hpresent field hfield hnot)
    simp only [Bool.not_eq_true', List.any_eq_false, beq_iff_eq] at habsent
    exact habsent member hmem heq
  simp only [read?, fromMembers]
  rw [hall, hrepeated]
  generalize shape.fields.filter (fun field => !members.any (·.1 == field.1)) = missing at hmissing ⊢
  have hrequired : missing.any (·.2 == .required) = false := by
    rw [List.any_eq_false]
    intro field hfield
    rw [hmissing field hfield]
    decide
  have hnullable : missing.filter (·.2 == .nullable) = [] := by
    rw [List.filter_eq_nil_iff]
    intro field hfield
    rw [hmissing field hfield]
    decide
  rw [hrequired, hnullable]
  simp

end RecordShape

namespace Json

/-- A value whose objects are in key order, each key once. -/
inductive Ordered : Json → Prop
  | null : Ordered .null
  | bool (b : Bool) : Ordered (.bool b)
  | number (n : JsonNumber) : Ordered (.number n)
  | string (s : String) : Ordered (.string s)
  | array {items : List Json} (h : ∀ j ∈ items, j.Ordered) : Ordered (.array items)
  | object {members : List (String × Json)} (hascending : Entries.Ascending members)
      (h : ∀ member ∈ members, member.2.Ordered) : Ordered (.object members)

theorem normalizeItems_eq_map (items : List Json) : normalizeItems items = items.map normalize := by
  induction items with
  | nil => rfl
  | cons j rest ih => rw [normalizeItems, ih, List.map_cons]

theorem normalizeMembers_eq_map (members : List (String × Json)) :
    normalizeMembers members = members.map fun member => (member.1, member.2.normalize) := by
  induction members with
  | nil => rfl
  | cons member rest ih => rw [normalizeMembers, ih, List.map_cons]

theorem Ordered.normalize_eq {j : Json} (h : j.Ordered) : j.normalize = j := by
  induction h with
  | @array items _ ih =>
    rw [normalize, normalizeItems_eq_map, List.map_congr_left ih, List.map_id']
  | @object members hascending _ ih =>
    have hsame : ∀ member ∈ members, (member.1, member.2.normalize) = member :=
      fun member hmem => Prod.ext rfl (ih member hmem)
    rw [normalize, normalizeMembers_eq_map, List.map_congr_left hsame, List.map_id',
      Entries.ofList_of_ascending hascending]
  | _ => rfl

theorem need?_of_lookup {α : Type} {members : List (String × Json)} {name : String} {j : Json}
    (h : members.lookup name = some j) (read : Json → Option α) :
    need? (.object members) name read = read j := by
  rw [need?, get?, h]
  rfl

/-- What is written for an option reads as the option, when nothing else is written as null. -/
theorem optional?_ofOption {α : Type} {encode : α → Json} {read : Json → Option α} {o : Option α}
    (hnull : ∀ a, encode a ≠ .null) (h : ∀ a, o = some a → read (encode a) = some a) :
    optional? read (ofOption encode o) = some o := by
  cases o with
  | none => rfl
  | some a =>
    rw [ofOption, optional?, h a rfl, Option.map_some]
    exact hnull a

theorem field?_of_lookup {α : Type} {members : List (String × Json)} {name : String} {j : Json}
    (h : members.lookup name = some j) (read : Json → Option α) (default : α) :
    field? (.object members) name read default = read j := by
  rw [field?, get?, h]

/-- An optional field may be left out where it has no value. -/
theorem field?_of_optional {α : Type} {encode : α → Json} {read : Json → Option α}
    {members : List (String × Json)} {name : String} {o : Option α}
    (hlookup : members.lookup name = o.map encode) (hnull : ∀ a, encode a ≠ .null)
    (h : ∀ a, o = some a → read (encode a) = some a) :
    field? (.object members) name (optional? read) none = some o := by
  cases o with
  | none => rw [field?, get?, hlookup, Option.map_none]
  | some a =>
    rw [field?, get?, hlookup, Option.map_some]
    exact optional?_ofOption (o := some a) hnull h

theorem nat?_int {n limit : Nat} (h : n ≤ limit) : nat? limit (.int n) = some n := by
  rw [nat?, int, int?]
  have hrange : 0 ≤ (n : Int) ∧ (n : Int) ≤ limit := ⟨Int.natCast_nonneg n, Int.ofNat_le.2 h⟩
  exact (if_pos hrange).trans (congrArg some (Int.toNat_natCast n))

/-- The members written for the entries of a map read as the map. -/
theorem keyMap?_eq_some {α : Type} {read : Json → Option α} {members : List (String × Json)}
    {m : KeyMap α} (h : List.Forall₂ (fun member entry =>
      member.1 = entry.1 ∧ read member.2 = some entry.2) members m.entries) :
    keyMap? read (.object members) = some m := by
  have hread : members.mapM (fun member => (read member.2).map fun value => (member.1, value)) =
      some m.entries := by
    refine mapM_eq_some (h.imp fun member entry hentry => ?_)
    rw [hentry.2, hentry.1]
    rfl
  rw [keyMap?, object?]
  dsimp only [bind, Option.bind]
  rw [hread]
  exact congrArg some m.ofList_entries

end Json

end StatementGate
