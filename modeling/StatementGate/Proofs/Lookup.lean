import Mathlib.Data.List.Basic
import Mathlib.Data.List.Forall2
import StatementGate.KeyMap

/-! # Lookup in keyed entries

What is found under a key after entries are put in, and the law that lists in key order are equal
when every key finds the same in both. -/

namespace StatementGate

variable {α : Type}

namespace Entries

theorem lookup_cons_ne {k key : String} (h : k ≠ key) (value : α) (rest : List (String × α)) :
    ((key, value) :: rest).lookup k = rest.lookup k := by
  rw [List.lookup_cons, beq_false_of_ne h]

theorem lookup_put_self (key : String) (value : α) (entries : List (String × α)) :
    (put key value entries).lookup key = some value := by
  fun_induction put key value entries with
  | case1 => exact List.lookup_cons_self
  | case2 k v rest hlt => exact List.lookup_cons_self
  | case3 v rest hlt => exact List.lookup_cons_self
  | case4 k v rest hlt hne ih => rw [lookup_cons_ne hne, ih]

theorem lookup_put_ne {k key : String} (h : k ≠ key) (value : α) (entries : List (String × α)) :
    (put key value entries).lookup k = entries.lookup k := by
  fun_induction put key value entries with
  | case1 => exact lookup_cons_ne h value []
  | case2 k' v rest hlt => exact lookup_cons_ne h value _
  | case3 v rest hlt => rw [lookup_cons_ne h, lookup_cons_ne h]
  | case4 k' v rest hlt hne ih => rw [List.lookup_cons, List.lookup_cons, ih]

theorem lookup_erase_self (key : String) (entries : List (String × α)) :
    (erase key entries).lookup key = none := by
  rw [List.lookup_eq_none_iff]
  intro entry hentry
  rw [bne_comm]
  exact (List.mem_filter.1 hentry).2

theorem lookup_erase_ne {k key : String} (h : k ≠ key) (entries : List (String × α)) :
    (erase key entries).lookup k = entries.lookup k := by
  induction entries with
  | nil => rfl
  | cons entry rest ih =>
    rw [erase] at ih ⊢
    by_cases hkey : entry.1 = key
    · rw [List.filter_cons_of_neg (by simp [hkey]), ih, List.lookup_cons,
        beq_false_of_ne (hkey ▸ h)]
    · rw [List.filter_cons_of_pos (by simp [hkey]), List.lookup_cons, List.lookup_cons, ih]

theorem lookup_map {β : Type} (f : α → β) (entries : List (String × α)) (key : String) :
    (entries.map fun entry => (entry.1, f entry.2)).lookup key = (entries.lookup key).map f := by
  induction entries with
  | nil => rfl
  | cons entry rest ih =>
    rw [List.map_cons, List.lookup_cons, List.lookup_cons, ih]
    cases key == entry.1 <;> rfl

theorem lookup_eq_none_iff {key : String} {entries : List (String × α)} :
    entries.lookup key = none ↔ ∀ entry ∈ entries, entry.1 ≠ key := by
  rw [List.lookup_eq_none_iff]
  exact forall₂_congr fun entry _ => by rw [bne_iff_ne, ne_comm]

theorem isSome_lookup_iff {key : String} {entries : List (String × α)} :
    (entries.lookup key).isSome ↔ key ∈ entries.map Prod.fst := by
  rw [List.lookup_isSome_iff, List.mem_map]
  refine exists_congr fun entry => and_congr_right fun _ => ?_
  rw [beq_iff_eq, eq_comm]

theorem mem_of_lookup {key : String} {value : α} {entries : List (String × α)}
    (h : entries.lookup key = some value) : (key, value) ∈ entries := by
  obtain ⟨before, after, rfl, -⟩ := List.lookup_eq_some_iff.1 h
  exact List.mem_append_right _ List.mem_cons_self

theorem lookup_of_mem {key : String} {value : α} {entries : List (String × α)}
    (hdistinct : (entries.map Prod.fst).Nodup) (hmem : (key, value) ∈ entries) :
    entries.lookup key = some value := by
  induction entries with
  | nil => cases hmem
  | cons entry rest ih =>
    rw [List.map_cons, List.nodup_cons] at hdistinct
    rcases List.mem_cons.1 hmem with rfl | hmem
    · exact List.lookup_cons_self
    · have hne : key ≠ entry.1 := fun heq =>
        hdistinct.1 (List.mem_map.2 ⟨(key, value), hmem, heq⟩)
      rw [lookup_cons_ne hne, ih hdistinct.2 hmem]

namespace Ascending

theorem head_lt {key : String} {value : α} {rest : List (String × α)}
    (h : Ascending ((key, value) :: rest)) : ∀ entry ∈ rest, key < entry.1 :=
  (List.pairwise_cons.1 h).1

theorem tail {entry : String × α} {rest : List (String × α)} (h : Ascending (entry :: rest)) :
    Ascending rest :=
  (List.pairwise_cons.1 h).2

/-- Nothing is found under a key below the first. -/
theorem lookup_of_lt_head {k key : String} {value : α} {rest : List (String × α)}
    (h : Ascending ((key, value) :: rest)) (hk : k < key) :
    ((key, value) :: rest).lookup k = none := by
  refine lookup_eq_none_iff.2 fun entry hmem heq => ?_
  rcases List.mem_cons.1 hmem with rfl | hmem
  · exact absurd hk (heq ▸ String.lt_irrefl k)
  · exact absurd (String.lt_trans hk (h.head_lt entry hmem)) (heq ▸ String.lt_irrefl k)

theorem keys_nodup {entries : List (String × α)} (h : Ascending entries) :
    (entries.map Prod.fst).Nodup := by
  refine List.pairwise_map.2 (h.imp fun hlt heq => ?_)
  exact absurd hlt (heq ▸ String.lt_irrefl _)

theorem lookup_head_tail {key : String} {value : α} {rest : List (String × α)}
    (h : Ascending ((key, value) :: rest)) : rest.lookup key = none :=
  lookup_eq_none_iff.2 fun entry hmem heq =>
    absurd (h.head_lt entry hmem) (heq ▸ String.lt_irrefl key)

theorem ext {a b : List (String × α)} (ha : Ascending a) (hb : Ascending b)
    (h : ∀ key, a.lookup key = b.lookup key) : a = b := by
  induction a generalizing b with
  | nil =>
    cases b with
    | nil => rfl
    | cons entry rest =>
      have hfound := h entry.1
      rw [List.lookup_cons_self] at hfound
      cases hfound
  | cons entry rest ih =>
    obtain ⟨key, value⟩ := entry
    cases b with
    | nil =>
      have hfound := h key
      rw [List.lookup_cons_self] at hfound
      cases hfound
    | cons entry' rest' =>
      obtain ⟨key', value'⟩ := entry'
      -- the first keys are equal: the lesser one would be missing from the other list
      have hkey : key = key' := by
        refine String.le_antisymm (String.not_lt.1 fun hlt => ?_) (String.not_lt.1 fun hlt => ?_)
        · have hfound := h key'
          rw [ha.lookup_of_lt_head hlt, List.lookup_cons_self] at hfound
          cases hfound
        · have hfound := h key
          rw [hb.lookup_of_lt_head hlt, List.lookup_cons_self] at hfound
          cases hfound
      subst hkey
      have hvalue := h key
      rw [List.lookup_cons_self, List.lookup_cons_self] at hvalue
      cases hvalue
      refine congrArg _ (ih ha.tail hb.tail fun k => ?_)
      by_cases hk : k = key
      · rw [hk, ha.lookup_head_tail, hb.lookup_head_tail]
      · have hfound := h k
        rwa [lookup_cons_ne hk, lookup_cons_ne hk] at hfound

/-- Putting in what is there changes nothing. -/
theorem put_eq_self {key : String} {value : α} {entries : List (String × α)}
    (h : Ascending entries) (hvalue : entries.lookup key = some value) :
    Entries.put key value entries = entries := by
  refine h.put.ext h fun k => ?_
  by_cases hk : k = key
  · rw [hk, lookup_put_self, hvalue]
  · rw [lookup_put_ne hk]

end Ascending

theorem lookup_putAll_of_not_mem {key : String} {entries : List (String × α)}
    (h : key ∉ entries.map Prod.fst) (sorted : List (String × α)) :
    (entries.foldl (fun sorted entry => put entry.1 entry.2 sorted) sorted).lookup key =
      sorted.lookup key := by
  induction entries generalizing sorted with
  | nil => rfl
  | cons entry rest ih =>
    rw [List.map_cons, List.mem_cons, not_or] at h
    rw [List.foldl_cons, ih h.2, lookup_put_ne h.1]

theorem lookup_putAll_of_mem {key : String} {value : α} {entries : List (String × α)}
    (hdistinct : (entries.map Prod.fst).Nodup) (hmem : (key, value) ∈ entries)
    (sorted : List (String × α)) :
    (entries.foldl (fun sorted entry => put entry.1 entry.2 sorted) sorted).lookup key =
      some value := by
  induction entries generalizing sorted with
  | nil => cases hmem
  | cons entry rest ih =>
    rw [List.map_cons, List.nodup_cons] at hdistinct
    rw [List.foldl_cons]
    rcases List.mem_cons.1 hmem with rfl | hmem
    · rw [lookup_putAll_of_not_mem hdistinct.1, lookup_put_self]
    · exact ih hdistinct.2 hmem _

theorem mem_keys_put {k key : String} {value : α} {entries : List (String × α)} :
    k ∈ (put key value entries).map Prod.fst ↔ k = key ∨ k ∈ entries.map Prod.fst := by
  rw [← isSome_lookup_iff, ← isSome_lookup_iff]
  by_cases hk : k = key
  · simp [hk, lookup_put_self]
  · simp [hk, lookup_put_ne]

theorem mem_keys_putAll {key : String} {entries sorted : List (String × α)} :
    key ∈ (entries.foldl (fun sorted entry => put entry.1 entry.2 sorted) sorted).map Prod.fst ↔
      key ∈ entries.map Prod.fst ∨ key ∈ sorted.map Prod.fst := by
  induction entries generalizing sorted with
  | nil => simp
  | cons entry rest ih =>
    rw [List.foldl_cons, ih, mem_keys_put, List.map_cons, List.mem_cons]
    tauto

theorem mem_of_mem_putAll {entries sorted : List (String × α)} {entry : String × α}
    (h : entry ∈ entries.foldl (fun sorted entry => put entry.1 entry.2 sorted) sorted) :
    entry ∈ entries ∨ entry ∈ sorted := by
  induction entries generalizing sorted with
  | nil => exact .inr h
  | cons first rest ih =>
    rcases ih h with h | h
    · exact .inl (List.mem_cons_of_mem first h)
    · rcases mem_put h with rfl | h
      · exact .inl List.mem_cons_self
      · exact .inr h

/-- The last of repeated entries is found. -/
theorem lookup_ofList_last {key : String} (value : α) (before : List (String × α))
    {after : List (String × α)} (h : key ∉ after.map Prod.fst) :
    (ofList (before ++ (key, value) :: after)).lookup key = some value := by
  rw [ofList, List.foldl_append, List.foldl_cons, lookup_putAll_of_not_mem h, lookup_put_self]

/-- Entries in key order stay as they are. -/
theorem ofList_of_ascending {entries : List (String × α)} (h : Ascending entries) :
    ofList entries = entries := by
  apply (ascending_ofList entries).ext h
  intro key
  by_cases hkey : key ∈ entries.map Prod.fst
  · obtain ⟨⟨_, value⟩, hmem, rfl⟩ := List.mem_map.1 hkey
    rw [ofList, lookup_putAll_of_mem h.keys_nodup hmem, lookup_of_mem h.keys_nodup hmem]
  · have hnone := Option.not_isSome_iff_eq_none.1 (mt isSome_lookup_iff.1 hkey)
    rw [ofList, lookup_putAll_of_not_mem hkey, hnone]
    rfl

/-- An entry under a new key comes to the others. -/
theorem put_perm_of_free {key : String} (value : α) {entries : List (String × α)}
    (h : entries.lookup key = none) : (put key value entries).Perm ((key, value) :: entries) := by
  fun_induction put key value entries with
  | case1 => rfl
  | case2 => rfl
  | case3 v rest hlt =>
    rw [List.lookup_cons_self] at h
    cases h
  | case4 k v rest hlt hne ih =>
    rw [lookup_cons_ne hne] at h
    exact ((ih h).cons (k, v)).trans (.swap (key, value) (k, v) rest)

/-- Entries with distinct keys that are new are all kept. -/
theorem putAll_perm {entries sorted : List (String × α)} (hdistinct : (entries.map Prod.fst).Nodup)
    (hnew : ∀ key ∈ entries.map Prod.fst, sorted.lookup key = none) :
    (entries.foldl (fun sorted entry => put entry.1 entry.2 sorted) sorted).Perm
      (entries ++ sorted) := by
  induction entries generalizing sorted with
  | nil => rfl
  | cons entry rest ih =>
    rw [List.map_cons, List.nodup_cons] at hdistinct
    rw [List.map_cons, List.forall_mem_cons] at hnew
    have hrest : ∀ key ∈ rest.map Prod.fst, (put entry.1 entry.2 sorted).lookup key = none := by
      intro key hkey
      have hne : key ≠ entry.1 := fun heq => hdistinct.1 (heq ▸ hkey)
      rw [lookup_put_ne hne, hnew.2 key hkey]
    have hput : (put entry.1 entry.2 sorted).Perm (entry :: sorted) :=
      put_perm_of_free entry.2 hnew.1
    exact (ih hdistinct.2 hrest).trans ((hput.append_left rest).trans List.perm_middle)

/-- An entry under a key that is there takes the place of the other one. -/
theorem put_perm_of_taken {key : String} {old : α} (value : α) {entries : List (String × α)}
    (hascending : Ascending entries) (h : entries.lookup key = some old) :
    ∃ rest, entries.Perm ((key, old) :: rest) ∧
      (put key value entries).Perm ((key, value) :: rest) := by
  fun_induction put key value entries with
  | case1 => cases h
  | case2 k v rest hlt =>
    rw [hascending.lookup_of_lt_head hlt] at h
    cases h
  | case3 v rest hlt =>
    rw [List.lookup_cons_self] at h
    cases h
    exact ⟨rest, .refl _, .refl _⟩
  | case4 k v rest hlt hne ih =>
    rw [lookup_cons_ne hne] at h
    obtain ⟨others, hold, hnew⟩ := ih hascending.tail h
    exact ⟨(k, v) :: others, (hold.cons (k, v)).trans (.swap (key, old) (k, v) others),
      (hnew.cons (k, v)).trans (.swap (key, value) (k, v) others)⟩

/-- Entries under one key with related values. -/
def Alike {β : Type} (r : α → β → Prop) (entry : String × α) (entry' : String × β) : Prop :=
  entry.1 = entry'.1 ∧ r entry.2 entry'.2

theorem put_alike {β : Type} {r : α → β → Prop} {entries : List (String × α)}
    {entries' : List (String × β)} (h : List.Forall₂ (Alike r) entries entries') (key : String)
    {value : α} {value' : β} (hvalue : r value value') :
    List.Forall₂ (Alike r) (put key value entries) (put key value' entries') := by
  induction h with
  | nil => exact .cons ⟨rfl, hvalue⟩ .nil
  | @cons entry entry' rest rest' hentry hrest ih =>
    obtain ⟨k, v⟩ := entry
    obtain ⟨k', v'⟩ := entry'
    obtain ⟨rfl, hv⟩ := hentry
    simp only [put]
    by_cases hlt : key < k
    · rw [if_pos hlt, if_pos hlt]
      exact .cons ⟨rfl, hvalue⟩ (.cons ⟨rfl, hv⟩ hrest)
    · rw [if_neg hlt, if_neg hlt]
      by_cases heq : key = k
      · rw [if_pos heq, if_pos heq]
        exact .cons ⟨rfl, hvalue⟩ hrest
      · rw [if_neg heq, if_neg heq]
        exact .cons ⟨rfl, hv⟩ ih

/-- Where entries go depends on their keys alone. -/
theorem putAll_alike {β : Type} {r : α → β → Prop} {entries : List (String × α)}
    {entries' : List (String × β)} (h : List.Forall₂ (Alike r) entries entries')
    {sorted : List (String × α)} {sorted' : List (String × β)}
    (hsorted : List.Forall₂ (Alike r) sorted sorted') :
    List.Forall₂ (Alike r)
      (entries.foldl (fun sorted entry => put entry.1 entry.2 sorted) sorted)
      (entries'.foldl (fun sorted entry => put entry.1 entry.2 sorted) sorted') := by
  induction h generalizing sorted sorted' with
  | nil => exact hsorted
  | @cons entry entry' _ _ hentry _ ih =>
    obtain ⟨key, value⟩ := entry
    obtain ⟨_, value'⟩ := entry'
    obtain ⟨rfl, hvalue⟩ := hentry
    exact ih (put_alike hsorted key hvalue)

theorem alike_keys_iff {entries entries' : List (String × α)} :
    List.Forall₂ (Alike fun _ _ => True) entries entries' ↔
      entries.map Prod.fst = entries'.map Prod.fst := by
  rw [← List.forall₂_eq_eq_eq, List.forall₂_map_left_iff, List.forall₂_map_right_iff]
  exact ⟨fun h => h.imp fun _ _ hentry => hentry.1, fun h => h.imp fun _ _ hkey => ⟨hkey, trivial⟩⟩

theorem keys_put_congr {entries entries' : List (String × α)}
    (h : entries.map Prod.fst = entries'.map Prod.fst) (key : String) (value value' : α) :
    (put key value entries).map Prod.fst = (put key value' entries').map Prod.fst :=
  alike_keys_iff.1 (put_alike (alike_keys_iff.2 h) key trivial)

theorem keys_putAll_congr {entries entries' : List (String × α)}
    (h : entries.map Prod.fst = entries'.map Prod.fst) {sorted sorted' : List (String × α)}
    (hsorted : sorted.map Prod.fst = sorted'.map Prod.fst) :
    (entries.foldl (fun sorted entry => put entry.1 entry.2 sorted) sorted).map Prod.fst =
      (entries'.foldl (fun sorted entry => put entry.1 entry.2 sorted) sorted').map Prod.fst :=
  alike_keys_iff.1 (putAll_alike (alike_keys_iff.2 h) (alike_keys_iff.2 hsorted))

end Entries

namespace KeyMap

variable {entries : List (String × α)}

/-- A map made of entries with distinct keys finds each of them. -/
theorem get?_ofList (hdistinct : (entries.map Prod.fst).Nodup) {key : String} {value : α}
    (hmem : (key, value) ∈ entries) : (ofList entries).get? key = some value :=
  Entries.lookup_putAll_of_mem hdistinct hmem []

theorem ofList_perm (hdistinct : (entries.map Prod.fst).Nodup) :
    (ofList entries).entries.Perm entries := by
  have hnew : ∀ key ∈ entries.map Prod.fst, ([] : List (String × α)).lookup key = none :=
    fun _ _ => rfl
  have hkept := Entries.putAll_perm hdistinct hnew
  rwa [List.append_nil] at hkept

/-- A map made of entries with distinct keys finds them and nothing else. -/
theorem get?_ofList_eq_some (hdistinct : (entries.map Prod.fst).Nodup) {key : String} {value : α} :
    (ofList entries).get? key = some value ↔ (key, value) ∈ entries := by
  constructor
  · intro h
    exact (ofList_perm hdistinct).mem_iff.1 (Entries.mem_of_lookup h)
  · exact get?_ofList hdistinct

section Keyed

variable {β : Type} {key : β → String} {value : β → α} {items : List β}

/-- A map of items under keys of their own, all distinct, finds them and nothing else. -/
theorem get?_ofList_map (hdistinct : (items.map key).Nodup) {k : String} {v : α} :
    (ofList (items.map fun item => (key item, value item))).get? k = some v ↔
      ∃ item ∈ items, key item = k ∧ value item = v := by
  rw [get?_ofList_eq_some (by rwa [List.map_map])]
  simp

theorem size_ofList_map (hdistinct : (items.map key).Nodup) :
    (ofList (items.map fun item => (key item, value item))).size = items.length := by
  have hkeys : ((items.map fun item => (key item, value item)).map Prod.fst).Nodup := by
    rwa [List.map_map]
  rw [size, (ofList_perm hkeys).length_eq, List.length_map]

end Keyed

theorem ofList_entries (m : KeyMap α) : ofList m.entries = m := by
  cases m with
  | mk entries ascending =>
    rw [ofList, mk.injEq]
    exact Entries.ofList_of_ascending ascending

theorem keys_map {β : Type} (f : α → β) (m : KeyMap α) : (m.map f).keys = m.keys :=
  List.map_map

theorem get?_map {β : Type} (f : α → β) (m : KeyMap α) (key : String) :
    (m.map f).get? key = (m.get? key).map f :=
  Entries.lookup_map f m.entries key

theorem get?_insert_self (m : KeyMap α) (key : String) (value : α) :
    (m.insert key value).get? key = some value :=
  Entries.lookup_put_self key value m.entries

theorem get?_insert_ne {k key : String} (h : k ≠ key) (m : KeyMap α) (value : α) :
    (m.insert key value).get? k = m.get? k :=
  Entries.lookup_put_ne h value m.entries

theorem ext {m m' : KeyMap α} (h : ∀ key, m.get? key = m'.get? key) : m = m' := by
  cases m with
  | mk entries ascending =>
    cases m' with
    | mk entries' ascending' =>
      rw [mk.injEq]
      exact ascending.ext ascending' h

theorem insert_insert_self (m : KeyMap α) (key : String) (value value' : α) :
    (m.insert key value).insert key value' = m.insert key value' := by
  apply ext
  intro k
  by_cases hk : k = key
  · rw [hk, get?_insert_self, get?_insert_self]
  · rw [get?_insert_ne hk, get?_insert_ne hk, get?_insert_ne hk]

theorem insert_comm {key key' : String} (h : key ≠ key') (m : KeyMap α) (value value' : α) :
    (m.insert key value).insert key' value' = (m.insert key' value').insert key value := by
  apply ext
  intro k
  by_cases hk : k = key
  · rw [hk, get?_insert_ne h, get?_insert_self, get?_insert_self]
  · by_cases hk' : k = key'
    · rw [hk', get?_insert_self, get?_insert_ne h.symm, get?_insert_self]
    · rw [get?_insert_ne hk', get?_insert_ne hk, get?_insert_ne hk, get?_insert_ne hk']

theorem values_insert_of_free {m : KeyMap α} {key : String} (value : α) (h : m.get? key = none) :
    (m.insert key value).values.Perm (value :: m.values) :=
  (Entries.put_perm_of_free value h).map Prod.snd

theorem size_insert_of_free {m : KeyMap α} {key : String} (value : α) (h : m.get? key = none) :
    (m.insert key value).size = m.size + 1 :=
  (Entries.put_perm_of_free value h).length_eq

theorem values_insert_of_taken {m : KeyMap α} {key : String} {old : α} (value : α)
    (h : m.get? key = some old) :
    ∃ rest, m.values.Perm (old :: rest) ∧ (m.insert key value).values.Perm (value :: rest) := by
  obtain ⟨rest, hold, hnew⟩ := Entries.put_perm_of_taken value m.ascending h
  exact ⟨rest.map Prod.snd, hold.map Prod.snd, hnew.map Prod.snd⟩

theorem mem_values_iff {m : KeyMap α} {value : α} :
    value ∈ m.values ↔ ∃ key, m.get? key = some value := by
  constructor
  · intro h
    obtain ⟨⟨key, _⟩, hmem, rfl⟩ := List.mem_map.1 h
    exact ⟨key, Entries.lookup_of_mem m.ascending.keys_nodup hmem⟩
  · rintro ⟨key, h⟩
    exact List.mem_map.2 ⟨_, Entries.mem_of_lookup h, rfl⟩

theorem mem_keys_ofList {key : String} :
    key ∈ (ofList entries).keys ↔ key ∈ entries.map Prod.fst :=
  Entries.mem_keys_putAll.trans (or_iff_left (List.not_mem_nil))

/-- The keys of a map do not depend on the values put in. -/
theorem keys_ofList_congr {entries' : List (String × α)}
    (h : entries.map Prod.fst = entries'.map Prod.fst) :
    (ofList entries).keys = (ofList entries').keys :=
  Entries.keys_putAll_congr h rfl

end KeyMap

end StatementGate
