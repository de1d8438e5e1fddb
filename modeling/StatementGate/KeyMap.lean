/-! # Keyed entries

Association lists in ascending order of their text keys, one entry per key, and finite maps that
carry this order in their type. Text is ordered by code point, which is the byte order of UTF-8. -/

namespace StatementGate

variable {α β : Type}

namespace Entries

/-- Adds an entry in its place, replacing the one of the same key. -/
def put (key : String) (value : α) : List (String × α) → List (String × α)
  | [] => [(key, value)]
  | (k, v) :: rest =>
    if key < k then (key, value) :: (k, v) :: rest
    else if key = k then (key, value) :: rest
    else (k, v) :: put key value rest

def erase (key : String) (entries : List (String × α)) : List (String × α) :=
  entries.filter fun entry => entry.1 != key

/-- Later entries replace earlier ones of the same key. -/
def ofList (entries : List (String × α)) : List (String × α) :=
  entries.foldl (fun sorted entry => put entry.1 entry.2 sorted) []

def Ascending (entries : List (String × α)) : Prop :=
  entries.Pairwise fun a b => a.1 < b.1

theorem mem_put {key : String} {value : α} {entries : List (String × α)} {entry : String × α}
    (h : entry ∈ put key value entries) : entry = (key, value) ∨ entry ∈ entries := by
  fun_induction put key value entries with
  | case1 => simpa using h
  | case2 => simpa using h
  | case3 v rest hlt =>
    rcases List.mem_cons.1 h with h | h
    · exact .inl h
    · exact .inr (List.mem_cons_of_mem _ h)
  | case4 k v rest _ _ ih =>
    simp only [List.mem_cons] at h ⊢
    rcases h with h | h
    · exact .inr (.inl h)
    · exact (ih h).imp_right .inr

theorem Ascending.put {key : String} {value : α} {entries : List (String × α)}
    (h : Ascending entries) : Ascending (put key value entries) := by
  unfold Ascending at *
  fun_induction Entries.put key value entries with
  | case1 => simp
  | case2 k v rest hlt =>
    refine List.pairwise_cons.2 ⟨fun entry hmem => ?_, h⟩
    rcases List.mem_cons.1 hmem with rfl | hmem
    · exact hlt
    · exact String.lt_trans hlt ((List.pairwise_cons.1 h).1 entry hmem)
  | case3 v rest hlt => exact List.pairwise_cons.2 (List.pairwise_cons.1 h)
  | case4 k v rest hlt hne ih =>
    refine List.pairwise_cons.2 ⟨fun entry hmem => ?_, ih (List.pairwise_cons.1 h).2⟩
    rcases mem_put hmem with rfl | hmem
    · rcases String.le_total k key with hle | hle
      · exact Decidable.byContradiction fun hnot =>
          hne (String.le_antisymm (String.not_lt.1 hnot) hle)
      · exact absurd (String.le_antisymm hle (String.not_lt.1 hlt)) hne
    · exact (List.pairwise_cons.1 h).1 entry hmem

theorem ascending_ofList (entries : List (String × α)) : Ascending (ofList entries) := by
  suffices ∀ sorted : List (String × α), Ascending sorted →
      Ascending (entries.foldl (fun sorted entry => Entries.put entry.1 entry.2 sorted) sorted) from
    this [] List.Pairwise.nil
  induction entries with
  | nil => exact fun _ h => h
  | cons entry rest ih => exact fun _ h => ih _ h.put

end Entries

structure KeyMap (α : Type) where
  entries : List (String × α)
  ascending : Entries.Ascending entries

namespace KeyMap

instance [DecidableEq α] : DecidableEq (KeyMap α) := fun a b =>
  decidable_of_iff (a.entries = b.entries)
    ⟨fun h => by cases a; cases b; cases h; rfl, fun h => h ▸ rfl⟩

def empty : KeyMap α := ⟨[], List.Pairwise.nil⟩

instance : Inhabited (KeyMap α) := ⟨empty⟩

def get? (m : KeyMap α) (key : String) : Option α := m.entries.lookup key

def contains (m : KeyMap α) (key : String) : Bool := (m.get? key).isSome

def insert (m : KeyMap α) (key : String) (value : α) : KeyMap α :=
  ⟨Entries.put key value m.entries, m.ascending.put⟩

def ofList (entries : List (String × α)) : KeyMap α :=
  ⟨Entries.ofList entries, Entries.ascending_ofList entries⟩

def keys (m : KeyMap α) : List String := m.entries.map Prod.fst

def values (m : KeyMap α) : List α := m.entries.map Prod.snd

def size (m : KeyMap α) : Nat := m.entries.length

def map (f : α → β) (m : KeyMap α) : KeyMap β :=
  ⟨m.entries.map fun entry => (entry.1, f entry.2), by
    simpa [Entries.Ascending, List.pairwise_map] using m.ascending⟩

end KeyMap

end StatementGate
