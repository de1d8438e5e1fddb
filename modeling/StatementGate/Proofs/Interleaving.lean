import Mathlib.Data.List.Forall2

/-! # Interleaved parties

A log that several parties write to in turn. Nobody can touch what another party wrote, so what each
party keeps true of itself and its own entries is true of all of them, however they take turns. -/

namespace StatementGate

variable {P O α : Type} {log : List (Nat × O)} {i : Nat} {o : O}

/-- The entries of one party. -/
def entriesOf (log : List (Nat × O)) (i : Nat) : List O :=
  log.filterMap fun (j, o) => if j = i then some o else none

theorem mem_entriesOf : o ∈ entriesOf log i ↔ (i, o) ∈ log := by
  simp [entriesOf, and_comm]

theorem entriesOf_append (log : List (Nat × O)) (i j : Nat) (entries : List O) :
    entriesOf (log ++ entries.map fun o => (i, o)) j =
      entriesOf log j ++ if i = j then entries else [] := by
  simp only [entriesOf]
  rw [List.filterMap_append, List.filterMap_map]
  apply congrArg
  by_cases hij : i = j
  · simp only [Function.comp_def, hij, if_true, List.filterMap_some]
  · rw [if_neg hij, List.filterMap_eq_nil_iff]
    exact fun _ _ => if_neg hij

/-- Entries of one party add to a log what can be read off them, under the name of this party. -/
theorem filterMap_append_entries (select : O → Option α) (log : List (Nat × O)) (i : Nat)
    (entries : List O) :
    ((log ++ entries.map fun o => (i, o)).filterMap fun (j, o) => (select o).map fun a => (j, a)) =
      (log.filterMap fun (j, o) => (select o).map fun a => (j, a)) ++
        (entries.map select).filterMap (Option.map fun a => (i, a)) := by
  rw [List.filterMap_append, List.filterMap_map, List.filterMap_map]
  rfl

theorem entriesOf_eq_nil (h : ∀ o, (i, o) ∉ log) : entriesOf log i = [] := by
  refine List.eq_nil_iff_forall_not_mem.2 fun o hmem => ?_
  exact h o (mem_entriesOf.1 hmem)

/-- What a log holds of one kind and of one owner, if the entries of that owner are those of one
party. -/
theorem filter_eq_entriesOf {select : O → Option α} {owned : α → Bool}
    (h : ∀ j o a, (j, o) ∈ log → select o = some a → (owned a = true ↔ j = i)) :
    (log.filterMap fun entry => select entry.2).filter owned =
      (entriesOf log i).filterMap select := by
  induction log with
  | nil => rfl
  | cons entry log ih =>
    obtain ⟨j, o⟩ := entry
    have ih := ih fun j o a hmem => h j o a (List.mem_cons_of_mem _ hmem)
    simp only [entriesOf] at ih ⊢
    cases hselect : select o with
    | none => by_cases hj : j = i <;> simp [hselect, hj, ih]
    | some a =>
      have howned := h j o a List.mem_cons_self hselect
      by_cases hj : j = i <;> simp [hselect, hj, ih, howned]

/-- Only the parties write to the log, and the invariant holds of each of them with its entries. -/
structure AllKeep (invariant : P → List O → Prop) (parties : List P) (log : List (Nat × O)) :
    Prop where
  lt_length : ∀ i o, (i, o) ∈ log → i < parties.length
  holds : ∀ i p, parties[i]? = some p → invariant p (entriesOf log i)

namespace AllKeep

variable {invariant : P → List O → Prop} {parties : List P} {p p' : P}

theorem imp {invariant' : P → List O → Prop} (h : AllKeep invariant parties log)
    (himp : ∀ p entries, invariant p entries → invariant' p entries) :
    AllKeep invariant' parties log :=
  ⟨h.lt_length, fun i p hp => himp p _ (h.holds i p hp)⟩

theorem nil : AllKeep invariant [] ([] : List (Nat × O)) := ⟨by simp, by simp⟩

/-- A party that has just arrived has written nothing. -/
theorem arrive (h : AllKeep invariant parties log) (hp : invariant p []) :
    AllKeep invariant (parties ++ [p]) log := by
  refine ⟨fun i o hmem => ?_, fun i q hq => ?_⟩
  · have := h.lt_length i o hmem
    rw [List.length_append]
    omega
  · rcases Nat.lt_trichotomy i parties.length with hi | rfl | hi
    · rw [List.getElem?_append_left hi] at hq
      exact h.holds i q hq
    · rw [List.getElem?_concat_length] at hq
      cases hq
      rwa [entriesOf_eq_nil fun o hmem => absurd (h.lt_length _ o hmem) (Nat.lt_irrefl _)]
    · rw [List.getElem?_eq_none (by simp; omega)] at hq
      cases hq

/-- One party changes and writes something. -/
theorem write (h : AllKeep invariant parties log) (hp : parties[i]? = some p) {entries : List O}
    (hp' : invariant p' (entriesOf log i ++ entries)) :
    AllKeep invariant (parties.set i p') (log ++ entries.map fun o => (i, o)) := by
  refine ⟨fun j o hmem => ?_, fun j q hq => ?_⟩
  · rw [List.length_set]
    rcases List.mem_append.1 hmem with hmem | hmem
    · exact h.lt_length j o hmem
    · obtain ⟨_, _, heq⟩ := List.mem_map.1 hmem
      cases heq
      exact (List.getElem?_eq_some_iff.1 hp).1
  · rw [entriesOf_append]
    by_cases hij : i = j
    · subst hij
      rw [List.getElem?_set_self', hp] at hq
      cases hq
      rwa [if_pos rfl]
    · rw [List.getElem?_set_ne hij] at hq
      rw [if_neg hij, List.append_nil]
      exact h.holds j q hq

/-- What a log holds under the name of a party was written by that party, if every party puts its name
on what it writes and no other has the same name. -/
theorem filter_eq {I : Type} [DecidableEq I] {select : O → Option α} {owner : α → I} {name : P → I}
    (h : AllKeep (fun p entries => ∀ a ∈ entries.filterMap select, owner a = name p) parties log)
    (hp : parties[i]? = some p) (hname : ∀ j q, parties[j]? = some q → name q = name p → j = i) :
    (log.filterMap fun entry => select entry.2).filter (fun a => owner a = name p) =
      (entriesOf log i).filterMap select := by
  refine filter_eq_entriesOf fun j o a hmem hselect => ?_
  have hq : parties[j]? = some (parties.get ⟨j, h.lt_length j o hmem⟩) := List.getElem?_eq_getElem _
  have ha := h.holds j _ hq a (List.mem_filterMap.2 ⟨o, mem_entriesOf.2 hmem, hselect⟩)
  rw [decide_eq_true_iff, ha]
  constructor
  · exact hname j _ hq
  · rintro rfl
    rw [Option.some.inj (hq.symm.trans hp)]

end AllKeep

/-- Two runs side by side: the parties at a place are related, and may be replaced by related ones. -/
theorem forall₂_at {Q : Type} {r : P → Q → Prop} {parties : List P} {parties' : List Q}
    (h : List.Forall₂ r parties parties') (i : Nat) :
    (parties[i]? = none ∧ parties'[i]? = none) ∨
      ∃ p q, parties[i]? = some p ∧ parties'[i]? = some q ∧ r p q ∧
        ∀ p' q', r p' q' → List.Forall₂ r (parties.set i p') (parties'.set i q') := by
  induction h generalizing i with
  | nil => exact .inl ⟨rfl, rfl⟩
  | cons hpq h ih =>
    cases i with
    | zero => exact .inr ⟨_, _, rfl, rfl, hpq, fun p' q' hr => .cons hr h⟩
    | succ i =>
      rcases ih i with hnone | ⟨p, q, hp, hq, hr, hset⟩
      · exact .inl hnone
      · exact .inr ⟨p, q, hp, hq, hr, fun p' q' hr => .cons hpq (hset p' q' hr)⟩

end StatementGate
