import Mathlib.Data.List.Nodup
import Mathlib.Data.List.Perm.Subperm
import StatementGate.Proofs.Lookup
import StatementGate.Proofs.Outcome
import StatementGate.Store.Connection

/-! # Parameters of statements

A statement runs with its own parameters and no others. The checks before it compare numbers and
look names up: since the supplied names are distinct, found and as many as the statement's
parameters, they are all of them, and none is left without a value. -/

namespace StatementGate.Store

variable {τ : Type} {e : Engine τ} {sql : String} {parameters : Parameters} {statement : τ}
  {names : τ → List (Option String)}

namespace Engine

/-- The engine numbers the parameters of statements in the order of these names: no two have one
name, and what is no name of a parameter is not found. -/
structure Numbers (e : Engine τ) (names : τ → List (Option String)) : Prop where
  count : ∀ statement, e.parameterCount statement = (names statement).length
  index : ∀ statement spelling i, e.parameterIndex? statement spelling = some i ↔
    (names statement)[i]? = some (some spelling)

/-- The query fails before a statement runs: what runs one does not matter. -/
def QueryFails (e : Engine τ) (sql : String) (parameters : Parameters) : Prop :=
  ∃ error, ∀ run, e.query run sql parameters = .error error

/-- The query is the output of running the statement with the slots. -/
def QueryRuns (e : Engine τ) (sql : String) (parameters : Parameters) (statement : τ)
    (slots : Slots) : Prop :=
  ∀ run, e.query run sql parameters = e.output statement (run statement slots)

/-- The execution fails before a statement runs, in a state that stays as it is. -/
def ExecuteFails (e : Engine τ) (sql : String) (parameters : Parameters) : Prop :=
  ∃ error, ∀ (σ : Type) (run : σ → τ → Slots → Except DatabaseError Nat × σ) (state : σ),
    e.execute run state sql parameters = (.error error, state)

/-- The execution runs the statement with the slots. -/
def ExecuteRuns (e : Engine τ) (sql : String) (parameters : Parameters) (statement : τ)
    (slots : Slots) : Prop :=
  ∀ (σ : Type) (run : σ → τ → Slots → Except DatabaseError Nat × σ) (state : σ),
    e.execute run state sql parameters = run state statement slots

end Engine

/-- Parameters of these names are exactly the supplied ones. -/
structure OwnParameters (names : List (Option String)) (parameters : Parameters) : Prop where
  plain : ∀ name ∈ parameters.keys, isPlainIdentifier name = true
  perm : names.Perm (parameters.keys.map fun name => some (placeholderOf name))

/-- Parameters of these names are exactly the supplied ones, and each is bound to its own value. -/
structure BoundExactly (names : List (Option String)) (parameters : Parameters)
    (slots : Slots) : Prop extends OwnParameters names parameters where
  own : ∀ (i : Nat) (name : String), names[i]? = some (some (placeholderOf name)) →
    ∃ value, parameters.get? name = some value ∧ slots[i]? = some (some (Cell.ofScalar value))
  length_eq : slots.length = names.length
  bound : none ∉ slots

theorem placeholderOf_injective : Function.Injective placeholderOf := by
  intro a b h
  have hlist := congrArg String.toList h
  simpa [placeholderOf, String.toList_inj] using hlist

/-! ## Supplied parameters -/

/-- The cells of supplied parameters, by their spellings in a statement. -/
def spelled (parameters : Parameters) : Bindings :=
  parameters.entries.map fun (name, value) => (placeholderOf name, Cell.ofScalar value)

theorem keys_spelled (parameters : Parameters) :
    (spelled parameters).map Prod.fst = parameters.keys.map placeholderOf := by
  simp [spelled, KeyMap.keys]

theorem nodup_keys_spelled (parameters : Parameters) :
    ((spelled parameters).map Prod.fst).Nodup := by
  rw [keys_spelled]
  exact parameters.ascending.keys_nodup.map placeholderOf_injective

theorem lookup_spelled {name : String} {value : Scalar} (h : parameters.get? name = some value) :
    (spelled parameters).lookup (placeholderOf name) = some (Cell.ofScalar value) := by
  apply Entries.lookup_of_mem (nodup_keys_spelled parameters)
  exact List.mem_map.2 ⟨(name, value), Entries.mem_of_lookup h, rfl⟩

theorem bindValues_eq_ok {bindings : Bindings} (h : bindValues parameters = .ok bindings) :
    (∀ name ∈ parameters.keys, isPlainIdentifier name = true) ∧ bindings = spelled parameters := by
  constructor
  · intro name hname
    obtain ⟨entry, hentry, rfl⟩ := List.mem_map.1 hname
    obtain ⟨binding, hbinding⟩ := exists_of_mapM h hentry
    by_contra hplain
    simp [hplain] at hbinding
  · apply eq_map_of_mapM h
    intro entry _ binding hbinding
    by_cases hplain : isPlainIdentifier entry.1 = true
    · simpa [hplain, eq_comm] using hbinding
    · simp [hplain] at hbinding

/-! ## Binding -/

/-- The slots in which each parameter of these names has the cell of its name. -/
def slotsOf (names : List (Option String)) (bindings : Bindings) : Slots :=
  names.map fun name? => name?.bind fun name => bindings.lookup name

theorem slotsOf_nil (names : List (Option String)) :
    slotsOf names [] = List.replicate names.length none := by
  simp [slotsOf]

/-- A value goes to the one parameter of its name. -/
theorem set_slotsOf {names : List (Option String)} {bound : Bindings} {spelling : String}
    {i : Nat} (cell : Cell) (hname : ∀ j, names[j]? = some (some spelling) ↔ i = j)
    (hfresh : bound.lookup spelling = none) :
    (slotsOf names bound).set i (some cell) = slotsOf names (bound ++ [(spelling, cell)]) := by
  apply List.ext_getElem?
  intro j
  rw [List.getElem?_set, slotsOf, slotsOf, List.getElem?_map, List.getElem?_map, List.length_map]
  by_cases hij : i = j
  · have hj := (hname j).2 hij
    have hlt : i < names.length := by
      rw [hij]
      exact (List.getElem?_eq_some_iff.1 hj).1
    rw [if_pos hij, if_pos hlt, hj]
    simp [List.lookup_append, hfresh]
  · have hne := mt (hname j).1 hij
    rw [if_neg hij]
    cases hj : names[j]? with
    | none => rfl
    | some name? =>
      cases name? with
      | none => rfl
      | some name =>
        have hname : name ≠ spelling := by
          rintro rfl
          exact hne hj
        simp [List.lookup_append, Entries.lookup_cons_ne hname]

namespace Engine

theorem Numbers.unique (h : e.Numbers names) {spelling : String} {i j : Nat}
    (hi : (names statement)[i]? = some (some spelling)) :
    (names statement)[j]? = some (some spelling) ↔ i = j := by
  rw [← h.index] at hi ⊢
  rw [hi, Option.some.injEq]

theorem bind_eq_ok {slots slots' : Slots} {spelling : String} {cell : Cell} (h : e.Numbers names)
    (hbind : e.bind statement slots (spelling, cell) = .ok slots') :
    ∃ i, (names statement)[i]? = some (some spelling) ∧ slots' = slots.set i (some cell) := by
  cases hindex : e.parameterIndex? statement spelling with
  | none => simp [bind, hindex] at hbind
  | some i =>
    simp only [bind, hindex] at hbind
    obtain ⟨_, hset⟩ := andThen_eq_ok.1 hbind
    cases hset
    exact ⟨i, (h.index statement spelling i).1 hindex, rfl⟩

/-- Behind values that are bound already, further ones with other names go to their own slots. -/
theorem foldlM_bind {bound rest : Bindings} {slots : Slots} (h : e.Numbers names)
    (hdistinct : ((bound ++ rest).map Prod.fst).Nodup)
    (hbind : rest.foldlM (e.bind statement) (slotsOf (names statement) bound) = .ok slots) :
    slots = slotsOf (names statement) (bound ++ rest) ∧
      ∀ binding ∈ rest, some binding.1 ∈ names statement := by
  induction rest generalizing bound with
  | nil =>
    cases hbind
    simp
  | cons binding rest ih =>
    obtain ⟨spelling, cell⟩ := binding
    rw [List.foldlM_cons, StatementGate.bind_eq_ok] at hbind
    obtain ⟨slots', hfirst, hrest⟩ := hbind
    obtain ⟨i, hi, rfl⟩ := bind_eq_ok h hfirst
    have hfresh : bound.lookup spelling = none := by
      rw [Entries.lookup_eq_none_iff]
      intro other hother heq
      rw [List.map_append, List.nodup_append] at hdistinct
      exact hdistinct.2.2 other.1 (List.mem_map_of_mem hother) spelling (by simp) heq
    rw [set_slotsOf cell (fun j => h.unique hi) hfresh] at hrest
    rw [List.append_cons] at hdistinct ⊢
    obtain ⟨hslots, hnames⟩ := ih hdistinct hrest
    refine ⟨hslots, fun other hother => ?_⟩
    rcases List.mem_cons.1 hother with rfl | hother
    · exact List.mem_of_getElem? hi
    · exact hnames other hother

theorem bindAll_eq_ok {bindings : Bindings} {slots : Slots} (h : e.Numbers names)
    (hdistinct : (bindings.map Prod.fst).Nodup) (hbind : e.bindAll statement bindings = .ok slots) :
    slots = slotsOf (names statement) bindings ∧
      ∀ binding ∈ bindings, some binding.1 ∈ names statement := by
  rw [bindAll, h.count, ← slotsOf_nil] at hbind
  exact foldlM_bind h (by simpa using hdistinct) hbind

/-- Values that are bound to as many parameters as there are leave none out. -/
theorem perm_of_bindAll {bindings : Bindings} {slots : Slots} (h : e.Numbers names)
    (hdistinct : (bindings.map Prod.fst).Nodup) (hbind : e.bindAll statement bindings = .ok slots)
    (hcount : e.parameterCount statement = bindings.length) :
    (names statement).Perm ((bindings.map Prod.fst).map some) := by
  have hmem := (bindAll_eq_ok h hdistinct hbind).2
  have hnodup : ((bindings.map Prod.fst).map some).Nodup :=
    List.Nodup.map (fun _ _ => Option.some.inj) hdistinct
  have hsubset : (bindings.map Prod.fst).map some ⊆ names statement := by
    intro name? hname
    obtain ⟨_, hspelling, rfl⟩ := List.mem_map.1 hname
    obtain ⟨binding, hbinding, rfl⟩ := List.mem_map.1 hspelling
    exact hmem binding hbinding
  have hlength : (names statement).length = ((bindings.map Prod.fst).map some).length := by
    rw [List.length_map, List.length_map, ← hcount, h.count]
  -- nothing is left: distinct names among as many are all of them
  exact ((hnodup.subperm hsubset).perm_of_length_le (Nat.le_of_eq hlength)).symm

/-- The statement is prepared, and the supplied parameters are bound to as many as it has. -/
structure Readied (e : Engine τ) (sql : String) (parameters : Parameters) (statement : τ)
    (slots : Slots) : Prop where
  plain : ∀ name ∈ parameters.keys, isPlainIdentifier name = true
  prepared : e.prepare sql = .ok statement
  count : e.parameterCount statement = (spelled parameters).length
  bound : e.bindAll statement (spelled parameters) = .ok slots

theorem checkCount_eq_ok {expected supplied : Nat} :
    checkCount expected supplied = .ok () ↔ expected = supplied := by
  by_cases heq : expected = supplied
  · simp [checkCount, heq]
  · simp [checkCount, heq]

theorem readied_of_execute {slots : Slots}
    (h : e.readyToExecute sql parameters = .ok (statement, slots)) :
    e.Readied sql parameters statement slots := by
  simp only [readyToExecute, StatementGate.bind_eq_ok] at h
  obtain ⟨bindings, hvalues, statement', hprepared, _, hcount, slots', hbound, hdone⟩ := h
  obtain ⟨hplain, rfl⟩ := bindValues_eq_ok hvalues
  cases hdone
  exact ⟨hplain, hprepared, checkCount_eq_ok.1 hcount, hbound⟩

theorem readied_of_query {slots : Slots}
    (h : e.readyToQuery sql parameters = .ok (statement, slots)) :
    e.Readied sql parameters statement slots := by
  simp only [readyToQuery, StatementGate.bind_eq_ok] at h
  obtain ⟨bindings, hvalues, statement', hprepared, h⟩ := h
  obtain ⟨hplain, rfl⟩ := bindValues_eq_ok hvalues
  obtain ⟨_, h⟩ := throwIf_eq_ok.1 h
  simp only [StatementGate.bind_eq_ok] at h
  obtain ⟨_, hcount, _, _, slots', hbound, hdone⟩ := h
  cases hdone
  exact ⟨hplain, hprepared, checkCount_eq_ok.1 hcount, hbound⟩

theorem Readied.ownParameters {slots : Slots} (hready : e.Readied sql parameters statement slots)
    (h : e.Numbers names) : OwnParameters (names statement) parameters := by
  constructor
  · exact hready.plain
  · have hperm := perm_of_bindAll h (nodup_keys_spelled parameters) hready.bound hready.count
    rwa [keys_spelled, List.map_map] at hperm

theorem Readied.boundExactly {slots : Slots} (hready : e.Readied sql parameters statement slots)
    (h : e.Numbers names) : BoundExactly (names statement) parameters slots := by
  have hown := hready.ownParameters h
  obtain ⟨rfl, -⟩ := bindAll_eq_ok h (nodup_keys_spelled parameters) hready.bound
  -- every parameter of the statement is named after a supplied one
  have hvalue : ∀ name? ∈ names statement, ∃ name value, name? = some (placeholderOf name) ∧
      parameters.get? name = some value := by
    intro name? hname
    obtain ⟨name, hkey, rfl⟩ := List.mem_map.1 (hown.perm.mem_iff.1 hname)
    obtain ⟨value, hvalue⟩ := Option.isSome_iff_exists.1 (Entries.isSome_lookup_iff.2 hkey)
    exact ⟨name, value, rfl, hvalue⟩
  refine ⟨hown, ?_, by simp [slotsOf], ?_⟩
  · intro i name hi
    obtain ⟨name', value, hname, hvalue⟩ := hvalue _ (List.mem_of_getElem? hi)
    obtain rfl := placeholderOf_injective (Option.some.inj hname)
    refine ⟨value, hvalue, ?_⟩
    rw [slotsOf, List.getElem?_map, hi]
    simp [lookup_spelled hvalue]
  · intro hnone
    obtain ⟨name?, hname, hunbound⟩ := List.mem_map.1 hnone
    obtain ⟨name, value, rfl, hvalue⟩ := hvalue name? hname
    rw [Option.bind_some, lookup_spelled hvalue] at hunbound
    cases hunbound

/-- A call fails, or it runs a statement with its own parameters bound and no others supplied. -/
def FailsOrRuns (e : Engine τ) (names : τ → List (Option String)) (sql : String)
    (parameters : Parameters) (fails : Prop) (runs : τ → Slots → Prop) : Prop :=
  fails ∨ ∃ statement slots, e.prepare sql = .ok statement ∧
    BoundExactly (names statement) parameters slots ∧ runs statement slots

theorem FailsOrRuns.fails {fails : Prop} {runs : τ → Slots → Prop}
    (h : e.FailsOrRuns names sql parameters fails runs) (hprepared : e.prepare sql = .ok statement)
    (hother : ¬OwnParameters (names statement) parameters) : fails := by
  rcases h with hfails | ⟨statement', slots, hprepared', hbound, _⟩
  · exact hfails
  · rw [hprepared, Except.ok.injEq] at hprepared'
    subst hprepared'
    exact absurd hbound.toOwnParameters hother

theorem query_failsOrRuns (h : e.Numbers names) (sql : String) (parameters : Parameters) :
    e.FailsOrRuns names sql parameters (e.QueryFails sql parameters)
      (e.QueryRuns sql parameters) := by
  cases hready : e.readyToQuery sql parameters with
  | error error =>
    refine .inl ⟨error, fun run => ?_⟩
    rw [query, hready]
    rfl
  | ok ready =>
    obtain ⟨statement, slots⟩ := ready
    have hreadied := readied_of_query hready
    refine .inr ⟨statement, slots, hreadied.prepared, hreadied.boundExactly h, fun run => ?_⟩
    rw [query, hready]
    rfl

theorem execute_failsOrRuns (h : e.Numbers names) (sql : String) (parameters : Parameters) :
    e.FailsOrRuns names sql parameters (e.ExecuteFails sql parameters)
      (e.ExecuteRuns sql parameters) := by
  cases hready : e.readyToExecute sql parameters with
  | error error =>
    refine .inl ⟨error, fun σ run state => ?_⟩
    rw [execute, hready]
  | ok ready =>
    obtain ⟨statement, slots⟩ := ready
    have hreadied := readied_of_execute hready
    refine .inr ⟨statement, slots, hreadied.prepared, hreadied.boundExactly h,
      fun σ run state => ?_⟩
    rw [execute, hready]

end Engine

/-- Queries and executions run a statement only with exactly its own parameters, each bound to its
own value. With any others, and wherever no statement runs, they fail before one does. -/
theorem runs_with_own_parameters_only (h : e.Numbers names) (sql : String)
    (parameters : Parameters) :
    e.FailsOrRuns names sql parameters (e.QueryFails sql parameters)
      (e.QueryRuns sql parameters) ∧
    e.FailsOrRuns names sql parameters (e.ExecuteFails sql parameters)
      (e.ExecuteRuns sql parameters) ∧
    ∀ statement, e.prepare sql = .ok statement → ¬OwnParameters (names statement) parameters →
      e.QueryFails sql parameters ∧ e.ExecuteFails sql parameters := by
  have hquery := e.query_failsOrRuns h sql parameters
  have hexecute := e.execute_failsOrRuns h sql parameters
  refine ⟨hquery, hexecute, fun statement hprepared hother => ?_⟩
  exact ⟨hquery.fails hprepared hother, hexecute.fails hprepared hother⟩

/-! ## Tables -/

/-- A placeholder is found where it stands, as its name stands nowhere else. -/
theorem Placeholders.idxOf?_eq_some_iff (p : Placeholders) {name : String} {i : Nat} :
    p.names.idxOf? (some name) = some i ↔ p.names[i]? = some (some name) := by
  rw [List.idxOf?, List.findIdx?_eq_some_iff_getElem, List.getElem?_eq_some_iff]
  constructor
  · rintro ⟨hi, hname, -⟩
    exact ⟨hi, eq_of_beq hname⟩
  · rintro ⟨hi, hname⟩
    refine ⟨hi, by simp [hname], fun j hji hj => ?_⟩
    have hsame : p.names[j] = p.names[i] := by rw [eq_of_beq hj, hname]
    have hnone := List.pairwise_iff_getElem.1 p.distinct j i (Nat.lt_trans hji hi) hi hji
      hsame
    rw [hsame, hname] at hnone
    cases hnone

namespace Tables

theorem engine_prepare (tables : Tables) (sql : String) :
    tables.engine.prepare sql = tables.plan sql := rfl

theorem engine_numbers (tables : Tables) :
    tables.engine.Numbers fun plan => plan.placeholders.names where
  count _ := rfl
  index plan _ _ := plan.placeholders.idxOf?_eq_some_iff

end Tables

def people : Tables := [⟨"person", ["id"], [[.integer 1], [.integer 2]]⟩]

def removal : String := "DELETE FROM person WHERE id = :id"

def removalPlan : Plan :=
  ⟨.delete ⟨"person", ["id"], [[.integer 1], [.integer 2]]⟩
    [(.column "id" 25, .placeholder ":id")], Placeholders.empty.add ":id"⟩

theorem plan_removal : people.plan removal = .ok removalPlan := by
  have htokens : Token.ofText removal = .ok [⟨.name "DELETE", "DELETE", 0⟩,
      ⟨.name "FROM", "FROM", 7⟩, ⟨.name "person", "person", 12⟩, ⟨.name "WHERE", "WHERE", 19⟩,
      ⟨.name "id", "id", 25⟩, ⟨.symbol '=', "=", 28⟩, ⟨.placeholder, ":id", 30⟩] := by
    decide +kernel
  have hread : Statement.read removal =
      .ok ⟨.delete "person" [(.column "id" 25, .placeholder ":id")],
        Placeholders.empty.add ":id", false⟩ := by
    rw [Statement.read, htokens]
    decide +kernel
  rw [Tables.plan, hread]
  decide +kernel

/-- A removal runs with its parameter, and fails with one of another name. -/
theorem removal_runs_exactly :
    (∃ slots, BoundExactly [some ":id"] (KeyMap.ofList [("id", .int 2)]) slots ∧
      people.engine.ExecuteRuns removal (KeyMap.ofList [("id", .int 2)]) removalPlan slots) ∧
    people.execute ⟨false, 0⟩ removal (KeyMap.ofList [("id", .int 2)]) =
      (.ok 1, ⟨false, 1⟩, [⟨"person", ["id"], [[.integer 1]]⟩]) ∧
    people.engine.ExecuteFails removal (KeyMap.ofList [("no", .int 2)]) := by
  have hprepared : people.engine.prepare removal = .ok removalPlan := by
    rw [Tables.engine_prepare, plan_removal]
  have hready : people.engine.readyToExecute removal (KeyMap.ofList [("id", .int 2)]) =
      .ok (removalPlan, [some (.integer 2)]) := by
    rw [Engine.readyToExecute, hprepared]
    decide +kernel
  have hanswer : people.execute ⟨false, 0⟩ removal (KeyMap.ofList [("id", .int 2)]) =
      (.ok 1, ⟨false, 1⟩, [⟨"person", ["id"], [[.integer 1]]⟩]) := by
    rw [Tables.execute, Engine.execute, hready]
    decide +kernel
  refine ⟨?_, hanswer, ?_⟩
  · have hnumbers := people.engine_numbers
    obtain ⟨error, hfails⟩ | ⟨plan, slots, hplan, hbound, hruns⟩ :=
      (runs_with_own_parameters_only hnumbers removal (KeyMap.ofList [("id", .int 2)])).2.1
    · rw [Tables.execute, hfails] at hanswer
      cases hanswer
    · rw [hprepared] at hplan
      cases hplan
      exact ⟨slots, hbound, hruns⟩
  · have hother :
        ¬OwnParameters removalPlan.placeholders.names (KeyMap.ofList [("no", .int 2)]) := by
      intro hown
      exact absurd hown.perm (by decide +kernel)
    exact ((runs_with_own_parameters_only people.engine_numbers removal _).2.2 removalPlan hprepared
      hother).2

end StatementGate.Store
