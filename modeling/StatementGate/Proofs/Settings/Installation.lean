import Mathlib.Data.List.Nodup
import StatementGate.Gateway.Setup
import StatementGate.Proofs.Lookup
import StatementGate.Proofs.Outcome

/-! # What valid settings install

Validation accepts no two databases of one identity and no two policies whose tables are the same up
to case, so that nothing is lost where later entries replace earlier ones: every entry of valid
settings is found under its own name, and nothing else is. -/

namespace StatementGate

namespace Settings

theorem ensure_eq_ok {kept : Bool} {broken : String} :
    ensure kept broken = .ok () ↔ kept = true := by
  cases kept <;> simp [ensure]

theorem checkDatabases_eq_ok {seen : List String} {databases : List DatabaseSettings} :
    checkDatabases seen databases = .ok () ↔
      (∀ d ∈ databases, d.validate = .ok () ∧ d.id ∉ seen) ∧ (databases.map (·.id)).Nodup := by
  induction databases generalizing seen with
  | nil => simp [checkDatabases]
  | cons d rest ih =>
    simp only [checkDatabases, andThen_eq_ok, ensure_eq_ok, ih]
    simp only [List.map_cons, List.nodup_cons, List.mem_cons, List.mem_map, not_or,
      Bool.not_eq_true', List.contains_eq_mem, decide_eq_false_iff_not]
    grind

theorem checkPolicies_eq_ok {entities tables : List String} {entries : List SanitizationSettings} :
    checkPolicies entities tables entries = .ok () ↔
      (∀ e ∈ entries, e.validate = .ok () ∧ e.entityType ∉ entities ∧
        Ascii.lower e.tableName ∉ tables) ∧
      (entries.map (·.entityType)).Nodup ∧
      (entries.map fun e => Ascii.lower e.tableName).Nodup := by
  induction entries generalizing entities tables with
  | nil => simp [checkPolicies]
  | cons e rest ih =>
    simp only [checkPolicies, andThen_eq_ok, ensure_eq_ok, ih]
    simp only [List.map_cons, List.nodup_cons, List.mem_cons, List.mem_map, not_or,
      Bool.not_eq_true', List.contains_eq_mem, decide_eq_false_iff_not]
    grind

/-- What validation asks of the entries of settings: each is valid on its own, no identity of a
database is taken twice, and no entity type and no table of a policy, tables up to case. -/
structure ValidEntries (s : Settings) : Prop where
  databases : ∀ d ∈ s.databases, d.validate = .ok ()
  identities : (s.databases.map (·.id)).Nodup
  policies : ∀ e ∈ s.sanitization, e.validate = .ok ()
  entityTypes : (s.sanitization.map (·.entityType)).Nodup
  tables : (s.sanitization.map fun e => Ascii.lower e.tableName).Nodup

theorem validEntries_of_validate {s : Settings} (h : s.validate = .ok ()) : s.ValidEntries := by
  simp only [validate, andThen_eq_ok, checkDatabases_eq_ok, checkPolicies_eq_ok] at h
  obtain ⟨_, _, _, _, _, ⟨hdatabases, hidentities⟩, _, hpolicies, hentities, htables⟩ := h
  exact ⟨fun d hd => (hdatabases d hd).1, hidentities, fun e he => (hpolicies e he).1, hentities,
    htables⟩

/-- What settings install of their policies: each is found for its table under any spelling of the
name, nothing is found for other tables, and no entry displaces another. -/
structure InstallsPolicies (s : Settings) (registry : SanitizerRegistry) : Prop where
  policy : ∀ e ∈ s.sanitization, ∀ table, Ascii.equalsIgnoringCase e.tableName table = true →
    registry.policy? table = some e.toPolicy
  noPolicy : ∀ table, (∀ e ∈ s.sanitization, Ascii.equalsIgnoringCase e.tableName table = false) →
    registry.policy? table = none
  policies : registry.policies.size = s.sanitization.length

end Settings

namespace SanitizerRegistry

theorem entries_foldl_register (entries : List SanitizationSettings) (r : SanitizerRegistry) :
    (entries.foldl (fun r e => r.register e.tableName e.toPolicy) r).policies.entries =
      entries.foldl (fun sorted e => Entries.put (Ascii.lower e.tableName) e.toPolicy sorted)
        r.policies.entries :=
  (List.foldl_hom (fun r : SanitizerRegistry => r.policies.entries) fun _ _ => rfl).symm

/-- Policies are put one after another into a map, under the small letters of their tables. -/
theorem policies_ofSettings (entries : List SanitizationSettings) :
    (ofSettings entries).policies =
      KeyMap.ofList (entries.map fun e => (Ascii.lower e.tableName, e.toPolicy)) := by
  apply KeyMap.ext
  intro key
  simp only [KeyMap.get?, KeyMap.ofList, Entries.ofList, List.foldl_map]
  rw [ofSettings, entries_foldl_register]
  rfl

theorem policy?_ofSettings {entries : List SanitizationSettings}
    (hdistinct : (entries.map fun e => Ascii.lower e.tableName).Nodup) {table : String}
    {policy : SanitizationPolicy} :
    (ofSettings entries).policy? table = some policy ↔
      ∃ e ∈ entries, Ascii.equalsIgnoringCase e.tableName table = true ∧ e.toPolicy = policy := by
  rw [policy?, policies_ofSettings, KeyMap.get?_ofList_map hdistinct]
  simp [Ascii.equalsIgnoringCase]

end SanitizerRegistry

namespace Settings

theorem ValidEntries.installsPolicies {s : Settings} (h : s.ValidEntries) :
    s.InstallsPolicies (SanitizerRegistry.ofSettings s.sanitization) := by
  constructor
  · intro e he table htable
    exact (SanitizerRegistry.policy?_ofSettings h.tables).2 ⟨e, he, htable, rfl⟩
  · intro table hother
    apply Option.eq_none_iff_forall_ne_some.2
    intro policy hpolicy
    obtain ⟨e, he, htable, _⟩ := (SanitizerRegistry.policy?_ofSettings h.tables).1 hpolicy
    simp [hother e he] at htable
  · rw [SanitizerRegistry.policies_ofSettings]
    exact KeyMap.size_ofList_map h.tables

section Opening

variable {σ Connection : Type} {access : FileAccess (StateM σ) Connection}

theorem bind_apply {α β : Type} (x : StateM σ α) (f : α → StateM σ β) (state : σ) :
    (x >>= f) state = f (x state).1 (x state).2 :=
  rfl

/-- Every database opens: each as its own entry says, in the state that the ones before it left. -/
inductive OpenInTurn (access : FileAccess (StateM σ) Connection) :
    List DatabaseSettings → σ → List (Backend Connection) → σ → Prop where
  | nil (state : σ) : OpenInTurn access [] state [] state
  | cons {d : DatabaseSettings} {rest : List DatabaseSettings} {state next final : σ}
    {backend : Backend Connection} {backends : List (Backend Connection)} :
    d.openBackend access state = (.ok backend, next) →
    OpenInTurn access rest next backends final →
    OpenInTurn access (d :: rest) state (backend :: backends) final

/-- What settings install of their databases: under the identity of each what was opened for it, and
nothing under other identities. -/
structure InstallsDatabases (s : Settings) (backends : List (Backend Connection))
    (catalog : KeyMap (Backend Connection)) : Prop where
  database : List.Forall₂ (fun d backend => catalog.get? d.id = some backend) s.databases backends
  noDatabase : ∀ id, (∀ d ∈ s.databases, d.id ≠ id) → catalog.get? id = none
  databases : catalog.size = s.databases.length

/-- What opening databases makes of a catalog: they are found as they were opened, the others as
before, and none is lost. -/
structure Adds (databases : List DatabaseSettings) (backends : List (Backend Connection))
    (before after : KeyMap (Backend Connection)) : Prop where
  opened : List.Forall₂ (fun d backend => after.get? d.id = some backend) databases backends
  others : ∀ id, id ∉ databases.map (·.id) → after.get? id = before.get? id
  size : after.size = before.size + databases.length

theorem Adds.cons {d : DatabaseSettings} {rest : List DatabaseSettings}
    {backend : Backend Connection} {backends : List (Backend Connection)}
    {before after : KeyMap (Backend Connection)} (hfree : before.get? d.id = none)
    (hnew : d.id ∉ rest.map (·.id)) (h : Adds rest backends (before.insert d.id backend) after) :
    Adds (d :: rest) (backend :: backends) before after := by
  refine ⟨.cons ?_ h.opened, fun id hid => ?_, ?_⟩
  · rw [h.others d.id hnew, KeyMap.get?_insert_self]
  · rw [List.map_cons, List.mem_cons, not_or] at hid
    rw [h.others id hid.2, KeyMap.get?_insert_ne hid.1]
  · rw [h.size, KeyMap.size_insert_of_free backend hfree, List.length_cons]
    omega

/-- The loop over databases that open adds all of them. -/
theorem OpenInTurn.adds {databases : List DatabaseSettings} {state final : σ}
    {backends : List (Backend Connection)} (h : OpenInTurn access databases state backends final)
    (hdistinct : (databases.map (·.id)).Nodup) (before : KeyMap (Backend Connection))
    (hfree : ∀ d ∈ databases, before.get? d.id = none) :
    ∃ after, openDatabases access before databases state = (.ok after, final) ∧
      Adds databases backends before after := by
  induction h generalizing before with
  | nil state => exact ⟨before, rfl, .nil, fun _ _ => rfl, rfl⟩
  | @cons d rest state next final backend backends hopen _ ih =>
    rw [List.map_cons, List.nodup_cons] at hdistinct
    rw [List.forall_mem_cons] at hfree
    have hrest : ∀ d' ∈ rest, (before.insert d.id backend).get? d'.id = none := by
      intro d' hd'
      have hne : d'.id ≠ d.id := fun heq => hdistinct.1 (List.mem_map.2 ⟨d', hd', heq⟩)
      rw [KeyMap.get?_insert_ne hne, hfree.2 d' hd']
    obtain ⟨after, hafter, hadds⟩ := ih hdistinct.2 _ hrest
    refine ⟨after, ?_, .cons hfree.1 hdistinct.1 hadds⟩
    rw [openDatabases, bind_apply, hopen]
    exact hafter

/-- Valid settings whose files open are set up with all that they describe. -/
theorem openGateway_of_opens {s : Settings} (hvalid : s.validate = .ok ()) {state next final : σ}
    {backends : List (Backend Connection)}
    (htrail : s.audit.openTrail access state = (.ok (), next))
    (hopens : OpenInTurn access s.databases next backends final) :
    ∃ catalog, s.InstallsDatabases backends catalog ∧
      s.openGateway access state =
        (.ok ⟨catalog, SanitizerRegistry.ofSettings s.sanitization, s.approval.timeoutMs⟩,
          final) := by
  have hdistinct := (validEntries_of_validate hvalid).identities
  obtain ⟨catalog, hcatalog, hadds⟩ := hopens.adds hdistinct .empty fun _ _ => rfl
  refine ⟨catalog, ⟨hadds.opened, fun id hid => ?_, ?_⟩, ?_⟩
  · exact hadds.others id (by simpa using hid)
  · simpa [KeyMap.size, KeyMap.empty] using hadds.size
  · rw [openGateway, hvalid]
    dsimp only
    rw [bind_apply, htrail]
    dsimp only
    rw [bind_apply, hcatalog]
    rfl

end Opening

/-- Valid settings are installed without loss. Their policies are found under every spelling of their
tables, whether given or derived from entity types. If the audit trail and every database open, the
gateway that is set up has these policies and finds under the identity of each database what was
opened for it. -/
theorem validated_installed {s : Settings} (h : s.validate = .ok ()) :
    s.InstallsPolicies (SanitizerRegistry.ofSettings s.sanitization) ∧
      ∀ (σ Connection : Type) (access : FileAccess (StateM σ) Connection) (state next final : σ)
        (backends : List (Backend Connection)),
        s.audit.openTrail access state = (.ok (), next) →
        OpenInTurn access s.databases next backends final →
        ∃ catalog, s.InstallsDatabases backends catalog ∧
          s.openGateway access state =
            (.ok ⟨catalog, SanitizerRegistry.ofSettings s.sanitization, s.approval.timeoutMs⟩,
              final) :=
  ⟨(validEntries_of_validate h).installsPolicies, fun _ _ _ _ _ _ _ htrail hopens =>
    openGateway_of_opens h htrail hopens⟩

/-- Two databases, a policy for a table derived from its entity type and one for a given table. -/
def ledgers : Settings where
  server := {}
  approval := {}
  audit := { path := some "audit.log" }
  databases := [{ id := "main", path := "main.db" },
    { id := "archive", path := " archive.db", readOnly := true, busyTimeoutMs := 250 }]
  sanitization := [⟨"LedgerKey", none, .passThrough, KeyMap.empty⟩,
    ⟨"Ledger", some "Ledger_Entries", .columnMask, KeyMap.ofList [("owner", .fixed)]⟩]

/-- Files that can all be opened; what is opened is remembered. A connection is the number of files
that were open before it, and how long it waits for a busy one. -/
def openFiles : FileAccess (StateM (List String)) (Nat × Nat) where
  read _ opened := (.ok [], opened)
  openLog path opened := (.ok (), opened ++ [path])
  openDatabase path _ busyTimeoutMs opened :=
    (.ok (opened.length, busyTimeoutMs), opened ++ [path])

theorem ledgers_installed :
    ledgers.validate = .ok () ∧
      ledgers.InstallsPolicies (SanitizerRegistry.ofSettings ledgers.sanitization) ∧
      (SanitizerRegistry.ofSettings ledgers.sanitization).policy? "LEDGER_key" =
        some .passThrough ∧
      ∃ catalog, ledgers.InstallsDatabases [⟨(1, 5000), false⟩, ⟨(2, 250), true⟩] catalog ∧
        ledgers.openGateway openFiles [] =
          (.ok ⟨catalog, SanitizerRegistry.ofSettings ledgers.sanitization, 300000⟩,
            ["audit.log", "main.db", "archive.db"]) := by
  have hvalid : ledgers.validate = .ok () := by decide +kernel
  obtain ⟨hpolicies, hopens⟩ := validated_installed hvalid
  refine ⟨hvalid, hpolicies, ?_, ?_⟩
  · exact hpolicies.policy ⟨"LedgerKey", none, .passThrough, KeyMap.empty⟩ (.head _) "LEDGER_key"
      (by decide +kernel)
  · have hopened : ∀ (d : DatabaseSettings) (opened : List String), d.openBackend openFiles opened =
        (.ok ⟨(opened.length, d.busyTimeoutMs), d.readOnly⟩, opened ++ [trimBlanks d.path]) :=
      fun _ _ => rfl
    have hpaths : ledgers.databases.map (fun d => trimBlanks d.path) =
        ["main.db", "archive.db"] := by decide +kernel
    have hturns : OpenInTurn openFiles ledgers.databases ["audit.log"]
        [⟨(1, 5000), false⟩, ⟨(2, 250), true⟩]
        ("audit.log" :: ledgers.databases.map fun d => trimBlanks d.path) :=
      .cons (hopened _ _) (.cons (hopened _ _) (.nil _))
    rw [hpaths] at hturns
    have htrail : ledgers.audit.openTrail openFiles [] = (.ok (), [trimBlanks "audit.log"]) := rfl
    have hlog : trimBlanks "audit.log" = "audit.log" := by decide +kernel
    rw [hlog] at htrail
    exact hopens _ _ openFiles [] _ _ _ htrail hturns

end Settings

end StatementGate
