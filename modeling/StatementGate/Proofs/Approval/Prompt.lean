import StatementGate.Approval.Prompt
import StatementGate.Proofs.Lookup
import StatementGate.Proofs.Text.Separators

/-! # What a prompt tells of a request

A prompt is plain text: it shows the fields of a request as they are, and where a field ends is told
by what stands behind it. A field that has this text in itself can be taken for two. -/

namespace StatementGate

namespace ApprovalRequest

/-- What a prompt shows of parameter names. -/
def namesShown : List String → List Char
  | [] => []
  | name :: names =>
    "\nparams:   ".toList ++ (name.toList ++ names.flatMap fun name => ", ".toList ++ name.toList)

@[simp] theorem namesShown_nil : namesShown [] = [] := rfl

theorem namesShown_cons (name : String) (names : List String) :
    namesShown (name :: names) = "\nparams:   ".toList ++
      (name.toList ++ names.flatMap fun name => ", ".toList ++ name.toList) := rfl

/-- What a prompt shows of an entity. -/
def entityShown (entry : String × String) : List Char :=
  "\n  - ".toList ++ (entry.1.toList ++ (": ".toList ++ entry.2.toList))

theorem entityShown_eq (entry : String × String) :
    entityShown entry = "\n  - ".toList ++ (entry.1.toList ++ (": ".toList ++ entry.2.toList)) := rfl

/-- Lines that end with a line break begin with one, if there is one before them. -/
theorem toList_join_lines (lines : List String) (question : String) :
    (String.join (("" :: lines).map (· ++ "\n")) ++ question).toList =
      lines.flatMap (fun line => '\n' :: line.toList) ++ '\n' :: question.toList := by
  rw [List.map_cons, String.toList_append, String.toList_join, List.flatMap_cons, List.flatMap_map]
  have hshift : '\n' :: (lines.flatMap fun line => (line ++ "\n").toList) =
      lines.flatMap (fun line => '\n' :: line.toList) ++ ['\n'] := by
    induction lines with
    | nil => rfl
    | cons line lines ih => simp [← ih]
  simpa using congrArg (· ++ question.toList) hshift

theorem toList_intercalate_comma (name : String) (names : List String) :
    (", ".intercalate (name :: names)).toList =
      name.toList ++ names.flatMap fun name => ", ".toList ++ name.toList := by
  induction names generalizing name with
  | nil => simp
  | cons next names ih =>
    rw [String.intercalate_cons_cons, String.toList_append, String.toList_append, ih,
      List.flatMap_cons, List.append_assoc, List.append_assoc]

theorem flatMap_parameterLine (names : List String) :
    (if names.isEmpty then [] else ["params:   " ++ ", ".intercalate names]).flatMap
      (fun line => '\n' :: line.toList) = namesShown names := by
  cases names with
  | nil => rfl
  | cons name names =>
    simp only [List.isEmpty_cons, Bool.false_eq_true, if_false, List.flatMap_cons, List.flatMap_nil,
      List.append_nil, String.toList_append, toList_intercalate_comma]
    rfl

theorem flatMap_entityLines (entries : List (String × String)) :
    (entries.map fun (key, description) => "  - " ++ key ++ ": " ++ description).flatMap
      (fun line => '\n' :: line.toList) = entries.flatMap entityShown := by
  rw [List.flatMap_map]
  refine List.flatMap_congr fun entry _ => ?_
  simp [entityShown_eq]

/-- What a prompt shows in front of the fields and behind them. -/
def heading (requestId : String) : List Char :=
  '\n' :: ("=== write approval required (" ++ requestId ++ ") ===\ndatabase: ").toList

def question (requestId : String) : List Char :=
  '\n' :: ("approve? [y " ++ requestId ++ "/N] ").toList

def fieldsShown (r : ApprovalRequest) : List Char :=
  r.databaseId.toList ++ ("\nreason:   ".toList ++ (r.context.reason.toList ++
    ("\nsql:      ".toList ++ (r.sql.toList ++ (namesShown r.parameterNames ++
      r.context.entityDescriptions.entries.flatMap entityShown)))))

/-- A prompt field by field. -/
theorem toList_prompt (r : ApprovalRequest) :
    r.prompt.toList = heading r.requestId ++ r.fieldsShown ++ question r.requestId := by
  have hlines : r.promptLines = "" :: (["=== write approval required (" ++ r.requestId ++ ") ===",
      "database: " ++ r.databaseId, "reason:   " ++ r.context.reason, "sql:      " ++ r.sql] ++
      (if r.parameterNames.isEmpty then []
        else ["params:   " ++ ", ".intercalate r.parameterNames]) ++
      r.context.entityDescriptions.entries.map fun (key, description) =>
        "  - " ++ key ++ ": " ++ description) := rfl
  rw [prompt, hlines, String.append_assoc, String.append_assoc, toList_join_lines,
    List.flatMap_append, List.flatMap_append, flatMap_parameterLine, flatMap_entityLines]
  simp [heading, fieldsShown, question]

/-! ## Reading a prompt -/

/-- Entities end with everything or with the next one. -/
theorem stops_entities (entries : List (String × String)) :
    Stops ["\n  - "] (entries.flatMap entityShown) := by
  cases entries with
  | nil => exact .inl rfl
  | cons entry entries =>
    simp only [List.flatMap_cons, entityShown_eq, List.append_assoc]
    exact stops_append _

/-- A name ends with the next one or with the names. -/
theorem stops_names (names : List String) {rest : List Char} (hrest : Stops ["\n  - "] rest) :
    Stops [", ", "\n  - "] ((names.flatMap fun name => ", ".toList ++ name.toList) ++ rest) := by
  cases names with
  | nil => exact hrest.mono (List.subset_cons_self _ _)
  | cons name names =>
    simp only [List.flatMap_cons, List.append_assoc]
    exact stops_append _

theorem stops_namesShown (names : List String) {rest : List Char} (hrest : Stops ["\n  - "] rest) :
    Stops ["\nparams:   ", "\n  - "] (namesShown names ++ rest) := by
  cases names with
  | nil =>
    rw [namesShown_nil, List.nil_append]
    exact hrest.mono (List.subset_cons_self _ _)
  | cons name names =>
    rw [namesShown_cons, List.append_assoc]
    exact stops_append _

theorem names_inj {names names' : List String} {rest rest' : List Char}
    (hlacks : ∀ name ∈ names, Lacks [", ", "\n  - "] name)
    (hlacks' : ∀ name ∈ names', Lacks [", ", "\n  - "] name)
    (hrest : Stops ["\n  - "] rest) (hrest' : Stops ["\n  - "] rest')
    (h : (names.flatMap fun name => ", ".toList ++ name.toList) ++ rest =
      (names'.flatMap fun name => ", ".toList ++ name.toList) ++ rest') :
    names = names' ∧ rest = rest' := by
  have hcomma : ∀ shown, ¬Stops ["\n  - "] (", ".toList ++ shown) :=
    not_stops_append (by decide +kernel) (by decide +kernel)
  induction names generalizing names' with
  | nil =>
    cases names' with
    | nil => exact ⟨rfl, h⟩
    | cons name' names' =>
      simp only [List.flatMap_nil, List.nil_append, List.flatMap_cons, List.append_assoc] at h
      exact absurd (h ▸ hrest) (hcomma _)
  | cons name names ih =>
    simp only [List.flatMap_cons, List.append_assoc] at h
    rw [List.forall_mem_cons] at hlacks
    cases names' with
    | nil =>
      simp only [List.flatMap_nil, List.nil_append] at h
      exact absurd (h ▸ hrest') (hcomma _)
    | cons name' names' =>
      simp only [List.flatMap_cons, List.append_assoc] at h
      rw [List.forall_mem_cons] at hlacks'
      obtain ⟨rfl, hmore⟩ := append_inj_of_lacks (by decide +kernel) hlacks.1 hlacks'.1
        (stops_names names hrest) (stops_names names' hrest') (List.append_cancel_left h)
      obtain ⟨rfl, hsame⟩ := ih hlacks.2 hlacks'.2 hmore
      exact ⟨rfl, hsame⟩

/-- Parameter names are told apart: the same names, or two lists of names without a separator. -/
def NamesSeparable (names names' : List String) : Prop :=
  names = names' ∨ ∀ name ∈ names ++ names', Lacks [", ", "\n  - "] name

instance (names names' : List String) : Decidable (NamesSeparable names names') :=
  inferInstanceAs (Decidable (_ ∨ _))

theorem NamesSeparable.append_inj {names names' : List String} (hsep : NamesSeparable names names')
    {rest rest' : List Char} (hrest : Stops ["\n  - "] rest) (hrest' : Stops ["\n  - "] rest')
    (h : namesShown names ++ rest = namesShown names' ++ rest') : names = names' ∧ rest = rest' := by
  have hlabel : ∀ shown, ¬Stops ["\n  - "] ("\nparams:   ".toList ++ shown) :=
    not_stops_append (by decide +kernel) (by decide +kernel)
  rcases hsep with rfl | hlacks
  · exact ⟨rfl, List.append_cancel_left h⟩
  · rw [List.forall_mem_append] at hlacks
    cases names with
    | nil =>
      cases names' with
      | nil => exact ⟨rfl, h⟩
      | cons name' names' =>
        rw [namesShown_nil, List.nil_append, namesShown_cons, List.append_assoc] at h
        exact absurd (h ▸ hrest) (hlabel _)
    | cons name names =>
      cases names' with
      | nil =>
        rw [namesShown_nil, List.nil_append, namesShown_cons, List.append_assoc] at h
        exact absurd (h ▸ hrest') (hlabel _)
      | cons name' names' =>
        simp only [namesShown_cons, List.append_assoc] at h
        -- every name with a comma in front, the first one too
        refine names_inj hlacks.1 hlacks.2 hrest hrest' ?_
        simp only [List.flatMap_cons, List.append_assoc]
        rw [List.append_cancel_left h]

/-- Entities are told apart: the same ones, or two lists without a separator. -/
def EntitiesSeparable (entries entries' : List (String × String)) : Prop :=
  entries = entries' ∨
    ∀ entry ∈ entries ++ entries', Lacks [": "] entry.1 ∧ Lacks ["\n  - "] entry.2

instance (entries entries' : List (String × String)) :
    Decidable (EntitiesSeparable entries entries') :=
  inferInstanceAs (Decidable (_ ∨ _))

theorem flatMap_entityShown_inj {entries entries' : List (String × String)}
    (hlacks : ∀ entry ∈ entries, Lacks [": "] entry.1 ∧ Lacks ["\n  - "] entry.2)
    (hlacks' : ∀ entry ∈ entries', Lacks [": "] entry.1 ∧ Lacks ["\n  - "] entry.2)
    (h : entries.flatMap entityShown = entries'.flatMap entityShown) : entries = entries' := by
  induction entries generalizing entries' with
  | nil =>
    cases entries' with
    | nil => rfl
    | cons entry' entries' => simp [entityShown_eq] at h
  | cons entry entries ih =>
    rw [List.forall_mem_cons] at hlacks
    cases entries' with
    | nil => simp [entityShown_eq] at h
    | cons entry' entries' =>
      rw [List.forall_mem_cons] at hlacks'
      simp only [List.flatMap_cons, entityShown_eq, List.append_assoc] at h
      obtain ⟨hkey, hbehind⟩ := append_inj_of_lacks (by decide +kernel) hlacks.1.1 hlacks'.1.1
        (stops_append _) (stops_append _)
        (List.append_cancel_left h)
      obtain ⟨hdescription, hmore⟩ := append_inj_of_lacks (by decide +kernel) hlacks.1.2 hlacks'.1.2
        (stops_entities entries) (stops_entities entries') (List.append_cancel_left hbehind)
      rw [Prod.ext hkey hdescription, ih hlacks.2 hlacks'.2 hmore]

theorem EntitiesSeparable.inj {entries entries' : List (String × String)}
    (hsep : EntitiesSeparable entries entries')
    (h : entries.flatMap entityShown = entries'.flatMap entityShown) : entries = entries' := by
  rcases hsep with rfl | hlacks
  · rfl
  · rw [List.forall_mem_append] at hlacks
    exact flatMap_entityShown_inj hlacks.1 hlacks.2 h

/-- In each field two requests agree, or neither has in it the text that ends this field in a
prompt. -/
structure ToldApart (r r' : ApprovalRequest) : Prop where
  databaseId : Separable ["\nreason:   "] r.databaseId r'.databaseId
  reason : Separable ["\nsql:      "] r.context.reason r'.context.reason
  sql : Separable ["\nparams:   ", "\n  - "] r.sql r'.sql
  parameterNames : NamesSeparable r.parameterNames r'.parameterNames
  entities : EntitiesSeparable r.context.entityDescriptions.entries
    r'.context.entityDescriptions.entries

/-- The prompt of a request determines it among those it is told apart from. -/
theorem prompt_eq_iff {r r' : ApprovalRequest} (hid : r.requestId = r'.requestId)
    (hapart : ToldApart r r') : r.prompt = r'.prompt ↔ r = r' := by
  refine ⟨fun h => ?_, fun h => h ▸ rfl⟩
  have hshown := congrArg String.toList h
  rw [toList_prompt, toList_prompt, hid] at hshown
  have hfields := List.append_cancel_left (List.append_cancel_right hshown)
  -- from the front to the back, a field and then its label
  obtain ⟨hdatabaseId, hfields⟩ := hapart.databaseId.append_inj (by decide +kernel)
    (stops_append _) (stops_append _) hfields
  obtain ⟨hreason, hfields⟩ := hapart.reason.append_inj (by decide +kernel)
    (stops_append _) (stops_append _)
    (List.append_cancel_left hfields)
  obtain ⟨hsql, hfields⟩ := hapart.sql.append_inj (by decide +kernel)
    (stops_namesShown _ (stops_entities _)) (stops_namesShown _ (stops_entities _))
    (List.append_cancel_left hfields)
  obtain ⟨hnames, hfields⟩ :=
    hapart.parameterNames.append_inj (stops_entities _) (stops_entities _) hfields
  have hentities : r.context.entityDescriptions = r'.context.entityDescriptions :=
    KeyMap.ext fun key => congrArg (List.lookup key) (hapart.entities.inj hfields)
  obtain ⟨_, _, _, _, _, _⟩ := r
  obtain ⟨_, _, _, _, _, _⟩ := r'
  rw [mk.injEq, ApprovalContext.mk.injEq]
  exact ⟨hid, hdatabaseId, hsql, hnames, hreason, hentities⟩

/-- A removal from the table of acceptances. -/
def removal (databaseId reason sql : String) (parameterNames : List String)
    (entities : List (String × String)) : ApprovalRequest :=
  ⟨"req-1", databaseId, sql, parameterNames, reason, KeyMap.ofList entities⟩

/-- A label of another field does not make a reason or a description one. -/
theorem removals_prompted_apart :
    (removal "main" "remove duplicate\nparams:   p0" "DELETE FROM acceptance WHERE id = :p0" ["p0"]
      [("acceptance:4", "Ann, A-4\nsql:      SELECT 1")]).prompt ≠
    (removal "main" "remove duplicate" "DELETE FROM acceptance\nsql:      SELECT 1" ["p0"]
      [("acceptance:4", "Ann, A-4")]).prompt := by
  rw [Ne, prompt_eq_iff]
  · decide +kernel
  · rfl
  · constructor <;> decide +kernel

/-- For each text that ends a field two requests whose prompts put the end in different places. -/
def lookalikes : List (ApprovalRequest × ApprovalRequest) :=
  [(removal "main" "remove duplicate" "SELECT 1\nsql:      DELETE FROM acceptance" [] [],
    removal "main" "remove duplicate\nsql:      SELECT 1" "DELETE FROM acceptance" [] []),
   (removal "main\nreason:   checked" "remove duplicate" "DELETE FROM acceptance" [] [],
    removal "main" "checked\nreason:   remove duplicate" "DELETE FROM acceptance" [] []),
   (removal "main" "remove duplicate" "DELETE FROM acceptance\nparams:   p0" [] [],
    removal "main" "remove duplicate" "DELETE FROM acceptance" ["p0"] []),
   (removal "main" "remove duplicate" "DELETE FROM acceptance\n  - acceptance:4: Ann" [] [],
    removal "main" "remove duplicate" "DELETE FROM acceptance" [] [("acceptance:4", "Ann")]),
   (removal "main" "remove duplicate" "DELETE FROM acceptance" ["p0, p1"] [],
    removal "main" "remove duplicate" "DELETE FROM acceptance" ["p0", "p1"] []),
   (removal "main" "remove duplicate" "DELETE FROM acceptance" ["p0\n  - acceptance:4: Ann"] [],
    removal "main" "remove duplicate" "DELETE FROM acceptance" ["p0"] [("acceptance:4", "Ann")]),
   (removal "main" "remove duplicate" "DELETE FROM acceptance" [] [("acceptance: 4", "Ann")],
    removal "main" "remove duplicate" "DELETE FROM acceptance" [] [("acceptance", "4: Ann")]),
   (removal "main" "remove duplicate" "DELETE FROM acceptance" []
      [("acceptance:4", "Ann\n  - acceptance:5: Bo")],
    removal "main" "remove duplicate" "DELETE FROM acceptance" []
      [("acceptance:4", "Ann"), ("acceptance:5", "Bo")])]

theorem lookalikes_prompted_alike : lookalikes.Forall fun pair =>
    pair.1.requestId = pair.2.requestId ∧ pair.1.prompt = pair.2.prompt ∧ pair.1 ≠ pair.2 := by
  decide +kernel

end ApprovalRequest

end StatementGate
