import StatementGate.Proofs.Settings.Installation

/-! # Masks of listed columns

A policy masks a column by the first of its listed columns, in the order of their names, that is the
same up to case. Validation compares tables up to case but not columns: of two listed columns that
differ in case alone, the mask of the second is never used. -/

namespace StatementGate

namespace KeyMap

variable {α : Type} {m : KeyMap α} {entry : String × α} (test : String → Bool)

/-- The first entry that passes a test of its key has the least key that passes. -/
theorem le_of_find? (h : (m.entries.find? fun e => test e.1) = some entry) :
    ∀ key ∈ m.keys, test key = true → entry.1 ≤ key := by
  intro key hkey htest
  obtain ⟨_, before, after, hentries, hbefore⟩ := List.find?_eq_some_iff_append.1 h
  have hascending : Entries.Ascending (before ++ entry :: after) := hentries ▸ m.ascending
  obtain ⟨other, hother, rfl⟩ := List.mem_map.1 hkey
  rw [hentries, List.mem_append, List.mem_cons] at hother
  rcases hother with hother | rfl | hother
  · exact absurd htest (by simpa using hbefore other hother)
  · exact String.le_refl _
  · have hafter := (List.pairwise_append.1 hascending).2.1
    exact Std.le_of_lt (Entries.Ascending.head_lt hafter other hother)

theorem find?_eq_some :
    (m.entries.find? fun e => test e.1) = some entry ↔
      entry ∈ m.entries ∧ test entry.1 = true ∧
        ∀ key ∈ m.keys, test key = true → entry.1 ≤ key := by
  constructor
  · intro h
    exact ⟨List.mem_of_find?_eq_some h, by simpa using List.find?_some h, le_of_find? test h⟩
  · rintro ⟨hmem, htest, hleast⟩
    have hfound : (m.entries.find? fun e => test e.1).isSome := by
      rw [List.find?_isSome]
      exact ⟨entry, hmem, htest⟩
    obtain ⟨first, hfirst⟩ := Option.isSome_iff_exists.1 hfound
    have hmem' := List.mem_of_find?_eq_some hfirst
    have hkey : first.1 = entry.1 := by
      apply String.le_antisymm
      · exact le_of_find? test hfirst entry.1 (List.mem_map_of_mem hmem) htest
      · exact hleast first.1 (List.mem_map_of_mem hmem') (by simpa using List.find?_some hfirst)
    have hvalue : first.2 = entry.2 := by
      have hlookup := Entries.lookup_of_mem m.ascending.keys_nodup hmem'
      rw [hkey, Entries.lookup_of_mem m.ascending.keys_nodup hmem] at hlookup
      exact (Option.some.inj hlookup).symm
    rw [hfirst, Prod.ext hkey hvalue]

end KeyMap

namespace SanitizationPolicy

theorem rule?_columnMask (rules : KeyMap MaskRule) (column : String) :
    (columnMask rules).rule? column =
      (rules.entries.find? fun e => Ascii.equalsIgnoringCase e.1 column).map Prod.snd :=
  rfl

/-- A column is masked alike in all its spellings. -/
theorem rule?_congr (policy : SanitizationPolicy) {a b : String}
    (h : Ascii.equalsIgnoringCase a b = true) : policy.rule? a = policy.rule? b := by
  cases policy with
  | passThrough => rfl
  | columnMask rules =>
    simp only [rule?_columnMask, Ascii.equalsIgnoringCase]
    rw [eq_of_beq h]

end SanitizationPolicy

/-- The first of the listed columns, in the order of their names, that is the given one up to case,
and its rule. -/
structure FirstSpelling (columns : KeyMap MaskRule) (column name : String) (rule : MaskRule) :
    Prop where
  listed : (name, rule) ∈ columns.entries
  same : Ascii.equalsIgnoringCase name column = true
  first : ∀ other ∈ columns.keys, Ascii.equalsIgnoringCase other column = true → name ≤ other

namespace SanitizationSettings

variable {entry : SanitizationSettings}

/-- A valid policy that lists columns masks them. -/
theorem toPolicy_of_validate (h : entry.validate = .ok ()) :
    entry.toPolicy = .columnMask entry.columns ∨
      entry.toPolicy = .passThrough ∧ entry.columns.entries = [] := by
  simp only [validate, andThen_eq_ok] at h
  obtain ⟨_, _, hpolicy, _⟩ := h
  simp only [checkPolicy] at hpolicy
  cases hkind : entry.policy with
  | columnMask => simp [toPolicy, hkind]
  | passThrough =>
    simp only [hkind, Settings.ensure_eq_ok] at hpolicy
    simpa [toPolicy, hkind] using hpolicy

theorem rule?_eq_some (h : entry.validate = .ok ()) {column : String} {rule : MaskRule} :
    entry.toPolicy.rule? column = some rule ↔
      ∃ name, FirstSpelling entry.columns column name rule := by
  let same (name : String) : Bool := Ascii.equalsIgnoringCase name column
  rcases toPolicy_of_validate h with hpolicy | ⟨hpolicy, hcolumns⟩
  · rw [hpolicy, SanitizationPolicy.rule?_columnMask, Option.map_eq_some_iff]
    constructor
    · rintro ⟨⟨name, _⟩, hfound, rfl⟩
      obtain ⟨hlisted, hsame, hfirst⟩ := (KeyMap.find?_eq_some same).1 hfound
      exact ⟨name, hlisted, hsame, hfirst⟩
    · rintro ⟨name, hlisted, hsame, hfirst⟩
      exact ⟨(name, rule), (KeyMap.find?_eq_some same).2 ⟨hlisted, hsame, hfirst⟩, rfl⟩
  · rw [hpolicy, SanitizationPolicy.rule?]
    constructor
    · intro hrule
      cases hrule
    · rintro ⟨name, hlisted, _, _⟩
      simp [hcolumns] at hlisted

/-- Some mask is used for every listed column. -/
theorem exists_rule? (h : entry.validate = .ok ()) {column : String}
    (hcolumn : column ∈ entry.columns.keys) : ∃ rule, entry.toPolicy.rule? column = some rule := by
  obtain ⟨listed, hlisted, rfl⟩ := List.mem_map.1 hcolumn
  rcases toPolicy_of_validate h with hpolicy | ⟨_, hcolumns⟩
  · rw [hpolicy, SanitizationPolicy.rule?_columnMask, ← Option.isSome_iff_exists,
      Option.isSome_map, List.find?_isSome]
    exact ⟨listed, hlisted, by simp [Ascii.equalsIgnoringCase]⟩
  · simp [hcolumns] at hlisted

end SanitizationSettings

/-- The columns of a policy of valid settings are masked by the first of their listed spellings. So
some mask is used for every listed column, and each listed mask is used exactly if the columns that
differ in case alone have the same rule. -/
theorem column_masks_used {s : Settings} {entry : SanitizationSettings} (h : s.validate = .ok ())
    (hentry : entry ∈ s.sanitization) :
    (∀ column rule, entry.toPolicy.rule? column = some rule ↔
      ∃ name, FirstSpelling entry.columns column name rule) ∧
    (∀ column ∈ entry.columns.keys, ∃ rule, entry.toPolicy.rule? column = some rule) ∧
    ((∀ column rule, (column, rule) ∈ entry.columns.entries →
        entry.toPolicy.rule? column = some rule) ↔
      ∀ a ∈ entry.columns.entries, ∀ b ∈ entry.columns.entries,
        Ascii.equalsIgnoringCase a.1 b.1 = true → a.2 = b.2) := by
  have hvalid := (Settings.validEntries_of_validate h).policies entry hentry
  refine ⟨fun _ _ => SanitizationSettings.rule?_eq_some hvalid,
    fun _ => SanitizationSettings.exists_rule? hvalid, ?_, ?_⟩
  · intro hused a ha b hb hsame
    have hrule := entry.toPolicy.rule?_congr hsame
    rw [hused a.1 a.2 ha, hused b.1 b.2 hb] at hrule
    exact Option.some.inj hrule
  · intro hagree column rule hlisted
    obtain ⟨used, hused⟩ := SanitizationSettings.exists_rule? hvalid (List.mem_map_of_mem hlisted)
    obtain ⟨name, hname, hsame, _⟩ := (SanitizationSettings.rule?_eq_some hvalid).1 hused
    exact hused.trans (congrArg some (hagree _ hname _ hlisted hsame))

/-- Settings with one policy, for the columns of people. -/
def masking (columns : List (String × MaskRule)) : Settings where
  server := {}
  approval := {}
  audit := { enabled := false }
  databases := [{ id := "main", path := "main.db" }]
  sanitization := [⟨"Person", none, .columnMask, KeyMap.ofList columns⟩]

/-- Two spellings of one column with the same rule. -/
def sameRuleTwice : List (String × MaskRule) :=
  [("email", .fixed), ("Email", .fixed), ("phone", .null)]

theorem sameRuleTwice_used :
    (masking sameRuleTwice).validate = .ok () ∧ ∀ entry ∈ (masking sameRuleTwice).sanitization,
      ∀ column rule, (column, rule) ∈ entry.columns.entries →
        entry.toPolicy.rule? column = some rule := by
  have hvalid : (masking sameRuleTwice).validate = .ok () := by decide +kernel
  refine ⟨hvalid, fun entry hentry => ?_⟩
  apply (column_masks_used hvalid hentry).2.2.2
  obtain rfl := List.mem_singleton.1 hentry
  decide +kernel

/-- Two spellings of one column with different rules. -/
def otherRuleTwice : List (String × MaskRule) := [("Email", .fixed), ("email", .null)]

/-- The settings are valid, and the mask listed for the second spelling is not the one used. -/
theorem second_spelling_unused :
    (masking otherRuleTwice).validate = .ok () ∧
      (masking otherRuleTwice).sanitization.map (fun entry =>
        (entry.columns.get? "email", entry.toPolicy.rule? "email")) =
          [(some .null, some .fixed)] := by
  decide +kernel

end StatementGate
