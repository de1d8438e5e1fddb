import Mathlib.Data.List.Induction
import StatementGate.Proofs.Sanitization.Masking

/-! # Policies of tables and columns

Registering a policy replaces the one that the table has under any spelling of its name. What is found
for a result column is the policy of the table it comes from and the first mask for its source. -/

namespace StatementGate

variable {classes : CharClasses}

namespace SanitizationPolicy

/-- The rule is the first one, in the order of their names, whose name is that of the column up to
case. -/
def Masks (policy : SanitizationPolicy) (column : String) (rule : MaskRule) : Prop :=
  ∃ rules before name after, policy = .columnMask rules ∧
    rules.entries = before ++ (name, rule) :: after ∧
    Ascii.equalsIgnoringCase name column = true ∧
    ∀ entry ∈ before, Ascii.equalsIgnoringCase entry.1 column = false

theorem rule?_eq_some {policy : SanitizationPolicy} {column : String} {rule : MaskRule} :
    policy.rule? column = some rule ↔ policy.Masks column rule := by
  cases policy with
  | passThrough => simp [rule?, Masks]
  | columnMask rules =>
    simp only [rule?, Option.map_eq_some_iff, List.find?_eq_some_iff_append]
    constructor
    · rintro ⟨⟨name, rule⟩, ⟨hname, before, after, hentries, hbefore⟩, rfl⟩
      exact ⟨rules, before, name, after, rfl, hentries, hname, by simpa using hbefore⟩
    · rintro ⟨_, before, name, after, heq, hentries, hname, hbefore⟩
      cases heq
      exact ⟨(name, rule), ⟨hname, before, after, hentries, by simpa using hbefore⟩, rfl⟩

end SanitizationPolicy

/-- A table name and the policy registered for it. -/
abbrev Registration := String × SanitizationPolicy

/-- The policy is the one registered last for the table, under any spelling of its name. -/
def HasPolicy (registrations : List Registration) (table : String) (policy : SanitizationPolicy) :
    Prop :=
  ∃ before name after, registrations = before ++ (name, policy) :: after ∧
    Ascii.equalsIgnoringCase name table = true ∧
    ∀ entry ∈ after, Ascii.equalsIgnoringCase entry.1 table = false

namespace SanitizerRegistry

/-- The registry that registrations one after another lead to. -/
def registered (classes : CharClasses) (registrations : List Registration) : SanitizerRegistry :=
  registrations.foldl (fun r entry => r.register entry.1 entry.2) ⟨KeyMap.empty, classes⟩

theorem classes_registered (registrations : List Registration) :
    (registered classes registrations).classes = classes := by
  let keeps (r : SanitizerRegistry) : Prop := r.classes = classes
  have hstart : keeps ⟨KeyMap.empty, classes⟩ := rfl
  exact List.foldlRecOn registrations _ hstart fun _ h _ _ => h

theorem registered_concat (registrations : List Registration) (entry : Registration) :
    registered classes (registrations ++ [entry]) =
      (registered classes registrations).register entry.1 entry.2 := by
  rw [registered, List.foldl_append]
  rfl

theorem policy?_register (r : SanitizerRegistry) (name table : String)
    (policy : SanitizationPolicy) :
    (r.register name policy).policy? table =
      if Ascii.equalsIgnoringCase name table then some policy else r.policy? table := by
  rw [policy?, policy?, register, Ascii.equalsIgnoringCase]
  by_cases hname : Ascii.lower name = Ascii.lower table
  · rw [hname, KeyMap.get?_insert_self, beq_self_eq_true, if_pos rfl]
  · rw [KeyMap.get?_insert_ne (Ne.symm hname), beq_false_of_ne hname, if_neg Bool.false_ne_true]

/-- What was registered last counts. -/
theorem policy?_registered_eq (registrations : List Registration) (table : String) :
    (registered classes registrations).policy? table =
      (registrations.reverse.find? fun entry => Ascii.equalsIgnoringCase entry.1 table).map
        Prod.snd := by
  induction registrations using List.reverseRecOn with
  | nil => rfl
  | append_singleton registrations entry ih =>
    rw [registered_concat, policy?_register, List.reverse_concat', List.find?_cons, ih]
    cases Ascii.equalsIgnoringCase entry.1 table <;> rfl

theorem policy?_registered {registrations : List Registration} {table : String}
    {policy : SanitizationPolicy} :
    (registered classes registrations).policy? table = some policy ↔
      HasPolicy registrations table policy := by
  rw [policy?_registered_eq, Option.map_eq_some_iff]
  simp only [List.find?_eq_some_iff_append, List.reverse_eq_append_iff, Prod.exists]
  constructor
  · rintro ⟨name, _, ⟨hname, after, before, heq, hafter⟩, rfl⟩
    refine ⟨before.reverse, name, after.reverse, by simpa using heq, hname, ?_⟩
    simpa using hafter
  · rintro ⟨before, name, after, heq, hname, hafter⟩
    refine ⟨name, policy, ⟨hname, after.reverse, before.reverse, by simpa using heq, ?_⟩, rfl⟩
    simpa using hafter

end SanitizerRegistry

namespace ColumnOrigin

/-- The result column comes from this column of a table with this policy. -/
def IsUnder (registrations : List Registration) (origin : ColumnOrigin) (column : String)
    (policy : SanitizationPolicy) : Prop :=
  ∃ table, origin.table = some table ∧ origin.column = some column ∧
    HasPolicy registrations table policy

def IsMasked (registrations : List Registration) (origin : ColumnOrigin) (rule : MaskRule) : Prop :=
  ∃ column policy, origin.IsUnder registrations column policy ∧ policy.Masks column rule

end ColumnOrigin

namespace SanitizerRegistry

variable {registrations : List Registration}

theorem rule?_eq_some {origin : ColumnOrigin} {rule : MaskRule} :
    (registered classes registrations).rule? origin = some rule ↔
      origin.IsMasked registrations rule := by
  simp only [rule?, Option.bind_eq_bind, Option.bind_eq_some_iff, policy?_registered,
    SanitizationPolicy.rule?_eq_some, ColumnOrigin.IsMasked, ColumnOrigin.IsUnder]
  constructor
  · rintro ⟨table, htable, column, hcolumn, policy, hpolicy, hmasks⟩
    exact ⟨column, policy, ⟨table, htable, hcolumn, hpolicy⟩, hmasks⟩
  · rintro ⟨column, policy, ⟨table, htable, hcolumn, hpolicy⟩, hmasks⟩
    exact ⟨table, htable, column, hcolumn, policy, hpolicy, hmasks⟩

/-- A column under a policy has a mask or none; any other is refused. -/
theorem mask?_cases (classes : CharClasses) (registrations : List Registration)
    (origin : ColumnOrigin) :
    (∃ mask, (registered classes registrations).mask? origin = .ok mask ∧
        ∃ column policy, origin.IsUnder registrations column policy) ∨
      ∃ e, (registered classes registrations).mask? origin = .error e ∧
        (∀ column, e ≠ .notFormatPreserving column) ∧
        ¬∃ column policy, origin.IsUnder registrations column policy := by
  have hfound (table : String) (policy : SanitizationPolicy) :
      HasPolicy registrations table policy ↔
        (registered classes registrations).policy? table = some policy := policy?_registered.symm
  simp only [mask?, ColumnOrigin.IsUnder, hfound]
  split
  · rename_i table column htable hcolumn
    split
    · rename_i hnone
      refine .inr ⟨_, rfl, by simp, ?_⟩
      rintro ⟨_, policy, _, htable', _, hpolicy⟩
      rw [htable] at htable'
      cases htable'
      rw [hnone] at hpolicy
      cases hpolicy
    · rename_i policy hpolicy
      exact .inl ⟨_, rfl, column, policy, table, htable, hcolumn, hpolicy⟩
  · rename_i hunknown
    refine .inr ⟨_, rfl, by simp, ?_⟩
    rintro ⟨column, policy, table, htable, hcolumn, _⟩
    exact hunknown table column htable hcolumn

end SanitizerRegistry

end StatementGate
