import Mathlib.Data.List.Induction
import StatementGate.Proofs.Wire.Registry

/-! # Runs of registrations

Types are registered whole or as drafts that collect their fields. Whichever way, a call that fails
leaves the registry as it is, wherever in the draft it went wrong, and one that succeeds adds its type
and nothing else. What a run of calls comes to does not depend on the order of those that succeed. -/

namespace StatementGate

namespace Registry

variable {R R' : Registry}

/-- A schema under a free name comes to the others. -/
theorem schemas_add {schema : TypeSchema} (hfree : R.lookup schema.type = none) :
    (R.add schema).schemas.Perm (schema :: R.schemas) := by
  rw [lookup] at hfree
  simp only [schemas, add]
  cases hspace : R.spaces.get? schema.type.space with
  | none =>
    have hvalues := KeyMap.values_insert_of_free
      (KeyMap.empty.insert schema.type.name schema) hspace
    exact hvalues.flatMap_right _
  | some names =>
    rw [hspace] at hfree
    obtain ⟨rest, hold, hnew⟩ := KeyMap.values_insert_of_taken
      (names.insert schema.type.name schema) hspace
    have hnames := KeyMap.values_insert_of_free schema hfree
    have hadded : ((names.insert schema.type.name schema).values ++ rest.flatMap KeyMap.values).Perm
        (schema :: (names.values ++ rest.flatMap KeyMap.values)) := hnames.append_right _
    have hothers : (names.values ++ rest.flatMap KeyMap.values).Perm
        (R.spaces.values.flatMap KeyMap.values) := (hold.flatMap_right KeyMap.values).symm
    exact (hnew.flatMap_right KeyMap.values).trans (hadded.trans (hothers.cons schema))

theorem mem_namespaces_add {schema : TypeSchema} {space : String} :
    space ∈ (R.add schema).namespaces ↔ space = schema.type.space ∨ space ∈ R.namespaces :=
  Entries.mem_keys_put

/-- Two types are added in either order. -/
theorem add_comm {a b : TypeSchema} (h : a.type ≠ b.type) (R : Registry) :
    (R.add a).add b = (R.add b).add a := by
  simp only [add, mk.injEq]
  by_cases hspace : a.type.space = b.type.space
  · have hname : a.type.name ≠ b.type.name := fun hname => h (TypeName.eq_of_parts hspace hname)
    rw [hspace]
    simp only [KeyMap.get?_insert_self, Option.getD_some, KeyMap.insert_insert_self]
    rw [KeyMap.insert_comm hname]
  · rw [KeyMap.get?_insert_ne (Ne.symm hspace), KeyMap.get?_insert_ne hspace,
      KeyMap.insert_comm hspace]

/-- The second registry has one schema more, and all else in it is the same. -/
structure Adds (R : Registry) (schema : TypeSchema) (R' : Registry) : Prop where
  free : R.lookup schema.type = none
  lookup : ∀ type, R'.lookup type = if type = schema.type then some schema else R.lookup type
  schemas : R'.schemas.Perm (schema :: R.schemas)
  size : R'.size = R.size + 1
  namespaces : ∀ space, space ∈ R'.namespaces ↔ space = schema.type.space ∨ space ∈ R.namespaces

theorem adds_add {schema : TypeSchema} (hfree : R.lookup schema.type = none) :
    R.Adds schema (R.add schema) :=
  ⟨hfree, R.lookup_add schema, schemas_add hfree, (schemas_add hfree).length_eq,
    fun _ => mem_namespaces_add⟩

end Registry

/-- A field as a draft is told of it, its type by a text. -/
structure Declaration where
  name : String
  text : String
  required : Bool

inductive DraftStep where
  | declare (declaration : Declaration)
  | construct (check : ConstructCheck)

namespace DraftStep

def declaration? : DraftStep → Option Declaration
  | .declare declaration => some declaration
  | .construct _ => none

def check? : DraftStep → Option ConstructCheck
  | .declare _ => none
  | .construct check => some check

end DraftStep

namespace SchemaDraft

def take (draft : SchemaDraft) : DraftStep → SchemaDraft
  | .declare ⟨name, text, true⟩ => draft.required name text
  | .declare ⟨name, text, false⟩ => draft.optional name text
  | .construct check => draft.construct check

def ofSteps (type : TypeName) (steps : List DraftStep) : SchemaDraft :=
  steps.foldl take (begin type)

/-- The schema has the declared fields, in this order and under distinct names, each with the type that
its text reads as in the namespace of the record, and the last of the checks. -/
structure Drafts (type : TypeName) (steps : List DraftStep) (schema : TypeSchema) : Prop where
  ofType : schema.type = type
  fields : List.Forall₂ (fun (declaration : Declaration) field =>
      field.name = declaration.name ∧ field.required = declaration.required ∧
        Descriptor.parse declaration.text type.space = .ok field.descriptor)
    (steps.filterMap DraftStep.declaration?) schema.fields
  distinct : (schema.fields.map (·.name)).Nodup
  construct : schema.construct = (steps.filterMap DraftStep.check?).getLast?

/-- What is wrong with a declaration that follows those of `schema`. -/
inductive Fault (schema : TypeSchema) : DraftStep → RegistryError → Prop
  | duplicate {declaration : Declaration}
      (h : declaration.name ∈ schema.fields.map (·.name)) :
      Fault schema (.declare declaration) (.duplicateField schema.type.name declaration.name)
  | descriptor {declaration : Declaration} {cause : DescriptorError}
      (hnew : declaration.name ∉ schema.fields.map (·.name))
      (h : Descriptor.parse declaration.text schema.type.space = .error cause) :
      Fault schema (.declare declaration) (.descriptor schema.type.name declaration.name cause)

theorem take_declare (draft : SchemaDraft) (declaration : Declaration) :
    draft.take (.declare declaration) =
      draft.field declaration.name declaration.text declaration.required := by
  obtain ⟨name, text, required⟩ := declaration
  cases required <;> rfl

theorem take_of_error {draft : SchemaDraft} {e : RegistryError} (h : draft.error = some e)
    (step : DraftStep) : (draft.take step).error = some e := by
  cases step with
  | declare declaration =>
    rw [take_declare, field, h]
    exact h
  | construct check => exact h

theorem ofSteps_concat (type : TypeName) (steps : List DraftStep) (step : DraftStep) :
    ofSteps type (steps ++ [step]) = (ofSteps type steps).take step := by
  rw [ofSteps, List.foldl_append]
  rfl

theorem Drafts.nil (type : TypeName) : Drafts type [] ⟨type, [], none⟩ :=
  ⟨rfl, .nil, List.nodup_nil, rfl⟩

theorem any_name_iff {fields : List FieldSchema} {name : String} :
    fields.any (·.name == name) = true ↔ name ∈ fields.map (·.name) := by
  simp only [List.any_eq_true, List.mem_map, beq_iff_eq]

theorem take_cases {type : TypeName} {steps : List DraftStep} {draft : SchemaDraft}
    (h : Drafts type steps draft.schema) (herror : draft.error = none) (step : DraftStep) :
    ((draft.take step).error = none ∧ Drafts type (steps ++ [step]) (draft.take step).schema) ∨
      ∃ e, (draft.take step).error = some e ∧ Fault draft.schema step e := by
  cases step with
  | construct check =>
    refine .inl ⟨herror, h.ofType, ?_, h.distinct, ?_⟩
    · have hnone : [DraftStep.construct check].filterMap DraftStep.declaration? = [] := rfl
      rw [List.filterMap_append, hnone, List.append_nil]
      exact h.fields
    · rw [List.filterMap_append]
      exact List.getLast?_concat.symm
  | declare declaration =>
    rw [take_declare, field, herror]
    dsimp only
    by_cases hname : declaration.name ∈ draft.schema.fields.map (·.name)
    · rw [if_pos (any_name_iff.2 hname)]
      exact .inr ⟨_, rfl, .duplicate hname⟩
    · rw [if_neg (mt any_name_iff.1 hname)]
      cases hparse : Descriptor.parse declaration.text draft.schema.type.space with
      | error cause => exact .inr ⟨_, rfl, .descriptor hname hparse⟩
      | ok descriptor =>
        refine .inl ⟨rfl, h.ofType, ?_, ?_, ?_⟩
        · rw [h.ofType] at hparse
          rw [List.filterMap_append]
          exact List.rel_append h.fields (.cons ⟨rfl, rfl, hparse⟩ .nil)
        · rw [List.map_append]
          refine List.nodup_append.2 ⟨h.distinct, List.pairwise_singleton _ _, ?_⟩
          rintro a ha b hb rfl
          have hadded : a = declaration.name := List.mem_singleton.1 hb
          exact hname (hadded ▸ ha)
        · rw [List.filterMap_append]
          exact h.construct.trans (congrArg List.getLast? (List.append_nil _)).symm

/-- Every step of a draft is taken, or the first that is at fault decides. -/
theorem ofSteps_cases (type : TypeName) (steps : List DraftStep) :
    ((ofSteps type steps).error = none ∧ Drafts type steps (ofSteps type steps).schema) ∨
      ∃ before step after schema e, steps = before ++ step :: after ∧ Drafts type before schema ∧
        Fault schema step e ∧ (ofSteps type steps).error = some e := by
  induction steps using List.reverseRecOn with
  | nil => exact .inl ⟨rfl, .nil type⟩
  | append_singleton steps step ih =>
    rw [ofSteps_concat]
    rcases ih with ⟨herror, h⟩ | ⟨before, fault, after, schema, e, rfl, hbefore, hfault, herror⟩
    · rcases take_cases h herror step with htaken | ⟨e, he, hfault⟩
      · exact .inl htaken
      · exact .inr ⟨steps, step, [], _, e, rfl, h, hfault, he⟩
    · refine .inr ⟨before, fault, after ++ [step], schema, e, ?_, hbefore, hfault,
        take_of_error herror step⟩
      simp

end SchemaDraft

/-- A call that registers a type: with its schema, or by a draft that is finished. -/
inductive RegistryCall where
  | register (schema : TypeSchema)
  | define (type : TypeName) (steps : List DraftStep)

namespace RegistryCall

def type : RegistryCall → TypeName
  | .register schema => schema.type
  | .define type _ => type

/-- What a call answers, and the registry after it. -/
def perform (R : Registry) : RegistryCall → Registry.Reply
  | .register schema => R.register schema
  | .define type steps => (SchemaDraft.ofSteps type steps).finish R

/-- The schema that a call registers, unless its declarations are at fault. -/
def described : RegistryCall → Except RegistryError TypeSchema
  | .register schema => .ok schema
  | .define type steps =>
    match (SchemaDraft.ofSteps type steps).error with
    | some e => .error e
    | none => .ok (SchemaDraft.ofSteps type steps).schema

/-- The schema that is given, or what the steps of the draft declare. -/
def Describes : RegistryCall → TypeSchema → Prop
  | .register given, schema => schema = given
  | .define type steps, schema => SchemaDraft.Drafts type steps schema

/-- Why a call fails: the type is there already, or a step of the draft is the first at fault. -/
inductive Refused (R : Registry) : RegistryCall → RegistryError → Prop
  | taken {call : RegistryCall} (h : (R.lookup call.type).isSome) :
      Refused R call (.duplicate call.type)
  | fault {type : TypeName} {before after : List DraftStep} {step : DraftStep}
      {schema : TypeSchema} {e : RegistryError} (hbefore : SchemaDraft.Drafts type before schema)
      (hstep : SchemaDraft.Fault schema step e) :
      Refused R (.define type (before ++ step :: after)) e

/-- A call whose declarations are at fault leaves the registry. Any other registers what it
describes. -/
theorem perform_eq (R : Registry) (call : RegistryCall) :
    call.perform R =
      match call.described with
      | .ok schema => R.register schema
      | .error e => ⟨.error e, R⟩ := by
  cases call with
  | register schema => rfl
  | define type steps =>
    simp only [perform, described, SchemaDraft.finish]
    cases (SchemaDraft.ofSteps type steps).error <;> rfl

theorem describes_of_described {call : RegistryCall} {schema : TypeSchema}
    (h : call.described = .ok schema) : call.Describes schema ∧ schema.type = call.type := by
  cases call with
  | register given =>
    cases h
    exact ⟨rfl, rfl⟩
  | define type steps =>
    rw [described] at h
    rcases SchemaDraft.ofSteps_cases type steps with ⟨herror, hdrafts⟩ | ⟨_, _, _, _, e, -, -, -, herror⟩
    · rw [herror] at h
      cases h
      exact ⟨hdrafts, hdrafts.ofType⟩
    · rw [herror] at h
      cases h

theorem refused_of_described {call : RegistryCall} {e : RegistryError}
    (h : call.described = .error e) (R : Registry) : Refused R call e := by
  cases call with
  | register given => cases h
  | define type steps =>
    rw [described] at h
    rcases SchemaDraft.ofSteps_cases type steps with
      ⟨herror, -⟩ | ⟨before, step, after, schema, e', rfl, hbefore, hstep, herror⟩
    · rw [herror] at h
      cases h
    · rw [herror] at h
      cases h
      exact .fault hbefore hstep

theorem perform_of_free {R : Registry} {call : RegistryCall} {schema : TypeSchema}
    (hdescribed : call.described = .ok schema) (hfree : R.lookup schema.type = none) :
    call.perform R = ⟨.ok (), R.add schema⟩ := by
  rw [perform_eq, hdescribed]
  exact Registry.register_of_free hfree

/-- A call adds what it describes, or is refused and leaves the registry as it is. -/
theorem perform_cases (R : Registry) (call : RegistryCall) :
    (∃ schema, call.described = .ok schema ∧ R.lookup schema.type = none ∧
        call.perform R = ⟨.ok (), R.add schema⟩) ∨
      ∃ e, call.perform R = ⟨.error e, R⟩ ∧ Refused R call e := by
  cases hdescribed : call.described with
  | error e =>
    refine .inr ⟨e, ?_, refused_of_described hdescribed R⟩
    rw [perform_eq, hdescribed]
  | ok schema =>
    cases hlookup : R.lookup schema.type with
    | none => exact .inl ⟨schema, rfl, hlookup, perform_of_free hdescribed hlookup⟩
    | some found =>
      have htaken : (R.lookup schema.type).isSome := hlookup ▸ rfl
      refine .inr ⟨.duplicate schema.type, ?_, ?_⟩
      · rw [perform_eq, hdescribed]
        exact Registry.register_of_taken htaken
      · rw [(describes_of_described hdescribed).2] at htaken ⊢
        exact .taken htaken

/-- A call that fails leaves the registry. -/
theorem registry_of_error {R : Registry} {call : RegistryCall} {e : RegistryError}
    (h : (call.perform R).result = .error e) :
    (call.perform R).registry = R ∧ Refused R call e := by
  rcases call.perform_cases R with ⟨schema, -, -, hperform⟩ | ⟨e', hperform, hrefused⟩
  · rw [hperform] at h
    cases h
  · rw [hperform] at h ⊢
    cases h
    exact ⟨rfl, hrefused⟩

theorem mapError_perform_eq_ok {R R' : Registry} {call : RegistryCall} :
    (call.perform R).mapError id = .ok R' ↔
      ∃ schema, call.described = .ok schema ∧ R.lookup schema.type = none ∧ R' = R.add schema := by
  constructor
  · intro h
    rcases call.perform_cases R with ⟨schema, hdescribed, hfree, hperform⟩ | ⟨e, hperform, -⟩
    · rw [hperform] at h
      cases h
      exact ⟨schema, hdescribed, hfree, rfl⟩
    · rw [hperform] at h
      cases h
  · rintro ⟨schema, hdescribed, hfree, rfl⟩
    rw [perform_of_free hdescribed hfree]
    rfl

end RegistryCall

namespace Registry

variable {R R' : Registry}

/-- The registry after calls one after another. -/
def after (R : Registry) (calls : List RegistryCall) : Registry :=
  calls.foldl (fun R call => (call.perform R).registry) R

/-- The calls that succeed when they are made one after another. -/
def accepted (R : Registry) : List RegistryCall → List RegistryCall
  | [] => []
  | call :: rest =>
    match (call.perform R).result with
    | .ok () => call :: accepted (call.perform R).registry rest
    | .error _ => accepted (call.perform R).registry rest

/-- The registry after calls that all succeed. -/
def afterAll (R : Registry) (calls : List RegistryCall) : Except RegistryError Registry :=
  calls.foldlM (fun R call => (call.perform R).mapError id) R

theorem after_append (R : Registry) (before rest : List RegistryCall) :
    R.after (before ++ rest) = (R.after before).after rest :=
  List.foldl_append

theorem after_cons (R : Registry) (call : RegistryCall) (rest : List RegistryCall) :
    R.after (call :: rest) = (call.perform R).registry.after rest :=
  rfl

theorem after_concat (R : Registry) (calls : List RegistryCall) (call : RegistryCall) :
    R.after (calls ++ [call]) = (call.perform (R.after calls)).registry :=
  R.after_append calls [call]

/-- Whatever is kept when a type is added is kept by a run. -/
theorem after_induction {P : Registry → Prop} (hP : ∀ {R : Registry} {schema : TypeSchema},
      R.lookup schema.type = none → P R → P (R.add schema))
    (calls : List RegistryCall) (h : P R) : P (R.after calls) := by
  induction calls generalizing R with
  | nil => exact h
  | cons call rest ih =>
    rw [after_cons]
    apply ih
    rcases call.perform_cases R with ⟨schema, -, hfree, hperform⟩ | ⟨e, hperform, -⟩
    · rw [hperform]
      exact hP hfree h
    · rw [hperform]
      exact h

theorem adds_of_perform {call : RegistryCall} (h : (call.perform R).result = .ok ()) :
    ∃ schema, call.Describes schema ∧ schema.type = call.type ∧
      R.Adds schema (call.perform R).registry := by
  rcases call.perform_cases R with ⟨schema, hdescribed, hfree, hperform⟩ | ⟨e, hperform, -⟩
  · obtain ⟨hdescribes, htype⟩ := RegistryCall.describes_of_described hdescribed
    rw [hperform]
    exact ⟨schema, hdescribes, htype, adds_add hfree⟩
  · rw [hperform] at h
    cases h

/-- What is registered stays registered. -/
theorem lookup_after {type : TypeName} {schema : TypeSchema} (h : R.lookup type = some schema)
    (calls : List RegistryCall) : (R.after calls).lookup type = some schema := by
  apply after_induction (P := fun R => R.lookup type = some schema) _ calls h
  intro R added hfree h
  have hne : type ≠ added.type := by
    rintro rfl
    rw [hfree] at h
    cases h
  rw [lookup_add, if_neg hne, h]

/-- Schemas stand under their own names, and namespaces are those of the schemas. -/
structure Kept (R : Registry) : Prop where
  name : ∀ {type schema}, R.lookup type = some schema → schema.type = type
  namespaces : ∀ space, space ∈ R.namespaces ↔ ∃ name, (R.lookup ⟨space, name⟩).isSome

theorem kept_empty : Kept .empty where
  name h := by cases h
  namespaces space := by
    constructor
    · intro h
      cases h
    · rintro ⟨name, h⟩
      cases h

theorem Kept.add (h : R.Kept) {schema : TypeSchema} (hfree : R.lookup schema.type = none) :
    (R.add schema).Kept := by
  have hadds := adds_add hfree
  constructor
  · intro type found hfound
    rw [hadds.lookup] at hfound
    split at hfound
    · rename_i htype
      cases hfound
      exact htype.symm
    · exact h.name hfound
  · intro space
    rw [hadds.namespaces, h.namespaces]
    constructor
    · rintro (rfl | ⟨name, hname⟩)
      · exact ⟨schema.type.name, by simp [hadds.lookup]⟩
      · refine ⟨name, ?_⟩
        rw [hadds.lookup]
        split
        · rfl
        · exact hname
    · rintro ⟨name, hname⟩
      rw [hadds.lookup] at hname
      split at hname
      · rename_i htype
        exact .inl (congrArg TypeName.space htype)
      · exact .inr ⟨name, hname⟩

theorem kept_after (calls : List RegistryCall) : (Registry.empty.after calls).Kept :=
  after_induction (fun hfree h => h.add hfree) calls kept_empty

theorem afterAll_cons (R : Registry) (call : RegistryCall) (rest : List RegistryCall) :
    R.afterAll (call :: rest) = (call.perform R).mapError id >>= fun R' => R'.afterAll rest :=
  List.foldlM_cons

/-- Two calls that succeed one after the other do so the other way round. -/
theorem perform_comm {a b : RegistryCall} {R₁ R₂ : Registry}
    (ha : (a.perform R).mapError id = .ok R₁) (hb : (b.perform R₁).mapError id = .ok R₂) :
    ∃ R₁', (b.perform R).mapError id = .ok R₁' ∧ (a.perform R₁').mapError id = .ok R₂ := by
  obtain ⟨sa, hsa, hfreea, rfl⟩ := RegistryCall.mapError_perform_eq_ok.1 ha
  obtain ⟨sb, hsb, hfreeb, rfl⟩ := RegistryCall.mapError_perform_eq_ok.1 hb
  rw [lookup_add] at hfreeb
  have hne : sb.type ≠ sa.type := by
    intro heq
    rw [if_pos heq] at hfreeb
    cases hfreeb
  rw [if_neg hne] at hfreeb
  refine ⟨R.add sb, RegistryCall.mapError_perform_eq_ok.2 ⟨sb, hsb, hfreeb, rfl⟩,
    RegistryCall.mapError_perform_eq_ok.2 ⟨sa, hsa, ?_, add_comm hne.symm R⟩⟩
  rw [lookup_add, if_neg hne.symm, hfreea]

theorem afterAll_perm {calls calls' : List RegistryCall} (h : calls.Perm calls')
    (hall : R.afterAll calls = .ok R') : R.afterAll calls' = .ok R' := by
  induction h generalizing R with
  | nil => exact hall
  | cons call _ ih =>
    rw [afterAll_cons] at hall ⊢
    obtain ⟨R₁, hcall, hrest⟩ := bind_eq_ok.1 hall
    exact bind_eq_ok.2 ⟨R₁, hcall, ih hrest⟩
  | swap a b rest =>
    rw [afterAll_cons] at hall ⊢
    obtain ⟨R₁, hb, hall⟩ := bind_eq_ok.1 hall
    rw [afterAll_cons] at hall
    obtain ⟨R₂, ha, hrest⟩ := bind_eq_ok.1 hall
    obtain ⟨R₁', ha', hb'⟩ := perform_comm hb ha
    refine bind_eq_ok.2 ⟨R₁', ha', ?_⟩
    rw [afterAll_cons]
    exact bind_eq_ok.2 ⟨R₂, hb', hrest⟩
  | trans _ _ ih ih' => exact ih' (ih hall)

/-- The calls that succeed lead to the same registry without those that fail. -/
theorem afterAll_accepted (R : Registry) (calls : List RegistryCall) :
    R.afterAll (R.accepted calls) = .ok (R.after calls) := by
  induction calls generalizing R with
  | nil => rfl
  | cons call rest ih =>
    rw [accepted, after_cons]
    rcases call.perform_cases R with ⟨schema, -, -, hperform⟩ | ⟨e, hperform, -⟩
    · simp only [hperform]
      rw [afterAll_cons, hperform]
      exact ih (R.add schema)
    · simp only [hperform]
      exact ih R

/-- Calls succeed one after another when their declarations are in order and their types are new and
distinct. -/
theorem succeeds_afterAll (R : Registry) (calls : List RegistryCall) :
    Succeeds (R.afterAll calls) ↔
      (∀ call ∈ calls, Succeeds call.described ∧ R.lookup call.type = none) ∧
        (calls.map (·.type)).Nodup := by
  induction calls generalizing R with
  | nil => simp [afterAll, succeeds_ok, pure, Except.pure]
  | cons call rest ih =>
    rw [afterAll_cons, RegistryCall.perform_eq, List.map_cons, List.nodup_cons, List.forall_mem_cons]
    cases hdescribed : call.described with
    | error e => simp [Reply.mapError, bind, Except.bind, not_succeeds_error]
    | ok schema =>
      have htype := (RegistryCall.describes_of_described hdescribed).2
      dsimp only
      rw [register_eq, htype]
      cases hfree : R.lookup call.type with
      | some _ => simp [Reply.mapError, bind, Except.bind, not_succeeds_error]
      | none =>
        change Succeeds ((R.add schema).afterAll rest) ↔ _
        have hlookup (other : RegistryCall) : (R.add schema).lookup other.type = none ↔
            other.type ≠ call.type ∧ R.lookup other.type = none := by
          rw [lookup_add, htype]
          by_cases htypes : other.type = call.type <;> simp [htypes]
        have hnew : call.type ∉ rest.map (·.type) ↔ ∀ other ∈ rest, other.type ≠ call.type := by
          simp
        simp only [ih, hlookup, hnew, succeeds_ok, forall_and]
        tauto

/-- A call that fails leaves the registry, and there is a first thing wrong with it. One that succeeds
adds its type, which was new, changes nothing else and is found for the rest of the run. The calls that
succeed come to the same registry in every order. -/
theorem registration_runs (calls : List RegistryCall) :
    (∀ call e, (call.perform (Registry.empty.after calls)).result = .error e →
      Registry.empty.after (calls ++ [call]) = Registry.empty.after calls ∧
        RegistryCall.Refused (Registry.empty.after calls) call e) ∧
    (∀ call, (call.perform (Registry.empty.after calls)).result = .ok () →
      ∃ schema, call.Describes schema ∧ schema.type = call.type ∧
        (Registry.empty.after calls).Adds schema (Registry.empty.after (calls ++ [call])) ∧
        ∀ later,
          (Registry.empty.after (calls ++ call :: later)).lookup call.type = some schema) ∧
    (Registry.empty.after calls).Kept ∧
    (Succeeds (Registry.empty.afterAll calls) ↔
      (∀ call ∈ calls, Succeeds call.described) ∧ (calls.map (·.type)).Nodup) ∧
    ∀ order, (Registry.empty.accepted calls).Perm order →
      Registry.empty.afterAll order = .ok (Registry.empty.after calls) := by
  refine ⟨fun call e h => ?_, fun call h => ?_, kept_after calls, ?_, fun order hperm => ?_⟩
  · rw [after_concat]
    exact RegistryCall.registry_of_error h
  · obtain ⟨schema, hdescribes, htype, hadds⟩ := adds_of_perform h
    refine ⟨schema, hdescribes, htype, ?_, fun later => ?_⟩
    · rwa [after_concat]
    · rw [after_append, after_cons]
      apply lookup_after
      rw [hadds.lookup, if_pos htype.symm]
  · rw [succeeds_afterAll]
    have hnone : ∀ type, Registry.empty.lookup type = none := fun _ => rfl
    simp only [hnone, and_true]
  · exact afterAll_perm hperm (afterAll_accepted .empty calls)

def placeCall : RegistryCall := .register ⟨⟨"geo", "Place"⟩, [], none⟩

/-- The second declaration is the first at fault. -/
def untidySteps : List DraftStep :=
  [.declare ⟨"title", "str", true⟩, .declare ⟨"title", "int", false⟩,
    .declare ⟨"stages", "list[", true⟩]

def dealSteps : List DraftStep :=
  [.declare ⟨"title", "str", true⟩,
    .construct fun r => if r.fields.isEmpty then .error "empty" else .ok (),
    .declare ⟨"follows", "Optional[Deal]", false⟩]

def untidyCall : RegistryCall := .define ⟨"crm", "Deal"⟩ untidySteps

def dealCall : RegistryCall := .define ⟨"crm", "Deal"⟩ dealSteps

/-- A draft that fails leaves its name free for another one, and the order of the two that succeed does
not matter. -/
theorem deals_registered :
    (untidyCall.perform (Registry.empty.after [placeCall])).result =
        .error (.duplicateField "Deal" "title") ∧
      Registry.empty.after [placeCall, untidyCall] = Registry.empty.after [placeCall] ∧
      Registry.empty.afterAll [dealCall, placeCall] =
        .ok (Registry.empty.after [placeCall, untidyCall, dealCall]) := by
  have huntidy (R : Registry) :
      untidyCall.perform R = ⟨.error (.duplicateField "Deal" "title"), R⟩ := by
    have herror : (SchemaDraft.ofSteps ⟨"crm", "Deal"⟩ untidySteps).error =
        some (.duplicateField "Deal" "title") := by decide +kernel
    rw [untidyCall, RegistryCall.perform, SchemaDraft.finish, herror]
  have hdescribed : ∀ call ∈ [placeCall, dealCall], Succeeds call.described := by
    have herror : (SchemaDraft.ofSteps ⟨"crm", "Deal"⟩ dealSteps).error = none := by decide +kernel
    simp only [List.forall_mem_cons]
    refine ⟨succeeds_ok _, ?_, List.forall_mem_nil _⟩
    rw [dealCall, RegistryCall.described, herror]
    exact succeeds_ok _
  obtain ⟨R', hall⟩ := (registration_runs [placeCall, dealCall]).2.2.2.1.2 ⟨hdescribed, by decide⟩
  rw [afterAll_cons] at hall
  obtain ⟨_, hplace, hall⟩ := bind_eq_ok.1 hall
  rw [afterAll_cons] at hall
  obtain ⟨_, hdeal, -⟩ := bind_eq_ok.1 hall
  obtain ⟨place, hplaced, hfree, rfl⟩ := RegistryCall.mapError_perform_eq_ok.1 hplace
  obtain ⟨deal, hdealt, hfree', rfl⟩ := RegistryCall.mapError_perform_eq_ok.1 hdeal
  have haccepted : Registry.empty.accepted [placeCall, untidyCall, dealCall] =
      [placeCall, dealCall] := by
    simp only [accepted, RegistryCall.perform_of_free hplaced hfree, huntidy,
      RegistryCall.perform_of_free hdealt hfree']
  have herror : (untidyCall.perform (Registry.empty.after [placeCall])).result =
      .error (.duplicateField "Deal" "title") := by
    rw [huntidy]
  refine ⟨herror, ((registration_runs [placeCall]).1 untidyCall _ herror).1, ?_⟩
  apply (registration_runs [placeCall, untidyCall, dealCall]).2.2.2.2
  rw [haccepted]
  exact .swap dealCall placeCall []

end Registry

end StatementGate
