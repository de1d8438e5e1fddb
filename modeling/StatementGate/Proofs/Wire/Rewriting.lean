import Mathlib.Data.Option.Defs
import Mathlib.Logic.Relation
import StatementGate.Proofs.Wire.RoundTrip

/-! # Descriptors that read alike

A union reads as its first alternative that fits, and a missing type ends the search. This choice is
associative, and an alternative that was tried before adds nothing to it. So unions among the
alternatives of a union can be put in their place, repeated alternatives left out, nested optionals
collapsed and optionals written as unions with null, anywhere in a descriptor or in the fields of the
registered types: what is read stays the same, and what fails, fails with an error of the same kind. -/

namespace StatementGate

/-- Errors of one kind: about a value, wherever it stands, or about the same missing type. -/
inductive CodecError.SameKind : CodecError → CodecError → Prop
  | descriptor (cause : DescriptorError) : SameKind (.descriptor cause) (.descriptor cause)
  | unregistered (type : TypeName) : SameKind (.unregistered type) (.unregistered type)
  | invalid (path path' : String) (problem problem' : Problem) :
      SameKind (.invalid path problem) (.invalid path' problem')

namespace CodecError.SameKind

theorem refl (e : CodecError) : SameKind e e := by
  cases e with
  | descriptor cause => exact .descriptor cause
  | unregistered type => exact .unregistered type
  | invalid path problem => exact .invalid _ _ _ _

theorem trans {e e' e'' : CodecError} (h : SameKind e e') (h' : SameKind e' e'') :
    SameKind e e'' := by
  cases h with
  | descriptor => exact h'
  | unregistered => exact h'
  | invalid =>
    cases h' with
    | invalid => exact .invalid _ _ _ _

end CodecError.SameKind

/-- The same result, or errors of one kind. -/
abbrev ReadAlike {α : Type} (x y : Except CodecError α) : Prop := Agree CodecError.SameKind Eq x y

namespace ReadAlike

variable {α β : Type}

theorem refl (x : Except CodecError α) : ReadAlike x x := Agree.refl .refl (fun _ => rfl) x

theorem trans {x y z : Except CodecError α} (hxy : ReadAlike x y) (hyz : ReadAlike y z) :
    ReadAlike x z :=
  Agree.trans .trans hxy hyz

theorem invalid (path path' : String) (problem problem' : Problem) :
    ReadAlike (.error (.invalid path problem) : Except CodecError α)
      (.error (.invalid path' problem')) :=
  .error (.invalid _ _ _ _)

theorem bind {x y : Except CodecError α} (h : ReadAlike x y) {f g : α → Except CodecError β}
    (hfg : ∀ a, ReadAlike (f a) (g a)) : ReadAlike (x >>= f) (y >>= g) := by
  apply Agree.bind h
  rintro a _ rfl
  exact hfg a

end ReadAlike

/-- The first outcome, or the second where the first refuses the value. -/
def firstFit (x y : Except CodecError Value) : Except CodecError Value :=
  match x with
  | .error (.invalid _ _) => y
  | x => x

section Choice

variable {x y z : Except CodecError Value} {xs : List (Except CodecError Value)}

theorem firstFit_assoc : firstFit (firstFit x y) z = firstFit x (firstFit y z) := by
  cases x with
  | ok v => rfl
  | error e => cases e <;> rfl

theorem firstFit_alike {x' y' : Except CodecError Value} (hx : ReadAlike x x')
    (hy : ReadAlike y y') : ReadAlike (firstFit x y) (firstFit x' y') := by
  cases hx with
  | ok h => exact .ok h
  | error h =>
    cases h with
    | invalid => exact hy
    | descriptor cause => exact .error (.descriptor cause)
    | unregistered type => exact .error (.unregistered type)

theorem foldr_firstFit_alike {ys : List (Except CodecError Value)}
    (h : List.Forall₂ ReadAlike xs ys) (hyz : ReadAlike y z) :
    ReadAlike (xs.foldr firstFit y) (ys.foldr firstFit z) := by
  induction h with
  | nil => exact hyz
  | cons hx _ ih => exact firstFit_alike hx ih

/-- What refuses at the end of a choice gives way to what comes next. -/
theorem foldr_firstFit_refused (path : String) (problem : Problem) :
    firstFit (xs.foldr firstFit (.error (.invalid path problem))) z = xs.foldr firstFit z := by
  induction xs with
  | nil => rfl
  | cons x xs ih => rw [List.foldr_cons, firstFit_assoc, ih, List.foldr_cons]

theorem firstFit_refused (path : String) (problem : Problem) :
    ReadAlike x (firstFit x (.error (.invalid path problem))) := by
  cases x with
  | ok v => exact .refl _
  | error e =>
    cases e with
    | invalid found cause => exact .invalid _ _ _ _
    | _ => exact .refl _

/-- An outcome that was chosen from before is not chosen again. -/
theorem foldr_firstFit_repeated (h : x ∈ xs) :
    xs.foldr firstFit (firstFit x z) = xs.foldr firstFit z := by
  induction xs with
  | nil => cases h
  | cons x' xs ih =>
    rw [List.foldr_cons, List.foldr_cons]
    rcases List.mem_cons.1 h with rfl | h
    · cases x with
      | ok v => rfl
      | error e => cases e <;> rfl
    · rw [ih h]

end Choice

variable {R R' : Registry}

/-- A union chooses from the outcomes of its alternatives. -/
theorem decodeUnion_eq (R : Registry) (j : Json) (union : Descriptor)
    (alternatives : List Descriptor) (reasons : List (Descriptor × Problem)) (path : String) :
    ∃ problem, decodeUnion R j union alternatives reasons path =
      (alternatives.map (decodeAt R j · path)).foldr firstFit (.error (.invalid path problem)) := by
  induction alternatives generalizing reasons with
  | nil =>
    rw [decodeUnion]
    exact ⟨_, rfl⟩
  | cons d rest ih =>
    simp only [List.map_cons, List.foldr_cons]
    rw [decodeUnion]
    cases decodeAt R j d path with
    | ok v => exact ⟨.missing, rfl⟩
    | error e =>
      cases e with
      | invalid found problem => exact ih _
      | _ => exact ⟨.missing, rfl⟩

theorem decodeScalar_of_ne_null {j : Json} (h : j ≠ .null) (path : String) :
    decodeScalar j .null path = .error (mismatch path (.scalar .null) j) := by
  cases j with
  | null => exact absurd rfl h
  | _ => rfl

namespace Descriptor

/-- One descriptor reads as another, from every JSON and at every place. -/
def ReadsLike (R : Registry) (d d' : Descriptor) : Prop :=
  ∀ j path, ReadAlike (decodeAt R j d path) (decodeAt R j d' path)

/-- One of the laws of unions and optionals, used once, at the root of a descriptor or inside. -/
inductive Rewrite : Descriptor → Descriptor → Prop
  | splice (before inner after : List Descriptor) :
      Rewrite (.union (before ++ .union inner :: after)) (.union (before ++ inner ++ after))
  | repeated {d : Descriptor} {before : List Descriptor} (hmem : d ∈ before)
      (after : List Descriptor) :
      Rewrite (.union (before ++ d :: after)) (.union (before ++ after))
  | collapse (inner : Descriptor) : Rewrite (.optional (.optional inner)) (.optional inner)
  | orNull (inner : Descriptor) : Rewrite (.optional inner) (.union [.scalar .null, inner])
  | optional {d d' : Descriptor} (h : Rewrite d d') : Rewrite (.optional d) (.optional d')
  | list {d d' : Descriptor} (h : Rewrite d d') : Rewrite (.list d) (.list d')
  | union {d d' : Descriptor} (before after : List Descriptor) (h : Rewrite d d') :
      Rewrite (.union (before ++ d :: after)) (.union (before ++ d' :: after))

/-- Any number of such steps. -/
abbrev Rewrites : Descriptor → Descriptor → Prop := Relation.ReflTransGen Rewrite

namespace ReadsLike

variable {d d' : Descriptor}

/-- The mark of absence reads alike everywhere. -/
theorem of_ne_mark (h : ∀ j ≠ .string absentMark, ∀ path,
    ReadAlike (decodeAt R j d path) (decodeAt R j d' path)) : ReadsLike R d d' := by
  intro j path
  by_cases hmark : j = .string absentMark
  · subst hmark
    rw [decodeAt_mark, decodeAt_mark]
    exact .refl _
  · exact h j hmark path

/-- Unions read alike when the choices from their alternatives do. -/
theorem of_choice {ds ds' : List Descriptor}
    (h : ∀ j ≠ .string absentMark, ∀ path z,
      ReadAlike ((ds.map (decodeAt R j · path)).foldr firstFit z)
        ((ds'.map (decodeAt R j · path)).foldr firstFit z)) :
    ReadsLike R (.union ds) (.union ds') := by
  apply of_ne_mark
  intro j hmark path
  rw [decodeAt_union hmark, decodeAt_union hmark]
  obtain ⟨problem, hunion⟩ := decodeUnion_eq R j (.union ds) ds [] path
  obtain ⟨problem', hunion'⟩ := decodeUnion_eq R j (.union ds') ds' [] path
  rw [hunion, hunion']
  refine (h j hmark path _).trans (foldr_firstFit_alike ?_ (.invalid _ _ _ _))
  exact List.forall₂_same.2 fun _ _ => .refl _

theorem splice (before inner after : List Descriptor) :
    ReadsLike R (.union (before ++ .union inner :: after)) (.union (before ++ inner ++ after)) := by
  apply of_choice
  intro j hmark path z
  obtain ⟨problem, hinner⟩ := decodeUnion_eq R j (.union inner) inner [] path
  simp only [List.map_append, List.map_cons, List.foldr_append, List.foldr_cons]
  rw [decodeAt_union hmark, hinner, foldr_firstFit_refused]
  exact .refl _

theorem repeated {before : List Descriptor} (hmem : d ∈ before) (after : List Descriptor) :
    ReadsLike R (.union (before ++ d :: after)) (.union (before ++ after)) := by
  apply of_choice
  intro j _ path z
  simp only [List.map_append, List.map_cons, List.foldr_append, List.foldr_cons]
  have hchosen := List.mem_map_of_mem (f := (decodeAt R j · path)) hmem
  rw [foldr_firstFit_repeated hchosen]
  exact .refl _

theorem collapse (inner : Descriptor) :
    ReadsLike R (.optional (.optional inner)) (.optional inner) := by
  apply of_ne_mark
  intro j hmark path
  by_cases hnull : j = .null
  · subst hnull
    rw [decodeAt, decodeAt]
    exact .refl _
  · rw [decodeAt_optional hmark hnull]
    exact .refl _

theorem orNull (inner : Descriptor) :
    ReadsLike R (.optional inner) (.union [.scalar .null, inner]) := by
  apply of_ne_mark
  intro j hmark path
  rw [decodeAt_union hmark]
  obtain ⟨problem, hunion⟩ := decodeUnion_eq R j (.union [.scalar .null, inner])
    [.scalar .null, inner] [] path
  rw [hunion]
  simp only [List.map_cons, List.map_nil, List.foldr_cons, List.foldr_nil, decodeAt_scalar hmark]
  by_cases hnull : j = .null
  · subst hnull
    rw [decodeAt, if_neg hmark]
    exact .refl _
  · rw [decodeAt_optional hmark hnull, decodeScalar_of_ne_null hnull]
    exact firstFit_refused _ _

theorem optional (h : ReadsLike R d d') : ReadsLike R (.optional d) (.optional d') := by
  apply of_ne_mark
  intro j hmark path
  by_cases hnull : j = .null
  · subst hnull
    rw [decodeAt, decodeAt]
    exact .refl _
  · rw [decodeAt_optional hmark hnull, decodeAt_optional hmark hnull]
    exact h j path

theorem items (h : ReadsLike R d d') (items : List Json) (index : Nat) (path : String) :
    ReadAlike (decodeItems R items d index path) (decodeItems R items d' index path) := by
  induction items generalizing index with
  | nil =>
    rw [decodeItems, decodeItems]
    exact .refl _
  | cons j rest ih =>
    rw [decodeItems, decodeItems]
    exact (h j _).bind fun v => (ih _).bind fun _ => .refl _

theorem list (h : ReadsLike R d d') : ReadsLike R (.list d) (.list d') := by
  apply of_ne_mark
  intro j hmark path
  rw [decodeAt.eq_def R j (.list d), decodeAt.eq_def R j (.list d'), if_neg hmark, if_neg hmark]
  cases j with
  | array js => exact (h.items js 0 path).bind fun _ => .refl _
  | _ => exact .invalid _ _ _ _

theorem union (before after : List Descriptor) (h : ReadsLike R d d') :
    ReadsLike R (.union (before ++ d :: after)) (.union (before ++ d' :: after)) := by
  apply of_choice
  intro j _ path z
  simp only [List.map_append, List.map_cons, List.foldr_append, List.foldr_cons]
  refine foldr_firstFit_alike (List.forall₂_same.2 fun _ _ => .refl _) ?_
  exact firstFit_alike (h j path) (.refl _)

end ReadsLike

/-- The laws of unions and optionals keep what is read. -/
theorem Rewrite.readsLike {d d' : Descriptor} (h : d.Rewrite d') : d.ReadsLike R d' := by
  induction h with
  | splice before inner after => exact .splice before inner after
  | repeated hmem after => exact .repeated hmem after
  | collapse inner => exact .collapse inner
  | orNull inner => exact .orNull inner
  | optional _ ih => exact ih.optional
  | list _ ih => exact ih.list
  | union before after _ ih => exact ih.union before after

theorem Rewrites.readsLike {d d' : Descriptor} (h : d.Rewrites d') : d.ReadsLike R d' := by
  induction h with
  | refl => exact fun _ _ => .refl _
  | tail _ hstep ih => exact fun j path => (ih j path).trans (hstep.readsLike j path)

end Descriptor

/-- The same field, with a rewritten type. -/
structure FieldSchema.Rewrites (field field' : FieldSchema) : Prop where
  name : field.name = field'.name
  descriptor : field.descriptor.Rewrites field'.descriptor
  required : field.required = field'.required

structure TypeSchema.Rewrites (schema schema' : TypeSchema) : Prop where
  type : schema.type = schema'.type
  fields : List.Forall₂ FieldSchema.Rewrites schema.fields schema'.fields
  construct : schema.construct = schema'.construct

/-- The same types, with rewritten types of their fields. -/
def Registry.Rewrites (R R' : Registry) : Prop :=
  ∀ type, Option.Rel TypeSchema.Rewrites (R.lookup type) (R'.lookup type)

theorem Registry.Rewrites.refl (R : Registry) : R.Rewrites R := by
  intro type
  cases R.lookup type with
  | none => exact .none
  | some schema => exact .some ⟨rfl, List.forall₂_same.2 fun _ _ => ⟨rfl, .refl, rfl⟩, rfl⟩

mutual

theorem decodeAt_rewritten (hR : R.Rewrites R') (j : Json) (d : Descriptor) (path : String) :
    ReadAlike (decodeAt R j d path) (decodeAt R' j d path) := by
  rw [decodeAt.eq_def R, decodeAt.eq_def R']
  by_cases hmark : j = .string absentMark
  · rw [if_pos hmark, if_pos hmark]
    exact .refl _
  · rw [if_neg hmark, if_neg hmark]
    cases d with
    | scalar kind => exact .refl _
    | optional inner =>
      cases j with
      | null => exact .refl _
      | _ => exact decodeAt_rewritten hR _ inner path
    | list item =>
      cases j with
      | array items => exact (decodeItems_rewritten hR items item 0 path).bind fun _ => .refl _
      | _ => exact .refl _
    | union alternatives => exact decodeUnion_rewritten hR j _ alternatives [] [] path
    | named type =>
      have hlookup := hR type
      dsimp only
      generalize R.lookup type = found at hlookup
      generalize R'.lookup type = found' at hlookup
      cases hlookup with
      | none => exact .refl _
      | @some schema schema' hschema =>
        cases j with
        | object members =>
          dsimp only
          rw [← hschema.construct]
          refine (decodeFields_rewritten hR members hschema.fields [] path).bind fun _ => .refl _
        | _ => exact .refl _
termination_by (sizeOf j, sizeOf d)

theorem decodeItems_rewritten (hR : R.Rewrites R') (items : List Json) (d : Descriptor)
    (index : Nat) (path : String) :
    ReadAlike (decodeItems R items d index path) (decodeItems R' items d index path) := by
  cases items with
  | nil =>
    rw [decodeItems, decodeItems]
    exact .refl _
  | cons j rest =>
    rw [decodeItems, decodeItems]
    refine (decodeAt_rewritten hR j d _).bind fun v => ?_
    exact (decodeItems_rewritten hR rest d _ path).bind fun _ => .refl _
termination_by (sizeOf items, 0)

/-- The reasons of earlier refusals may differ: they only go into the message. -/
theorem decodeUnion_rewritten (hR : R.Rewrites R') (j : Json) (union : Descriptor)
    (alternatives : List Descriptor) (reasons reasons' : List (Descriptor × Problem))
    (path : String) :
    ReadAlike (decodeUnion R j union alternatives reasons path)
      (decodeUnion R' j union alternatives reasons' path) := by
  cases alternatives with
  | nil =>
    rw [decodeUnion, decodeUnion]
    exact .invalid _ _ _ _
  | cons d rest =>
    have hhead := decodeAt_rewritten hR j d path
    rw [decodeUnion, decodeUnion]
    generalize decodeAt R j d path = x at hhead
    generalize decodeAt R' j d path = x' at hhead
    cases hhead with
    | ok h => exact .ok h
    | error h =>
      cases h with
      | invalid => exact decodeUnion_rewritten hR j union rest _ _ path
      | descriptor cause => exact .refl _
      | unregistered type => exact .refl _
termination_by (sizeOf j, sizeOf alternatives)

theorem decodeFields_rewritten (hR : R.Rewrites R') (members : List (String × Json))
    {fields fields' : List FieldSchema} (h : List.Forall₂ FieldSchema.Rewrites fields fields')
    (read : List (String × Value)) (path : String) :
    ReadAlike (decodeFields R members fields read path)
      (decodeFields R' members fields' read path) := by
  cases h with
  | nil =>
    rw [decodeFields, decodeFields]
    exact .refl _
  | @cons field field' rest rest' hfield hrest =>
    rw [decodeFields, decodeFields, ← hfield.name, ← hfield.required]
    split
    case h_1 j hfound =>
      have := sizeOf_lt_of_lookup hfound
      have hread := (decodeAt_rewritten hR j field.descriptor (Path.child path field.name)).trans
        (hfield.descriptor.readsLike j _)
      exact hread.bind fun v => decodeFields_rewritten hR members hrest _ path
    case h_2 =>
      by_cases hrequired : field.required
      · rw [if_pos hrequired, if_pos hrequired]
        exact .refl _
      · rw [if_neg hrequired, if_neg hrequired]
        exact decodeFields_rewritten hR members hrest _ path
termination_by (sizeOf members, sizeOf fields)

end

/-- Rewriting by the laws of unions and optionals, in the descriptor and in the types of registered
fields, leaves what is read unchanged, and a failure is one of the same kind: about the value, or
about the same missing type. -/
theorem decode_of_rewrites (hR : R.Rewrites R') {d d' : Descriptor} (h : d.Rewrites d') (j : Json) :
    ReadAlike (decode R j d) (decode R' j d') :=
  (decodeAt_rewritten hR j d Path.root).trans (h.readsLike j Path.root)

def entryType : TypeName := ⟨"ledger", "Entry"⟩

/-- Entries with parts that are entries, and a note of a type yet to be chosen. -/
def entrySchema (note : Descriptor) : TypeSchema where
  type := entryType
  fields := [⟨"note", note, false⟩, ⟨"parts", .list (.named entryType), true⟩]
  construct := none

def ledger (note : Descriptor) : Registry :=
  ⟨KeyMap.ofList [("ledger", KeyMap.ofList [("Entry", entrySchema note)])]⟩

theorem lookup_ledger (note : Descriptor) (type : TypeName) :
    (ledger note).lookup type = if type = entryType then some (entrySchema note) else none := by
  obtain ⟨space, name⟩ := type
  by_cases hspace : space = "ledger"
  · by_cases hname : name = "Entry"
    · subst hspace hname
      rfl
    · have hother : (name == "Entry") = false := beq_eq_false_iff_ne.2 hname
      simp [Registry.lookup, ledger, KeyMap.get?, KeyMap.ofList, Entries.ofList, Entries.put,
        List.lookup_cons, entryType, hspace, hname, hother]
  · have hother : (space == "ledger") = false := beq_eq_false_iff_ne.2 hspace
    simp only [Registry.lookup, ledger, KeyMap.get?, KeyMap.ofList, Entries.ofList, Entries.put,
      List.foldl_cons, List.foldl_nil, List.lookup_cons, List.lookup_nil, hother]
    simp [entryType, hspace]

theorem ledger_rewrites {note note' : Descriptor} (h : note.Rewrites note') :
    (ledger note).Rewrites (ledger note') := by
  intro type
  rw [lookup_ledger, lookup_ledger]
  by_cases htype : type = entryType
  · rw [if_pos htype, if_pos htype]
    exact .some ⟨rfl, .cons ⟨rfl, h, rfl⟩ (.cons ⟨rfl, .refl, rfl⟩ .nil), rfl⟩
  · rw [if_neg htype, if_neg htype]
    exact .none

def entriesText : Json :=
  .array [.object [("note", .null), ("parts", .array [.object [("parts", .array [])]])],
    .string "carried over"]

def entries : Value :=
  .list [.record entryType [("note", .null),
      ("parts", .list [.record entryType [("note", .absent), ("parts", .list [])]])],
    .string "carried over"]

/-- A union in a union, an alternative twice and a note that is optional twice. -/
theorem entries_of_rewrites :
    (ledger (.optional (.optional (.scalar .string)))).Rewrites
        (ledger (.union [.scalar .null, .scalar .string])) ∧
      Descriptor.Rewrites
        (.list (.union [.union [.named entryType, .scalar .string], .named entryType]))
        (.list (.union [.named entryType, .scalar .string])) ∧
      decode (ledger (.optional (.optional (.scalar .string)))) entriesText
        (.list (.union [.union [.named entryType, .scalar .string], .named entryType])) =
          .ok entries ∧
      decode (ledger (.optional (.optional (.scalar .string)))) entriesText
        (.list (.union [.named entryType, .scalar .string])) = .ok entries ∧
      decode (ledger (.union [.scalar .null, .scalar .string])) entriesText
        (.list (.union [.named entryType, .scalar .string])) = .ok entries := by
  have hnote : Descriptor.Rewrites (.optional (.optional (.scalar .string)))
      (.union [.scalar .null, .scalar .string]) :=
    .head (.collapse _) (.single (.orNull _))
  have hspliced : Descriptor.Rewrite
      (.list (.union [.union [.named entryType, .scalar .string], .named entryType]))
      (.list (.union [.named entryType, .scalar .string, .named entryType])) :=
    .list (.splice [] [.named entryType, .scalar .string] [.named entryType])
  have hrepeated : Descriptor.Rewrite
      (.list (.union [.named entryType, .scalar .string, .named entryType]))
      (.list (.union [.named entryType, .scalar .string])) :=
    .list (@Descriptor.Rewrite.repeated _ [.named entryType, .scalar .string] (by simp) [])
  have hread : decode (ledger (.optional (.optional (.scalar .string)))) entriesText
      (.list (.union [.union [.named entryType, .scalar .string], .named entryType])) =
        .ok entries := by
    have hput : ∀ note parts : Value,
        Entries.put "parts" parts (Entries.put "note" note []) =
          [("note", note), ("parts", parts)] := fun _ _ => rfl
    simp [decode, decodeAt, decodeItems, decodeUnion, decodeFields, decodeScalar, entriesText,
      entries, lookup_ledger, hput, entrySchema, List.lookup_cons, absentMark, bind, Except.bind,
      pure, Except.pure]
  have hrewrites := Relation.ReflTransGen.head hspliced (.single hrepeated)
  exact ⟨ledger_rewrites hnote, hrewrites, hread,
    (decode_of_rewrites (.refl _) hrewrites entriesText).eq_ok_iff.1 hread,
    (decode_of_rewrites (ledger_rewrites hnote) hrewrites entriesText).eq_ok_iff.1 hread⟩

end StatementGate
