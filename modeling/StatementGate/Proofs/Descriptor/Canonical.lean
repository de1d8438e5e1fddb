import StatementGate.Proofs.Descriptor.Reading

/-! # Canonical texts

The descriptors that a text can be read as, and what becomes of their canonical texts: each is split
into tokens that derive its descriptor in every namespace, so that it is read back as what it was
rendered from, unless it is too long to be read at all. -/

namespace StatementGate

/-- The texts before and behind a dot are split each for itself. -/
theorem splitDots_append_dot (first rest : List Char) :
    splitDots (first ++ '.' :: rest) = splitDots first ++ splitDots rest := by
  induction first with
  | nil => rfl
  | cons c first ih =>
    rw [List.cons_append, splitDots, splitDots, ih]
    by_cases hc : c = '.'
    · rw [if_pos hc, if_pos hc, List.cons_append]
    · obtain ⟨part, parts, hparts⟩ := splitDots_eq_cons first
      rw [if_neg hc, if_neg hc, hparts, List.cons_append, List.cons_append]

theorem isDotted_iff {text : List Char} :
    IsDotted text ↔ (splitDots text).all isPlainName = true := by
  have h := isDottedIdentifier_iff (s := String.ofList text)
  rw [isDottedIdentifier, String.toList_ofList] at h
  exact h.symm

theorem isDotted_append {first rest : List Char} :
    IsDotted (first ++ '.' :: rest) ↔ IsDotted first ∧ IsDotted rest := by
  simp only [isDotted_iff, splitDots_append_dot, List.all_append, Bool.and_eq_true]

theorem IsDotted.isPlainName {text : List Char} (h : IsDotted text) (hdot : '.' ∉ text) :
    isPlainName text = true := by
  cases h with
  | plain h => exact h
  | dot => simp at hdot

namespace Token

/-- Names are dotted, quoted or not. -/
def Dotted : Token → Prop
  | .name text | .quoted text => IsDotted text.toList
  | _ => True

theorem Splits.dotted {s : List Char} {ts : List Token} (h : Splits s ts) :
    ∀ t ∈ ts, t.Dotted := by
  induction h with
  | nil => exact List.forall_mem_nil _
  | space _ _ ih => exact ih
  | single h _ ih =>
    refine List.forall_mem_cons.2 ⟨?_, ih⟩
    cases h <;> trivial
  | quoted _ h _ ih =>
    refine List.forall_mem_cons.2 ⟨?_, ih⟩
    rwa [Dotted, String.toList_ofList]
  | name h _ _ ih =>
    refine List.forall_mem_cons.2 ⟨?_, ih⟩
    rwa [Dotted, String.toList_ofList]

/-- The text is split into the tokens wherever no name goes on behind it. -/
def SplitsInto (text : String) (ts : List Token) : Prop :=
  ∀ s us, Apart s → Splits s us → Splits (text.toList ++ s) (ts ++ us)

theorem SplitsInto.splits {text : String} {ts : List Token} (h : SplitsInto text ts) :
    Splits text.toList ts := by
  have hall := h [] [] nofun .nil
  rwa [List.append_nil, List.append_nil] at hall

namespace SplitsInto

variable {first rest word : String} {ts us : List Token}

theorem name (h : IsDotted word.toList) : SplitsInto word [.name word] := by
  intro s us hapart hs
  have hname := Splits.name_of_apart h hapart hs
  rwa [String.ofList_toList] at hname

theorem comma (h : SplitsInto first ts) (h' : SplitsInto rest us) :
    SplitsInto (first ++ ", " ++ rest) (ts ++ .comma :: us) := by
  intro s vs hapart hs
  have hrest := h' s vs hapart hs
  have hcomma := Splits.single Single.comma (Splits.space (c := ' ') rfl hrest)
  have hall := h _ _ (by rintro _ _ ⟨⟩; rfl) hcomma
  simpa [String.toList_append] using hall

theorem brackets (hword : IsDotted word.toList) (h : SplitsInto first ts) :
    SplitsInto (word ++ "[" ++ first ++ "]") (.name word :: .opening :: (ts ++ [.closing])) := by
  intro s us hapart hs
  have hclosing := h _ _ (by rintro _ _ ⟨⟩; rfl) (Splits.single Single.closing hs)
  have hall := name hword _ _ (by rintro _ _ ⟨⟩; rfl) (Splits.single Single.opening hclosing)
  simpa [String.toList_append] using hall

end SplitsInto

end Token

namespace Descriptor

open Token (SplitsInto)

/-- What a text may be read as: named types have plain names in dotted namespaces, and unions have
several alternatives. -/
inductive Readable : Descriptor → Prop
  | scalar (kind : ScalarKind) : Readable (.scalar kind)
  | optional {inner : Descriptor} (h : Readable inner) : Readable (.optional inner)
  | list {item : Descriptor} (h : Readable item) : Readable (.list item)
  | union {ds : List Descriptor} (hmany : 2 ≤ ds.length) (h : ∀ d ∈ ds, Readable d) :
      Readable (.union ds)
  | named {type : TypeName} (hspace : IsDotted type.space.toList)
      (hname : isPlainName type.name.toList = true) : Readable (.named type)

theorem Denotes.readable {space text : String} {d : Descriptor} (h : Denotes space text d)
    (hspace : IsDotted space.toList) (htext : IsDotted text.toList) : d.Readable := by
  cases h with
  | scalar => exact .scalar _
  | @dotted before name _ hparts hlast =>
    have hlist : text.toList = before.toList ++ '.' :: name.toList := by
      rw [hparts]
      simp [String.toList_append]
    rw [hlist, isDotted_append] at htext
    exact .named htext.1 (htext.2.isPlainName hlast)
  | bare _ hbare => exact .named hspace (htext.isPlainName hbare)

theorem Applies.readable {word : String} {ds : List Descriptor} {d : Descriptor}
    (h : Applies word ds d) (hds : ∀ d ∈ ds, d.Readable) : d.Readable := by
  cases h with
  | optional => exact .optional (List.forall_mem_singleton.1 hds)
  | list => exact .list (List.forall_mem_singleton.1 hds)
  | union hmany => exact .union hmany hds

theorem Separated.exists_item {Item : List Token → Descriptor → Prop} {ts : List Token}
    {ds : List Descriptor} (h : Separated Item ts ds) :
    ∀ d ∈ ds, ∃ us, us ⊆ ts ∧ Item us d := by
  induction h with
  | last h => exact List.forall_mem_singleton.2 ⟨_, List.Subset.refl _, h⟩
  | @more ts rest d ds h _ ih =>
    refine List.forall_mem_cons.2 ⟨⟨ts, List.subset_append_left _ _, h⟩, fun d hd => ?_⟩
    obtain ⟨us, hsub, hus⟩ := ih d hd
    refine ⟨us, fun t ht => ?_, hus⟩
    exact List.mem_append_right _ (List.mem_cons_of_mem _ (hsub ht))

/-- What derives from dotted names is readable. -/
theorem Derives.readable {space : String} {ts : List Token} {d : Descriptor}
    (h : Derives space ts d) (hspace : IsDotted space.toList) (hts : ∀ t ∈ ts, t.Dotted) :
    d.Readable := by
  -- The types inside are less deep.
  induction hdepth : d.depth using Nat.strongRecOn generalizing ts d with
  | _ n ih =>
    cases h with
    | name h => exact h.readable hspace (hts _ List.mem_cons_self)
    | quoted h => exact h.readable hspace (hts _ List.mem_cons_self)
    | @generic word ts ds _ hinner happly =>
      apply happly.readable
      intro d hd
      obtain ⟨us, hsub, hus⟩ := hinner.exists_item d hd
      have hless : d.depth < n := by
        rw [← hdepth, happly.depth_eq]
        exact Nat.lt_succ_of_le (depth_le_deepest hd)
      refine ih _ hless hus (fun t ht => hts t ?_) rfl
      simp [hsub ht]

theorem Reads.readable {space text : String} {d : Descriptor} (h : Reads space text d) :
    d.Readable := by
  obtain ⟨tokens, hsplits, hderives⟩ := h.derives
  exact hderives.readable h.namespace_dotted hsplits.dotted

theorem ofName?_scalar_name (kind : ScalarKind) : ScalarKind.ofName? kind.name = some kind := by
  cases kind <;> decide

/-- No builtin type has a dotted name. -/
theorem ofName?_eq_none_of_dot {text : String} (h : '.' ∈ text.toList) :
    ScalarKind.ofName? text = none := by
  have hne : ∀ name : String, '.' ∉ name.toList → text ≠ name := by
    rintro name hname rfl
    exact hname h
  simp only [ScalarKind.ofName?, hne _ (by decide : '.' ∉ "str".toList),
    hne _ (by decide : '.' ∉ "int".toList), hne _ (by decide : '.' ∉ "float".toList),
    hne _ (by decide : '.' ∉ "bool".toList), hne _ (by decide : '.' ∉ "Decimal".toList),
    hne _ (by decide : '.' ∉ "datetime".toList), hne _ (by decide : '.' ∉ "date".toList),
    hne _ (by decide : '.' ∉ "None".toList), hne _ (by decide : '.' ∉ "NoneType".toList),
    hne _ (by decide : '.' ∉ "Unset".toList), or_self, if_false]

/-- Tokens that the canonical text of the descriptor is split into, and that derive it in every
namespace. -/
def SpelledBy (d : Descriptor) (ts : List Token) : Prop :=
  SplitsInto d.render ts ∧ ∀ space, Derives space ts d

theorem spelledBy_scalar (kind : ScalarKind) : SpelledBy (.scalar kind) [.name kind.name] := by
  refine ⟨?_, fun space => .name (.scalar (ofName?_scalar_name kind))⟩
  rw [render]
  exact .name (.plain (by cases kind <;> decide))

theorem spelledBy_named {type : TypeName} (hspace : IsDotted type.space.toList)
    (hname : isPlainName type.name.toList = true) :
    SpelledBy (.named type) [.name type.render] := by
  have hlist : type.render.toList = type.space.toList ++ '.' :: type.name.toList := by
    simp [TypeName.render, String.toList_append]
  have hscalar : ScalarKind.ofName? type.render = none := by
    apply ofName?_eq_none_of_dot
    simp [hlist]
  refine ⟨?_, fun space => .name (.dotted hscalar rfl (dot_not_mem_of_plainName hname))⟩
  rw [render]
  apply SplitsInto.name
  rw [hlist, isDotted_append]
  exact ⟨hspace, .plain hname⟩

/-- The texts of several descriptors with commas between them. -/
theorem exists_separated {ds : List Descriptor} (hne : ds ≠ [])
    (h : ∀ d ∈ ds, ∃ ts, d.SpelledBy ts) :
    ∃ ts, SplitsInto (", ".intercalate (renderAll ds)) ts ∧
      ∀ space, Separated (Derives space) ts ds := by
  induction ds with
  | nil => exact absurd rfl hne
  | cons d ds ih =>
    rw [List.forall_mem_cons] at h
    obtain ⟨⟨ts, hsplits, hderives⟩, hds⟩ := h
    cases ds with
    | nil =>
      rw [renderAll, renderAll, String.intercalate_singleton]
      exact ⟨ts, hsplits, fun space => .last (hderives space)⟩
    | cons d' ds =>
      obtain ⟨us, hsplits', hseparated⟩ := ih (by simp) hds
      rw [renderAll, renderAll, String.intercalate_cons_cons, ← renderAll]
      exact ⟨_, hsplits.comma hsplits', fun space => .more (hderives space) (hseparated space)⟩

/-- A generic is spelled by its name and its arguments in brackets. -/
theorem exists_generic {word : String} {ds : List Descriptor} {d : Descriptor}
    (happly : Applies word ds d) (hword : isPlainName word.toList = true) (hne : ds ≠ [])
    (hrender : d.render = word ++ "[" ++ ", ".intercalate (renderAll ds) ++ "]")
    (h : ∀ d ∈ ds, ∃ ts, d.SpelledBy ts) : ∃ ts, d.SpelledBy ts := by
  obtain ⟨ts, hsplits, hseparated⟩ := exists_separated hne h
  refine ⟨_, ?_, fun space => .generic (hseparated space) happly⟩
  rw [hrender]
  exact hsplits.brackets (.plain hword)

theorem Readable.exists_spelledBy {d : Descriptor} (h : d.Readable) : ∃ ts, d.SpelledBy ts := by
  induction h with
  | scalar kind => exact ⟨_, spelledBy_scalar kind⟩
  | named hspace hname => exact ⟨_, spelledBy_named hspace hname⟩
  | @optional inner _ ih =>
    apply exists_generic (.optional inner) (by decide) (by simp) _ (List.forall_mem_singleton.2 ih)
    rw [render, renderAll, renderAll, String.intercalate_singleton]
    rfl
  | @list item _ ih =>
    apply exists_generic (.list (.inl rfl) item) (by decide) (by simp) _
      (List.forall_mem_singleton.2 ih)
    rw [render, renderAll, renderAll, String.intercalate_singleton]
    rfl
  | @union ds hmany _ ih =>
    apply exists_generic (.union hmany) (by decide) _ _ ih
    · rintro rfl
      simp at hmany
    · rw [render]
      rfl

/-- A canonical text within the limit of length is read back in any namespace. -/
theorem Readable.reads {d : Descriptor} (h : d.Readable) {space : String}
    (hspace : IsDotted space.toList) (hshort : d.render.utf8ByteSize ≤ maxDescriptorBytes)
    (hshallow : d.depth ≤ maxDescriptorDepth) : Reads space d.render d := by
  obtain ⟨ts, hsplits, hderives⟩ := h.exists_spelledBy
  exact
    { namespace_dotted := hspace
      short := hshort
      derives := ⟨ts, hsplits.splits, hderives space⟩
      shallow := hshallow }

theorem parse_tooLong {text : String} (h : maxDescriptorBytes < text.utf8ByteSize)
    (space : String) : parse text space = .error .tooLong := by
  rw [parse]
  exact if_pos h

/-- Whatever was read as a descriptor, its canonical text is read back as the same one in any
namespace, and fails to be only where it is too long. -/
theorem parse_canonicalText {text space other : String} {d : Descriptor}
    (h : parse text space = .ok d) (hother : isDottedIdentifier other = true) :
    parse d.render other =
      if d.render.utf8ByteSize ≤ maxDescriptorBytes then .ok d else .error .tooLong := by
  have hreads := parse_eq_ok.1 h
  by_cases hshort : d.render.utf8ByteSize ≤ maxDescriptorBytes
  · rw [if_pos hshort, parse_eq_ok]
    exact hreads.readable.reads (isDottedIdentifier_iff.1 hother) hshort hreads.shallow
  · rw [if_neg hshort]
    exact parse_tooLong (Nat.lt_of_not_le hshort) other

/-- A namespace of the given width. -/
def spaceOf (width : Nat) : String := String.ofList (List.replicate (width + 1) 'n')

theorem lt_utf8ByteSize_spaceOf (width : Nat) : width < (spaceOf width).utf8ByteSize := by
  rw [spaceOf]
  induction width with
  | zero => decide
  | succ width ih =>
    rw [List.replicate_succ', String.ofList_append, String.utf8ByteSize_append]
    exact Nat.add_lt_add_of_lt_of_le ih (by decide)

theorem isDotted_spaceOf (width : Nat) : IsDotted (spaceOf width).toList := by
  rw [spaceOf, String.toList_ofList, List.replicate_succ]
  apply IsDotted.plain
  rw [isPlainName, List.all_replicate]
  simp [Ascii.isNameStart, Ascii.isNamePart]

theorem parse_in_spaceOf (width : Nat) :
    parse "T" (spaceOf width) = .ok (.named ⟨spaceOf width, "T"⟩) := by
  have hname : Token.SplitsInto "T" [.name "T"] := .name (.plain (by decide))
  rw [parse_eq_ok]
  exact
    { namespace_dotted := isDotted_spaceOf width
      short := by decide
      derives := ⟨_, hname.splits, .name (.bare (by decide) (by decide))⟩
      shallow := by simp [depth] }

/-- Names like those of generics, in a namespace like the name of a builtin type, are read back
under another namespace; a name in a wide namespace has become too long to be. -/
theorem parse_genericNames_canonicalText :
    parse "Union[ 'list', str.List, list['Optional'] ]" "str" =
        .ok (.union [.named ⟨"str", "list"⟩, .named ⟨"str", "List"⟩,
          .list (.named ⟨"str", "Optional"⟩)]) ∧
      parse "Union[str.list, str.List, list[str.Optional]]" "other.ns" =
        .ok (.union [.named ⟨"str", "list"⟩, .named ⟨"str", "List"⟩,
          .list (.named ⟨"str", "Optional"⟩)]) ∧
      parse (Descriptor.named ⟨spaceOf maxDescriptorBytes, "T"⟩).render "other.ns" =
        .error .tooLong := by
  have hread : parse "Union[ 'list', str.List, list['Optional'] ]" "str" =
      .ok (.union [.named ⟨"str", "list"⟩, .named ⟨"str", "List"⟩,
        .list (.named ⟨"str", "Optional"⟩)]) := by decide +kernel
  have hlong : maxDescriptorBytes <
      (Descriptor.named ⟨spaceOf maxDescriptorBytes, "T"⟩).render.utf8ByteSize := by
    rw [render, TypeName.render, String.utf8ByteSize_append, String.utf8ByteSize_append]
    exact Nat.lt_add_right _ (Nat.lt_add_right _ (lt_utf8ByteSize_spaceOf _))
  refine ⟨hread, ?_, ?_⟩
  · exact (parse_canonicalText hread (by decide)).trans (if_pos (by decide))
  · exact (parse_canonicalText (parse_in_spaceOf _) (by decide)).trans
      (if_neg (Nat.not_le_of_lt hlong))

end Descriptor

end StatementGate
