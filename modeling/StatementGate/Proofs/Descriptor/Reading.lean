import StatementGate.Proofs.Descriptor.Grammar

/-! # Texts and their descriptors

A text reads as a descriptor exactly when its tokens derive it within the limits of length and
depth. Space between tokens and quotes around leaves make no difference. -/

namespace StatementGate.Descriptor

/-- Token lists that differ in quotes around names that are not generics. -/
inductive Requoted : List Token → List Token → Prop
  | nil : Requoted [] []
  | same (token : Token) {ts ts' : List Token} (h : Requoted ts ts') :
      Requoted (token :: ts) (token :: ts')
  | quote (text : String) {ts ts' : List Token} (hleaf : ts.head? ≠ some .opening)
      (h : Requoted ts ts') : Requoted (.name text :: ts) (.quoted text :: ts')
  | unquote (text : String) {ts ts' : List Token} (hleaf : ts'.head? ≠ some .opening)
      (h : Requoted ts ts') : Requoted (.quoted text :: ts) (.name text :: ts')

namespace Requoted

variable {ts ts' us : List Token}

theorem symm (h : Requoted ts ts') : Requoted ts' ts := by
  induction h with
  | nil => exact .nil
  | same token _ ih => exact .same token ih
  | quote text hleaf _ ih => exact .unquote text hleaf ih
  | unquote text hleaf _ ih => exact .quote text hleaf ih

theorem head_ne_of_append (h : (ts ++ us).head? ≠ some .opening) : ts.head? ≠ some .opening := by
  intro hhead
  rw [List.head?_append, hhead] at h
  exact h rfl

/-- The parts of a list are requoted each for itself. -/
theorem append_left (h : Requoted (ts ++ us) ts') :
    ∃ first rest, ts' = first ++ rest ∧ Requoted ts first ∧ Requoted us rest := by
  induction ts generalizing ts' with
  | nil => exact ⟨[], ts', rfl, .nil, h⟩
  | cons token ts ih =>
    rw [List.cons_append] at h
    cases h with
    | same _ h =>
      obtain ⟨first, rest, rfl, hfirst, hrest⟩ := ih h
      exact ⟨token :: first, rest, rfl, .same token hfirst, hrest⟩
    | quote text hleaf h =>
      obtain ⟨first, rest, rfl, hfirst, hrest⟩ := ih h
      exact ⟨.quoted text :: first, rest, rfl, .quote text (head_ne_of_append hleaf) hfirst, hrest⟩
    | unquote text hleaf h =>
      obtain ⟨first, rest, rfl, hfirst, hrest⟩ := ih h
      exact ⟨.name text :: first, rest, rfl, .unquote text (head_ne_of_append hleaf) hfirst, hrest⟩

/-- A bracket or a comma stays. -/
theorem mark_left {token : Token} (h : Requoted (token :: ts) ts')
    (htoken : ∀ text, token ≠ .name text ∧ token ≠ .quoted text) :
    ∃ rest, ts' = token :: rest ∧ Requoted ts rest := by
  cases h with
  | same _ h => exact ⟨_, rfl, h⟩
  | quote text => exact absurd rfl (htoken text).1
  | unquote text => exact absurd rfl (htoken text).2

/-- The name of a generic stays. -/
theorem generic_left {word : String} (h : Requoted (.name word :: .opening :: ts) ts') :
    ∃ rest, ts' = .name word :: .opening :: rest ∧ Requoted ts rest := by
  cases h with
  | same _ h =>
    obtain ⟨rest, rfl, hrest⟩ := h.mark_left (by simp)
    exact ⟨rest, rfl, hrest⟩
  | quote _ hleaf => exact absurd rfl hleaf

theorem nil_left (h : Requoted [] ts') : ts' = [] := by
  cases h with
  | nil => rfl

end Requoted

theorem Separated.requoted {Item : List Token → Descriptor → Prop} {ts ts' : List Token}
    {ds : List Descriptor} (h : Separated Item ts ds)
    (hitem : ∀ d ∈ ds, ∀ {ts ts'}, Item ts d → Requoted ts ts' → Item ts' d)
    (hrequoted : Requoted ts ts') : Separated Item ts' ds := by
  induction h generalizing ts' with
  | last h => exact .last (hitem _ List.mem_cons_self h hrequoted)
  | more h _ ih =>
    rw [List.forall_mem_cons] at hitem
    obtain ⟨first, others, rfl, hfirst, hothers⟩ := hrequoted.append_left
    obtain ⟨rest, rfl, hrest⟩ := hothers.mark_left (by simp)
    exact .more (hitem.1 h hfirst) (ih hitem.2 hrest)

/-- Quotes around leaves change no type. -/
theorem Derives.requoted {space : String} {ts ts' : List Token} {d : Descriptor}
    (h : Derives space ts d) (hrequoted : Requoted ts ts') : Derives space ts' d := by
  -- The types inside are less deep.
  induction hdepth : d.depth using Nat.strongRecOn generalizing ts ts' d with
  | _ n ih =>
    cases h with
    | name h =>
      cases hrequoted with
      | same _ hrest =>
        rw [hrest.nil_left]
        exact .name h
      | quote _ _ hrest =>
        rw [hrest.nil_left]
        exact .quoted h
    | quoted h =>
      cases hrequoted with
      | same _ hrest =>
        rw [hrest.nil_left]
        exact .quoted h
      | unquote _ _ hrest =>
        rw [hrest.nil_left]
        exact .name h
    | generic hinner happly =>
      obtain ⟨rest, rfl, hrest⟩ := hrequoted.generic_left
      obtain ⟨inner, closing, rfl, hinside, hclosing⟩ := hrest.append_left
      obtain ⟨after, rfl, hafter⟩ := hclosing.mark_left (by simp)
      rw [hafter.nil_left]
      apply Derives.generic (hinner.requoted _ hinside) happly
      intro d hd ts ts' h hrequoted
      have hless : d.depth < n := by
        rw [← hdepth, happly.depth_eq]
        exact Nat.lt_succ_of_le (depth_le_deepest hd)
      exact ih _ hless h hrequoted rfl

/-- No token list derives two types. -/
theorem Derives.unique {space : String} {ts : List Token} {d d' : Descriptor}
    (h : Derives space ts d) (h' : Derives space ts d') : d = d' := by
  -- Tokens anywhere in a text will do, and a budget that both trees fit.
  have hmap : (ts.map fun token => LocatedToken.mk token 0).map (·.token) = ts := by
    rw [List.map_map]
    exact List.map_id ts
  rw [← hmap] at h h'
  have hparse : parseType space 0 (max d.depth d'.depth + 1) (_ ++ []) = .ok (d, []) :=
    parseType_of_derives h (Nat.lt_succ_of_le (Nat.le_max_left _ _)) nofun
  have hparse' : parseType space 0 (max d.depth d'.depth + 1) (_ ++ []) = .ok (d', []) :=
    parseType_of_derives h' (Nat.lt_succ_of_le (Nat.le_max_right _ _)) nofun
  rw [hparse] at hparse'
  cases hparse'
  rfl

/-- A text is read exactly when it reads as a descriptor. -/
theorem parse_eq_ok {text space : String} {d : Descriptor} :
    parse text space = .ok d ↔ Reads space text d := by
  rw [parse]
  constructor
  · intro h
    dsimp only at h
    obtain ⟨hshort, h⟩ := throwIf_eq_ok.1 h
    obtain ⟨hspace, h⟩ := throwIf_eq_ok.1 h
    obtain ⟨tokens, htokens, h⟩ := bind_eq_ok.1 h
    obtain ⟨_, h⟩ := throwIf_eq_ok.1 h
    obtain ⟨⟨d', rest⟩, hparse, h⟩ := bind_eq_ok.1 h
    obtain ⟨hrest, h⟩ := throwIf_eq_ok.1 h
    cases h
    obtain ⟨used, rfl, hderives, hdepth⟩ := derives_of_parseType hparse
    have hrest : rest = [] := by simpa using hrest
    have hspace : isDottedIdentifier space = true := by simpa using hspace
    rw [hrest, List.append_nil] at htokens
    exact
      { namespace_dotted := isDottedIdentifier_iff.1 hspace
        short := Nat.le_of_not_gt hshort
        derives := ⟨_, Token.splits_of_scan htokens, hderives⟩
        shallow := Nat.le_of_lt_succ hdepth }
  · intro h
    obtain ⟨tokens, hsplits, hderives⟩ := h.derives
    obtain ⟨located, hscan, rfl⟩ := hsplits.scan_eq 0
    have hlocated : located.isEmpty = false := by
      have := hderives.length_pos
      cases located with
      | nil => cases this
      | cons => rfl
    have hparse : parseType space text.utf8ByteSize (maxDescriptorDepth + 1) (located ++ []) =
        .ok (d, []) := parseType_of_derives hderives (Nat.lt_succ_of_le h.shallow) nofun
    rw [List.append_nil] at hparse
    dsimp only
    rw [throwIf_eq_ok, isDottedIdentifier_iff.2 h.namespace_dotted, hscan]
    refine ⟨Nat.not_lt_of_le h.short, ?_⟩
    rw [throwIf_eq_ok, bind_eq_ok]
    refine ⟨by simp, located, rfl, ?_⟩
    rw [hlocated, throwIf_eq_ok, bind_eq_ok]
    exact ⟨by simp, _, hparse, rfl⟩

/-- Texts of the same length limit read alike where their tokens differ in quotes alone. -/
theorem Reads.requoted {space text other : String} {tokens tokens' : List Token} {d : Descriptor}
    (h : Reads space text d) (htext : Token.Splits text.toList tokens)
    (hother : Token.Splits other.toList tokens') (hrequoted : Requoted tokens tokens')
    (hshort : other.utf8ByteSize ≤ maxDescriptorBytes) : Reads space other d := by
  obtain ⟨read, hread, hderives⟩ := h.derives
  rw [hread.unique htext] at hderives
  exact { h with short := hshort, derives := ⟨tokens', hother, hderives.requoted hrequoted⟩ }

/-- Exactly the texts of the grammar are read, each as the one descriptor that its tokens derive,
and alike with other space between the tokens or other quotes around leaves. -/
theorem parse_reads_grammar (text space : String) :
    (∀ d, parse text space = .ok d ↔ Reads space text d) ∧
      (∀ tokens tokens', Token.Splits text.toList tokens → Token.Splits text.toList tokens' →
        tokens = tokens') ∧
      (∀ tokens d d', Derives space tokens d → Derives space tokens d' → d = d') ∧
      ∀ other tokens tokens', Token.Splits text.toList tokens → Token.Splits other.toList tokens' →
        Requoted tokens tokens' → text.utf8ByteSize ≤ maxDescriptorBytes →
        other.utf8ByteSize ≤ maxDescriptorBytes →
        ∀ d, parse text space = .ok d ↔ parse other space = .ok d := by
  refine ⟨fun d => parse_eq_ok, fun _ _ h h' => h.unique h', fun _ _ _ h h' => h.unique h', ?_⟩
  intro other tokens tokens' htext hother hrequoted hshort hshort' d
  rw [parse_eq_ok, parse_eq_ok]
  exact ⟨fun h => h.requoted htext hother hrequoted hshort',
    fun h => h.requoted hother htext hrequoted.symm hshort⟩

/-- A quoted name with space around it reads like the bare one. -/
theorem parse_acceptances :
    parse "Optional[ list['Acceptance'] ]" "app" =
      .ok (.optional (.list (.named ⟨"app", "Acceptance"⟩))) := by
  have hbare : Token.scan 0 "Optional[list[Acceptance]]".toList =
      .ok [⟨.name "Optional", 0⟩, ⟨.opening, 8⟩, ⟨.name "list", 9⟩, ⟨.opening, 13⟩,
        ⟨.name "Acceptance", 14⟩, ⟨.closing, 24⟩, ⟨.closing, 25⟩] := by decide +kernel
  have hquoted : Token.scan 0 "Optional[ list['Acceptance'] ]".toList =
      .ok [⟨.name "Optional", 0⟩, ⟨.opening, 8⟩, ⟨.name "list", 10⟩, ⟨.opening, 14⟩,
        ⟨.quoted "Acceptance", 15⟩, ⟨.closing, 27⟩, ⟨.closing, 29⟩] := by decide +kernel
  have hparse : parse "Optional[list[Acceptance]]" "app" =
      .ok (.optional (.list (.named ⟨"app", "Acceptance"⟩))) := by decide +kernel
  rw [← (parse_reads_grammar "Optional[list[Acceptance]]" "app").2.2.2
    "Optional[ list['Acceptance'] ]" _ _ (Token.splits_of_scan hbare)
    (Token.splits_of_scan hquoted)
    (.same _ (.same _ (.same _ (.same _ (.quote _ (by decide) (.same _ (.same _ .nil)))))))
    (by decide) (by decide)]
  exact hparse

end StatementGate.Descriptor
