import StatementGate.Descriptor.Parser
import StatementGate.Proofs.Descriptor.Lexicon

/-! # The grammar of descriptors

The trees that token lists stand for, and their reader: what it accepts derives from the grammar,
and whatever derives from the grammar it accepts. -/

namespace StatementGate.Descriptor

/-- What a name stands for that was written in namespace `space`. -/
inductive Denotes (space : String) : String → Descriptor → Prop
  | scalar {text : String} {kind : ScalarKind} (h : ScalarKind.ofName? text = some kind) :
      Denotes space text (.scalar kind)
  | dotted {text before name : String} (hscalar : ScalarKind.ofName? text = none)
      (htext : text = before ++ "." ++ name) (hlast : '.' ∉ name.toList) :
      Denotes space text (.named ⟨before, name⟩)
  | bare {text : String} (hscalar : ScalarKind.ofName? text = none) (hbare : '.' ∉ text.toList) :
      Denotes space text (.named ⟨space, text⟩)

/-- One item or more, with commas between them. -/
inductive Separated (Item : List Token → Descriptor → Prop) : List Token → List Descriptor → Prop
  | last {ts : List Token} {d : Descriptor} (h : Item ts d) : Separated Item ts [d]
  | more {ts rest : List Token} {d : Descriptor} {ds : List Descriptor} (h : Item ts d)
      (hrest : Separated Item rest ds) : Separated Item (ts ++ .comma :: rest) (d :: ds)

/-- The types that the generics make of their arguments. -/
inductive Applies : String → List Descriptor → Descriptor → Prop
  | optional (d : Descriptor) : Applies "Optional" [d] (.optional d)
  | list {word : String} (hword : word = "list" ∨ word = "List") (d : Descriptor) :
      Applies word [d] (.list d)
  | union {ds : List Descriptor} (hmany : 2 ≤ ds.length) : Applies "Union" ds (.union ds)

/-- The types written in namespace `space`. -/
inductive Derives (space : String) : List Token → Descriptor → Prop
  | name {text : String} {d : Descriptor} (h : Denotes space text d) :
      Derives space [.name text] d
  | quoted {text : String} {d : Descriptor} (h : Denotes space text d) :
      Derives space [.quoted text] d
  | generic {word : String} {ts : List Token} {ds : List Descriptor} {d : Descriptor}
      (hinner : Separated (Derives space) ts ds) (h : Applies word ds d) :
      Derives space (.name word :: .opening :: (ts ++ [.closing])) d

mutual

/-- The brackets around the innermost type. -/
def depth : Descriptor → Nat
  | .scalar _ | .named _ => 0
  | .optional inner => depth inner + 1
  | .list item => depth item + 1
  | .union alternatives => deepest alternatives + 1

def deepest : List Descriptor → Nat
  | [] => 0
  | d :: rest => max (depth d) (deepest rest)

end

theorem Derives.length_pos {space : String} {ts : List Token} {d : Descriptor}
    (h : Derives space ts d) : 0 < ts.length := by
  cases h with
  | name => exact Nat.one_pos
  | quoted => exact Nat.one_pos
  | generic => exact Nat.succ_pos _

theorem Denotes.depth_eq_zero {space text : String} {d : Descriptor} (h : Denotes space text d) :
    d.depth = 0 := by
  cases h with
  | scalar => rw [depth]
  | dotted => rw [depth]
  | bare => rw [depth]

theorem depth_le_deepest {ds : List Descriptor} {d : Descriptor} (h : d ∈ ds) :
    d.depth ≤ deepest ds := by
  induction ds with
  | nil => cases h
  | cons first rest ih =>
    rw [deepest]
    rcases List.mem_cons.1 h with rfl | h
    · exact Nat.le_max_left _ _
    · exact (ih h).trans (Nat.le_max_right _ _)

theorem deepest_lt {ds : List Descriptor} {bound : Nat} (hbound : 0 < bound)
    (h : ∀ d ∈ ds, d.depth < bound) : deepest ds < bound := by
  induction ds with
  | nil => exact hbound
  | cons first rest ih =>
    rw [List.forall_mem_cons] at h
    rw [deepest]
    exact Nat.max_lt.2 ⟨h.1, ih h.2⟩

theorem Applies.depth_eq {word : String} {ds : List Descriptor} {d : Descriptor}
    (h : Applies word ds d) : d.depth = deepest ds + 1 := by
  cases h with
  | optional => simp [depth, deepest]
  | list => simp [depth, deepest]
  | union => rw [depth]

/-- A text that reads as the descriptor where it was written in namespace `space`. -/
structure Reads (space text : String) (d : Descriptor) : Prop where
  namespace_dotted : IsDotted space.toList
  short : text.utf8ByteSize ≤ maxDescriptorBytes
  derives : ∃ tokens, Token.Splits text.toList tokens ∧ Derives space tokens d
  shallow : d.depth ≤ maxDescriptorDepth

theorem splitLastDot?_eq_none {s : String} (h : '.' ∉ s.toList) : splitLastDot? s = none := by
  have hdrop : s.toList.reverse.dropWhile (· != '.') = [] := by
    rw [List.dropWhile_eq_nil_iff]
    intro c hc
    rw [bne_iff_ne]
    rintro rfl
    exact h (List.mem_reverse.1 hc)
  simp only [splitLastDot?, hdrop]

theorem splitLastDot?_eq_some {before name : String} (h : '.' ∉ name.toList) :
    splitLastDot? (before ++ "." ++ name) = some (before, name) := by
  have hreverse : (before ++ "." ++ name).toList.reverse =
      name.toList.reverse ++ '.' :: before.toList.reverse := by
    simp [String.toList_append]
  have hinside : ∀ c ∈ name.toList.reverse, (c != '.') = true := by
    intro c hc
    rw [bne_iff_ne]
    rintro rfl
    exact h (List.mem_reverse.1 hc)
  have hdrop : (name.toList.reverse ++ '.' :: before.toList.reverse).dropWhile (· != '.') =
      '.' :: before.toList.reverse := by
    rw [List.dropWhile_append_of_pos hinside, List.dropWhile_cons_of_neg (by simp)]
  have htake : (name.toList.reverse ++ '.' :: before.toList.reverse).takeWhile (· != '.') =
      name.toList.reverse := by
    rw [List.takeWhile_append_of_pos hinside, List.takeWhile_cons_of_neg (by simp),
      List.append_nil]
  simp only [splitLastDot?, hreverse, hdrop, htake, List.reverse_reverse, String.ofList_toList]

/-- A text with a dot has a last one. -/
theorem exists_lastDot {text : String} (h : '.' ∈ text.toList) :
    ∃ before name : String, text = before ++ "." ++ name ∧ '.' ∉ name.toList := by
  obtain ⟨name, before, hreverse, hname⟩ := List.eq_append_cons_of_mem (List.mem_reverse.2 h)
  refine ⟨String.ofList before.reverse, String.ofList name.reverse, ?_, ?_⟩
  · apply String.toList_injective
    rw [List.reverse_eq_iff] at hreverse
    simp [String.toList_append, hreverse]
  · rw [String.toList_ofList, List.mem_reverse]
    exact hname

theorem denotes_iff {space text : String} {d : Descriptor} :
    Denotes space text d ↔ ofName space text = d := by
  constructor
  · intro h
    cases h with
    | scalar h => rw [ofName, h]
    | dotted hscalar htext hlast => rw [ofName, hscalar, htext, splitLastDot?_eq_some hlast]
    | bare hscalar hbare => rw [ofName, hscalar, splitLastDot?_eq_none hbare]
  · rintro rfl
    cases hscalar : ScalarKind.ofName? text with
    | some kind =>
      rw [ofName, hscalar]
      exact .scalar hscalar
    | none =>
      by_cases hdot : '.' ∈ text.toList
      · obtain ⟨before, name, htext, hlast⟩ := exists_lastDot hdot
        rw [ofName, hscalar, htext, splitLastDot?_eq_some hlast, ← htext]
        exact .dotted hscalar htext hlast
      · rw [ofName, hscalar, splitLastDot?_eq_none hdot]
        exact .bare hscalar hdot

namespace Separated

variable {Item Item' : List Token → Descriptor → Prop} {ts : List Token} {ds : List Descriptor}

theorem imp (h : Separated Item ts ds) (himp : ∀ d ∈ ds, ∀ ts, Item ts d → Item' ts d) :
    Separated Item' ts ds := by
  induction h with
  | last h => exact .last (himp _ List.mem_cons_self _ h)
  | more h _ ih =>
    rw [List.forall_mem_cons] at himp
    exact .more (himp.1 _ h) (ih himp.2)

theorem length_pos (h : Separated Item ts ds) : 0 < ds.length := by
  cases h with
  | last => exact Nat.one_pos
  | more => exact Nat.succ_pos _

theorem length_le (h : Separated Item ts ds) (hitem : ∀ ts d, Item ts d → 0 < ts.length) :
    ds.length ≤ ts.length := by
  induction h with
  | last h => exact hitem _ _ h
  | more _ _ ih =>
    simp only [List.length_append, List.length_cons]
    omega

theorem forall_mem {P : Descriptor → Prop} (h : Separated Item ts ds)
    (hitem : ∀ ts d, Item ts d → P d) : ∀ d ∈ ds, P d := by
  induction h with
  | last h => exact List.forall_mem_singleton.2 (hitem _ _ h)
  | more h _ ih => exact List.forall_mem_cons.2 ⟨hitem _ _ h, ih⟩

end Separated

theorem applies_iff {word : String} {ds : List Descriptor} {d : Descriptor} :
    Applies word ds d ↔
      ∃ generic, Generic.ofName? word = some generic ∧ generic.apply word ds = .ok d := by
  constructor
  · intro h
    cases h with
    | optional d => exact ⟨.optional, rfl, rfl⟩
    | list hword d =>
      refine ⟨.list, ?_, rfl⟩
      rcases hword with rfl | rfl
      · rfl
      · rfl
    | union hmany =>
      refine ⟨.union, rfl, ?_⟩
      match ds, hmany with
      | _ :: _ :: _, _ => rfl
  · rintro ⟨generic, hname, happly⟩
    rw [Generic.ofName?] at hname
    split_ifs at hname with hoptional hlist hunion
    · cases hname
      subst hoptional
      match ds, happly with
      | [inner], rfl => exact .optional inner
    · cases hname
      match ds, happly with
      | [inner], rfl => exact .list hlist inner
    · cases hname
      subst hunion
      match ds, happly with
      | _ :: _ :: _, rfl => exact .union (Nat.le_add_left 2 _)

section Reader

variable {item : List LocatedToken → Except DescriptorError (Descriptor × List LocatedToken)}
  {Item : List Token → Descriptor → Prop} {stop fuel : Nat} {tokens rest : List LocatedToken}
  {ds : List Descriptor}

/-- Arguments are one item, and the closing bracket or a comma and the other arguments. -/
theorem arguments_eq_ok :
    arguments item stop fuel tokens = .ok (ds, rest) ↔
      ∃ d after offset, item tokens = .ok (d, after) ∧
        (after = ⟨.closing, offset⟩ :: rest ∧ ds = [d] ∨
          ∃ others fuel' ds', after = ⟨.comma, offset⟩ :: others ∧ fuel = fuel' + 1 ∧
            arguments item stop fuel' others = .ok (ds', rest) ∧ ds = d :: ds') := by
  rw [arguments, bind_eq_ok]
  constructor
  · rintro ⟨⟨d, after⟩, hitem, h⟩
    dsimp only at h
    split at h
    · cases h
      exact ⟨d, _, _, hitem, .inl ⟨rfl, rfl⟩⟩
    · cases fuel with
      | zero => cases h
      | succ fuel =>
        obtain ⟨⟨ds', rest'⟩, hothers, h⟩ := bind_eq_ok.1 h
        cases h
        exact ⟨d, _, _, hitem, .inr ⟨_, _, _, rfl, rfl, hothers, rfl⟩⟩
    · cases h
  · rintro ⟨d, _, offset, hitem, ⟨rfl, rfl⟩ | ⟨others, fuel, ds', rfl, rfl, hothers, rfl⟩⟩
    · exact ⟨_, hitem, rfl⟩
    · exact ⟨_, hitem, bind_eq_ok.2 ⟨_, hothers, rfl⟩⟩

/-- What the reader of arguments reads is separated by commas and ends in a bracket. -/
theorem separated_of_arguments
    (hitem : ∀ {tokens d rest}, item tokens = .ok (d, rest) →
      ∃ used, tokens = used ++ rest ∧ Item (used.map (·.token)) d)
    (h : arguments item stop fuel tokens = .ok (ds, rest)) :
    ∃ used offset, tokens = used ++ ⟨.closing, offset⟩ :: rest ∧
      Separated Item (used.map (·.token)) ds := by
  induction fuel generalizing tokens ds with
  | zero =>
    obtain ⟨d, after, offset, hd, ⟨rfl, rfl⟩ | ⟨_, _, _, _, hfuel, _⟩⟩ := arguments_eq_ok.1 h
    · obtain ⟨used, rfl, hused⟩ := hitem hd
      exact ⟨used, offset, rfl, .last hused⟩
    · cases hfuel
  | succ fuel ih =>
    obtain ⟨d, after, offset, hd, ⟨rfl, rfl⟩ | ⟨others, _, ds, rfl, hfuel, hothers, rfl⟩⟩ :=
      arguments_eq_ok.1 h
    · obtain ⟨used, rfl, hused⟩ := hitem hd
      exact ⟨used, offset, rfl, .last hused⟩
    · cases hfuel
      obtain ⟨used, rfl, hused⟩ := hitem hd
      obtain ⟨used', offset', rfl, hseparated⟩ := ih hothers
      refine ⟨used ++ ⟨.comma, offset⟩ :: used', offset', by simp, ?_⟩
      rw [List.map_append, List.map_cons]
      exact .more hused hseparated

/-- What follows a type that is read to its end. -/
def Follows (rest : List LocatedToken) : Prop :=
  ∀ offset after, rest ≠ ⟨.opening, offset⟩ :: after

/-- The reader of arguments reads whatever is separated by commas and ends in a bracket. -/
theorem arguments_of_separated
    (hitem : ∀ {used d rest}, Item (used.map (·.token)) d → Follows rest →
      item (used ++ rest) = .ok (d, rest))
    {ts : List Token} (h : Separated Item ts ds) {used : List LocatedToken}
    (hused : used.map (·.token) = ts) (hfuel : ds.length ≤ fuel + 1) (offset : Nat) :
    arguments item stop fuel (used ++ ⟨.closing, offset⟩ :: rest) = .ok (ds, rest) := by
  induction h generalizing used fuel with
  | last h =>
    subst hused
    exact arguments_eq_ok.2 ⟨_, _, offset, hitem h nofun, .inl ⟨rfl, rfl⟩⟩
  | more h hrest ih =>
    obtain ⟨used, others, rfl, rfl, hothers⟩ := List.map_eq_append_iff.1 hused
    obtain ⟨⟨_, commaOffset⟩, others, rfl, rfl, rfl⟩ := List.map_eq_cons_iff.1 hothers
    rw [List.append_assoc, List.cons_append]
    cases fuel with
    | zero =>
      have := hrest.length_pos
      rw [List.length_cons] at hfuel
      omega
    | succ fuel =>
      have hothers := @ih fuel _ rfl (Nat.le_of_succ_le_succ hfuel)
      exact arguments_eq_ok.2
        ⟨_, _, commaOffset, hitem h nofun, .inr ⟨_, fuel, _, rfl, rfl, hothers, rfl⟩⟩

/-- A type is a name that no bracket follows, or a generic and its arguments. -/
theorem parseType_eq_ok {space : String} {budget : Nat} {d : Descriptor} :
    parseType space stop (budget + 1) tokens = .ok (d, rest) ↔
      (∃ text offset, tokens = ⟨.name text, offset⟩ :: rest ∧ Follows rest ∧
        ofName space text = d) ∨
      (∃ text offset, tokens = ⟨.quoted text, offset⟩ :: rest ∧ ofName space text = d) ∨
      ∃ word offset offset' inner ds, tokens = ⟨.name word, offset⟩ :: ⟨.opening, offset'⟩ :: inner ∧
        arguments (parseType space stop budget) stop inner.length inner = .ok (ds, rest) ∧
        Applies word ds d := by
  constructor
  · intro h
    rw [parseType.eq_def] at h
    dsimp only at h
    split at h
    · split at h
      · cases h
      · rename_i generic hgeneric
        obtain ⟨⟨ds, after⟩, hds, h⟩ := bind_eq_ok.1 h
        obtain ⟨d', hd, h⟩ := bind_eq_ok.1 h
        cases h
        exact .inr (.inr ⟨_, _, _, _, _, rfl, hds, applies_iff.2 ⟨_, hgeneric, hd⟩⟩)
    · rename_i hname
      cases h
      exact .inl ⟨_, _, rfl, fun offset after => hname offset after, rfl⟩
    · cases h
      exact .inr (.inl ⟨_, _, rfl, rfl⟩)
    · cases h
  · rintro (⟨text, offset, rfl, hrest, rfl⟩ | ⟨text, offset, rfl, rfl⟩ |
      ⟨word, offset, offset', inner, ds, rfl, hds, happly⟩)
    · rw [parseType]
      · rfl
      · exact fun offset' after h => hrest offset' after h
    · rfl
    · obtain ⟨generic, hgeneric, happly⟩ := applies_iff.1 happly
      rw [parseType, hgeneric]
      exact bind_eq_ok.2 ⟨_, hds, bind_eq_ok.2 ⟨_, happly, rfl⟩⟩

/-- What the reader reads is a type of the grammar, and its brackets fit the budget. -/
theorem derives_of_parseType {space : String} {budget : Nat} {d : Descriptor}
    (h : parseType space stop budget tokens = .ok (d, rest)) :
    ∃ used, tokens = used ++ rest ∧ Derives space (used.map (·.token)) d ∧ d.depth < budget := by
  induction budget generalizing tokens d rest with
  | zero => cases h
  | succ budget ih =>
    rcases parseType_eq_ok.1 h with ⟨text, offset, rfl, _, hd⟩ | ⟨text, offset, rfl, hd⟩ |
      ⟨word, offset, offset', inner, ds, rfl, hds, happly⟩
    · rw [← denotes_iff] at hd
      exact ⟨[_], rfl, .name hd, hd.depth_eq_zero ▸ Nat.succ_pos _⟩
    · rw [← denotes_iff] at hd
      exact ⟨[_], rfl, .quoted hd, hd.depth_eq_zero ▸ Nat.succ_pos _⟩
    · obtain ⟨used, last, rfl, hseparated⟩ : ∃ used last, inner = used ++ ⟨.closing, last⟩ :: rest ∧
          Separated (fun ts d => Derives space ts d ∧ d.depth < budget) (used.map (·.token)) ds :=
        separated_of_arguments ih hds
      refine ⟨⟨.name word, offset⟩ :: ⟨.opening, offset'⟩ :: (used ++ [⟨.closing, last⟩]), by simp,
        ?_, ?_⟩
      · simp only [List.map_cons, List.map_append, List.map_nil]
        exact .generic (hseparated.imp fun _ _ _ h => h.1) happly
      · have hdepth := hseparated.forall_mem fun _ _ h => h.2
        obtain ⟨d', hd'⟩ := List.exists_mem_of_length_pos hseparated.length_pos
        have hdeepest := deepest_lt (Nat.zero_lt_of_lt (hdepth d' hd')) hdepth
        rw [happly.depth_eq]
        exact Nat.succ_lt_succ hdeepest

/-- The reader reads every type of the grammar whose brackets fit the budget. -/
theorem parseType_of_derives {space : String} {budget : Nat} {d : Descriptor}
    {used : List LocatedToken} (h : Derives space (used.map (·.token)) d)
    (hdepth : d.depth < budget) (hrest : Follows rest) :
    parseType space stop budget (used ++ rest) = .ok (d, rest) := by
  induction budget generalizing used d rest with
  | zero => exact absurd hdepth (Nat.not_lt_zero _)
  | succ budget ih =>
    rw [parseType_eq_ok]
    generalize hts : used.map (·.token) = ts at h
    cases h with
    | name h =>
      obtain ⟨⟨_, offset⟩, rfl, rfl⟩ := List.map_eq_singleton_iff.1 hts
      exact .inl ⟨_, offset, rfl, hrest, denotes_iff.1 h⟩
    | quoted h =>
      obtain ⟨⟨_, offset⟩, rfl, rfl⟩ := List.map_eq_singleton_iff.1 hts
      exact .inr (.inl ⟨_, offset, rfl, denotes_iff.1 h⟩)
    | @generic word ts ds _ hinner happly =>
      obtain ⟨⟨_, offset⟩, used, rfl, rfl, hopening⟩ := List.map_eq_cons_iff.1 hts
      obtain ⟨⟨_, offset'⟩, used, rfl, rfl, hinside⟩ := List.map_eq_cons_iff.1 hopening
      obtain ⟨used, closing, rfl, hused, hclosing⟩ := List.map_eq_append_iff.1 hinside
      obtain ⟨⟨_, last⟩, rfl, rfl⟩ := List.map_eq_singleton_iff.1 hclosing
      rw [happly.depth_eq] at hdepth
      have hitems : Separated (fun ts d => Derives space ts d ∧ d.depth < budget) ts ds :=
        hinner.imp fun d hd _ h =>
          ⟨h, (depth_le_deepest hd).trans_lt (Nat.lt_of_succ_lt_succ hdepth)⟩
      have hlength : ds.length ≤ used.length := by
        have := hinner.length_le fun _ _ h => h.length_pos
        rwa [← hused, List.length_map] at this
      refine .inr (.inr ⟨word, offset, offset', used ++ ⟨.closing, last⟩ :: rest, ds, by simp, ?_,
        happly⟩)
      apply arguments_of_separated (fun h hrest => ih h.1 h.2 hrest) hitems hused
      rw [List.length_append]
      omega

end Reader

end StatementGate.Descriptor
