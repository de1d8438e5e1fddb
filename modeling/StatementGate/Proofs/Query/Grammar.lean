import Mathlib.Data.List.TakeWhile
import StatementGate.Proofs.Query.WellFormed

/-! # Grammar of conditions

The tokens that make an operand or a condition, with the columns in them from left to right. What
is rendered for a predicate is a condition that tests the columns of the predicate, each as the
scope writes it; a test for membership in an empty list tests none. Where two conditions are joined
nothing is said of precedence: it decides what a condition means, not whether it is one. -/

namespace StatementGate

open Piece (spell values)

namespace ColumnRef

/-- A reference as it stands in a text. -/
def text (ref : ColumnRef) : String :=
  match ref.table with
  | none => ref.name
  | some table => table ++ "." ++ ref.name

/-- A reference whose parts are plain identifiers. -/
structure Plain (ref : ColumnRef) : Prop where
  name : isPlainIdentifier ref.name = true
  table : ∀ table, ref.table = some table → isPlainIdentifier table = true

theorem isName_text {ref : ColumnRef} (h : ref.Plain) : Sql.isName ref.text = true := by
  obtain ⟨table, name⟩ := ref
  cases table with
  | none => exact Sql.isName_of_identifier h.name
  | some table =>
    simp only [text]
    rw [String.append_assoc]
    apply Sql.isName_append (Sql.isName_of_identifier (h.table table rfl))
    exact Sql.isWord_append (by decide) (Sql.isWord_of_identifier h.name)

/-- A plain reference is read back from its text. -/
theorem parse_text {ref : ColumnRef} (h : ref.Plain) : parse ref.text = ref := by
  have hdot : ∀ {s : String}, isPlainIdentifier s = true → ∀ c ∈ s.toList, (c != '.') = true := by
    intro s hs c hc
    rw [bne_iff_ne]
    rintro rfl
    exact dot_not_mem_of_plainName hs hc
  obtain ⟨table, name⟩ := ref
  cases table with
  | none =>
    have hname : name.toList.dropWhile (· != '.') = [] := List.dropWhile_eq_nil_iff.2 (hdot h.name)
    simp only [text, parse, hname]
  | some table =>
    have htable := hdot (h.table table rfl)
    have hlist : (table ++ "." ++ name).toList = table.toList ++ '.' :: name.toList := by
      simp [String.toList_append]
    have hdrop : (table ++ "." ++ name).toList.dropWhile (· != '.') = '.' :: name.toList := by
      rw [hlist, List.dropWhile_append_of_pos htable]
      rfl
    have htake : (table ++ "." ++ name).toList.takeWhile (· != '.') = table.toList := by
      rw [hlist, List.takeWhile_append_of_pos htable]
      simp
    simp only [text, parse, hdrop, htake, String.ofList_toList]

theorem parse_texts {refs : List ColumnRef} (h : ∀ ref ∈ refs, ref.Plain) :
    (refs.map text).map parse = refs := by
  have hid : refs.map (parse ∘ text) = refs.map id :=
    List.map_congr_left fun ref href => parse_text (h ref href)
  rw [List.map_map, hid, List.map_id]

end ColumnRef

namespace Sql

theorem colon_not_mem_of_isWord {t : String} (h : isWord t = true) : ':' ∉ t.toList := by
  simp only [isWord, Bool.and_eq_true, List.all_eq_true] at h
  exact fun hmem => absurd (h.2 ':' hmem) (by decide)

theorem toList_placeholder (i : Nat) :
    (Piece.placeholder i).toList = ':' :: (Piece.parameterName i).toList :=
  String.toList_append

/-- A placeholder is none of the tokens without a colon. -/
theorem placeholder_not_mem {tokens : List String} (h : ∀ t ∈ tokens, ':' ∉ t.toList) (i : Nat) :
    Piece.placeholder i ∉ tokens := by
  intro hmem
  have hcolon := h _ hmem
  rw [toList_placeholder] at hcolon
  exact hcolon List.mem_cons_self

/-- The tokens of an operand, and the columns in it. -/
inductive OperandTokens : List String → List ColumnRef → Prop
  | column {ref : ColumnRef} (h : ref.Plain) : OperandTokens [ref.text] [ref]
  | placeholder (i : Nat) : OperandTokens [Piece.placeholder i] []
  | call (f : SqlFunction) {parts : List (List String × List ColumnRef)} (hne : parts ≠ [])
      (h : ∀ part ∈ parts, OperandTokens part.1 part.2) :
      OperandTokens (f.keyword :: "(" :: ([","].intercalate (parts.map Prod.fst) ++ [")"]))
        (parts.flatMap Prod.snd)

/-- The tokens of a condition, and the columns that it tests. -/
inductive ConditionTokens : List String → List ColumnRef → Prop
  | comparison {l r : List String} {op : String} {cs ds : List ColumnRef} (hl : OperandTokens l cs)
      (hop : op ∈ comparisons) (hr : OperandTokens r ds) :
      ConditionTokens (l ++ op :: r) (cs ++ ds)
  | nullTest {ts : List String} {cs : List ColumnRef} (negated : Bool) (h : OperandTokens ts cs) :
      ConditionTokens (ts ++ if negated then ["IS", "NOT", "NULL"] else ["IS", "NULL"]) cs
  | member {ts : List String} {cs : List ColumnRef} (negated : Bool) (h : OperandTokens ts cs)
      {places : List Nat} (hne : places ≠ []) :
      ConditionTokens (ts ++ ((if negated then ["NOT", "IN"] else ["IN"]) ++
        "(" :: ([","].intercalate (places.map fun i => [Piece.placeholder i]) ++ [")"]))) cs
  | constant (truth : Bool) : ConditionTokens ["1", "=", if truth then "1" else "0"] []
  | group {ts : List String} {cs : List ColumnRef} (h : ConditionTokens ts cs) :
      ConditionTokens ("(" :: (ts ++ [")"])) cs
  | not {ts : List String} {cs : List ColumnRef} (h : ConditionTokens ts cs) :
      ConditionTokens ("NOT" :: "(" :: (ts ++ [")"])) cs
  | joined {ts us : List String} {cs ds : List ColumnRef} {word : String}
      (hword : word = "AND" ∨ word = "OR") (h : ConditionTokens ts cs)
      (h' : ConditionTokens us ds) : ConditionTokens (ts ++ word :: us) (cs ++ ds)

end Sql

namespace Scope

variable {scope : Scope}

/-- The reference that is written for one of the builder: under the table that it resolves to, where
it names one or several are in scope. -/
def written (scope : Scope) (ref : ColumnRef) (table : String) : ColumnRef :=
  ⟨if ref.table.isSome || scope.isJoined then some table else none, ref.name⟩

/-- The scope writes the second reference for the first. -/
def Writes (scope : Scope) (ref column : ColumnRef) : Prop :=
  ∃ table, scope.resolve ref = .ok table ∧ column = scope.written ref table

theorem columnText_eq (ref : ColumnRef) (table : String) :
    scope.columnText ref table = (scope.written ref table).text := by
  rw [columnText, written, ColumnRef.text]
  by_cases hqualified : (ref.table.isSome || scope.isJoined) = true
  · simp only [hqualified, if_true]
  · simp only [hqualified, if_false, Bool.false_eq_true]

/-- A column that resolves is declared by a table in scope. -/
theorem resolve_declared {ref : ColumnRef} {table : String} (h : scope.resolve ref = .ok table) :
    ∃ e ∈ scope.tables, e.table = table ∧ ref.name ∈ e.columns := by
  obtain ⟨_, _, h⟩ := bind_eq_ok.1 h
  split at h
  · simp only [resolveBare] at h
    split at h
    · cases h
    · rename_i e heq
      cases h
      have he := List.mem_filter.1 (heq ▸ List.mem_singleton_self e)
      exact ⟨e, he.1, rfl, by simpa using he.2⟩
    · cases h
  · obtain ⟨_, _, h⟩ := bind_eq_ok.1 h
    obtain ⟨rfl, before, e, after, htables, _, htable, hcolumn⟩ := resolveIn_eq_ok.1 h
    refine ⟨e, ?_, htable, hcolumn⟩
    rw [htables]
    exact List.mem_append_right before List.mem_cons_self

namespace Writes

variable {ref column : ColumnRef}

theorem plain (hscope : scope.Plain) (h : scope.Writes ref column) : column.Plain := by
  obtain ⟨table, htable, rfl⟩ := h
  obtain ⟨hname, e, he, rfl⟩ := resolve_eq_ok htable
  refine ⟨hname, fun table htable => ?_⟩
  simp only [written] at htable
  split at htable
  · cases htable
    exact (hscope e he).1
  · cases htable

theorem qualified (h : scope.Writes ref column) (hjoined : scope.isJoined = true) :
    column.table ≠ none := by
  obtain ⟨table, _, rfl⟩ := h
  simp [written, hjoined]

end Writes

theorem column_writes {ref : ColumnRef} {ps : Pieces} (h : scope.column ref = .ok ps) :
    ∃ column, scope.Writes ref column ∧ ps = [.word column.text] := by
  obtain ⟨table, htable, rfl⟩ := column_eq_ok h
  exact ⟨scope.written ref table, ⟨table, htable, rfl⟩, by rw [columnText_eq]⟩

end Scope

mutual

/-- The columns that a predicate tests, from left to right. A test for membership in an empty list
looks at none. -/
def Predicate.tested : Predicate → List ColumnRef
  | .compare left _ right => left.columns ++ right.columns
  | .member operand values _ => if values.isEmpty then [] else operand.columns
  | .isNull operand _ => operand.columns
  | .all items | .any items => Predicate.testedByAll items
  | .not inner => inner.tested

def Predicate.testedByAll : List Predicate → List ColumnRef
  | [] => []
  | p :: rest => p.tested ++ Predicate.testedByAll rest

end

namespace Piece

/-- The tokens of parts whose values are numbered one after the other. -/
def spellEach : (next : Nat) → List Pieces → List (List String)
  | _, [] => []
  | next, part :: rest => spell next part :: spellEach (next + (values part).length) rest

theorem spell_separated_comma (next : Nat) (parts : List Pieces) :
    spell next (separated comma parts) = [","].intercalate (spellEach next parts) := by
  induction parts generalizing next with
  | nil => rfl
  | cons part parts ih =>
    cases parts with
    | nil => simp [separated, spellEach]
    | cons part' parts =>
      rw [spell_separated spell_comma, ih]
      simp [spellEach, List.intercalate_cons_cons]

theorem spellEach_binds (next : Nat) (vs : List Scalar) :
    spellEach next (vs.map fun v => [.bind v]) =
      (List.range' next vs.length).map fun i => [placeholder i] := by
  induction vs generalizing next with
  | nil => rfl
  | cons v vs ih =>
    rw [List.map_cons, spellEach, ih, List.length_cons, List.range'_succ, List.map_cons]
    rfl

end Piece

section Rendered

variable {scope : Scope}

mutual

/-- What is rendered for an operand are the tokens of one, with its columns as the scope writes
them. -/
theorem Operand.derives (hscope : scope.Plain) (operand : Operand) {ps : Pieces}
    (h : operand.render scope = .ok ps) (next : Nat) :
    ∃ cs, Sql.OperandTokens (spell next ps) cs ∧ List.Forall₂ scope.Writes operand.columns cs := by
  cases operand with
  | column ref =>
    rw [Operand.render] at h
    obtain ⟨column, hcolumn, rfl⟩ := Scope.column_writes h
    exact ⟨[column], .column (hcolumn.plain hscope), .cons hcolumn .nil⟩
  | literal value =>
    rw [Operand.render] at h
    cases h
    exact ⟨[], .placeholder next, .nil⟩
  | function name arguments =>
    rw [Operand.render] at h
    obtain ⟨f, hf, h⟩ := bind_eq_ok.1 h
    obtain ⟨parts, hparts, h⟩ := bind_eq_ok.1 h
    cases h
    have hne : arguments ≠ [] := by
      rintro rfl
      have hcall := succeeds_ofCall.1 ⟨f, hf⟩
      simp [IsCall] at hcall
    obtain ⟨spelled, htokens, hspelled, hwrites, hcount⟩ :=
      Operand.derivesAll hscope arguments hparts next
    rw [spell, Piece.spell_parenthesized, Piece.spell_separated_comma, ← htokens]
    refine ⟨spelled.flatMap Prod.snd, .call f ?_ hspelled, hwrites⟩
    rintro rfl
    exact hne (List.length_eq_zero_iff.1 hcount.symm)
  | window name partition =>
    rw [Operand.render] at h
    cases h

theorem Operand.derivesAll (hscope : scope.Plain) (operands : List Operand) {parts : List Pieces}
    (h : Operand.renderAll scope operands = .ok parts) (next : Nat) :
    ∃ spelled : List (List String × List ColumnRef),
      spelled.map Prod.fst = Piece.spellEach next parts ∧
      (∀ part ∈ spelled, Sql.OperandTokens part.1 part.2) ∧
      List.Forall₂ scope.Writes (Operand.columnsOfAll operands) (spelled.flatMap Prod.snd) ∧
      spelled.length = operands.length := by
  cases operands with
  | nil =>
    rw [Operand.renderAll] at h
    cases h
    exact ⟨[], rfl, List.forall_mem_nil _, .nil, rfl⟩
  | cons operand rest =>
    rw [Operand.renderAll] at h
    obtain ⟨part, hpart, h⟩ := bind_eq_ok.1 h
    obtain ⟨parts, hparts, h⟩ := bind_eq_ok.1 h
    cases h
    obtain ⟨cs, hcs, hwrites⟩ := Operand.derives hscope operand hpart next
    obtain ⟨spelled, htokens, hspelled, hrest, hcount⟩ :=
      Operand.derivesAll hscope rest hparts (next + (values part).length)
    refine ⟨(spell next part, cs) :: spelled, ?_, List.forall_mem_cons.2 ⟨hcs, hspelled⟩, ?_, ?_⟩
    · rw [List.map_cons, htokens, Piece.spellEach]
    · rw [Operand.columnsOfAll, List.flatMap_cons]
      exact List.rel_append hwrites hrest
    · rw [List.length_cons, List.length_cons, hcount]

end

open Sql (ConditionTokens)

theorem Predicate.constant_derives (truth : Bool) (next : Nat) :
    ConditionTokens (spell next (constant truth)) [] :=
  .constant truth

theorem Predicate.item_derives {ps : Pieces} {next : Nat} {cs : List ColumnRef} (p : Predicate)
    (h : ConditionTokens (spell next ps) cs) :
    ConditionTokens (spell next (p.itemPieces ps)) cs := by
  rw [itemPieces]
  split
  · rw [Piece.spell_parenthesized]
    exact .group h
  · exact h

mutual

/-- What is rendered for a predicate are the tokens of a condition, which tests the columns that the
predicate tests as the scope writes them. -/
theorem Predicate.derives (hscope : scope.Plain) (p : Predicate) {ps : Pieces}
    (h : p.render scope = .ok ps) (next : Nat) :
    ∃ cs, ConditionTokens (spell next ps) cs ∧ List.Forall₂ scope.Writes p.tested cs := by
  cases p with
  | compare left op right =>
    rw [Predicate.render] at h
    obtain ⟨_, h⟩ := throwIf_eq_ok.1 h
    obtain ⟨l, hl, h⟩ := bind_eq_ok.1 h
    obtain ⟨r, hr, h⟩ := bind_eq_ok.1 h
    cases h
    obtain ⟨cs, hcs, hleft⟩ := left.derives hscope hl next
    obtain ⟨ds, hds, hright⟩ := right.derives hscope hr (next + (values l).length)
    have hspell : spell next (l ++ [.space, operator op, .space] ++ r) =
        spell next l ++ op.symbol :: spell (next + (values l).length) r := by
      rw [List.append_assoc, Piece.spell_append]
      cases op <;> rfl
    rw [hspell, Predicate.tested]
    exact ⟨cs ++ ds, .comparison hcs (by cases op <;> decide) hds, List.rel_append hleft hright⟩
  | member operand vs negated =>
    rw [Predicate.render] at h
    obtain ⟨_, h⟩ := throwIf_eq_ok.1 h
    rw [Predicate.tested]
    split at h
    · rename_i hempty
      obtain ⟨_, _, h⟩ := bind_eq_ok.1 h
      cases h
      rw [if_pos hempty]
      exact ⟨[], Predicate.constant_derives negated next, .nil⟩
    · rename_i hne
      obtain ⟨o, ho, h⟩ := bind_eq_ok.1 h
      cases h
      obtain ⟨cs, hcs, hwrites⟩ := operand.derives hscope ho next
      rw [if_neg hne, List.append_assoc, Piece.spell_append, Piece.spell_phrase,
        Piece.spell_parenthesized, Piece.spell_separated_comma, Piece.spellEach_binds]
      refine ⟨cs, .member negated hcs ?_, hwrites⟩
      simpa [List.range'_eq_nil_iff] using hne
  | isNull operand negated =>
    rw [Predicate.render] at h
    obtain ⟨o, ho, h⟩ := bind_eq_ok.1 h
    cases h
    obtain ⟨cs, hcs, hwrites⟩ := operand.derives hscope ho next
    have hspell : spell next (o ++ .space :: Piece.words
        (if negated then ["IS", "NOT", "NULL"] else ["IS", "NULL"])) =
        spell next o ++ if negated then ["IS", "NOT", "NULL"] else ["IS", "NULL"] := by
      rw [Piece.spell_append]
      cases negated <;> rfl
    rw [hspell, Predicate.tested]
    exact ⟨cs, .nullTest negated hcs, hwrites⟩
  | all items =>
    rw [Predicate.render] at h
    rw [Predicate.tested]
    split at h
    · rename_i hempty
      cases h
      rw [List.isEmpty_iff.1 hempty]
      exact ⟨[], Predicate.constant_derives true next, .nil⟩
    · rename_i hne
      obtain ⟨parts, hparts, h⟩ := bind_eq_ok.1 h
      cases h
      exact Predicate.derivesAll hscope (.inl rfl) items (by simpa using hne) hparts next
  | any items =>
    rw [Predicate.render] at h
    rw [Predicate.tested]
    split at h
    · rename_i hempty
      cases h
      rw [List.isEmpty_iff.1 hempty]
      exact ⟨[], Predicate.constant_derives false next, .nil⟩
    · rename_i hne
      obtain ⟨parts, hparts, h⟩ := bind_eq_ok.1 h
      cases h
      exact Predicate.derivesAll hscope (.inr rfl) items (by simpa using hne) hparts next
  | not inner =>
    rw [Predicate.render] at h
    obtain ⟨part, hpart, h⟩ := bind_eq_ok.1 h
    cases h
    obtain ⟨cs, hcs, hwrites⟩ := Predicate.derives hscope inner hpart next
    rw [spell, spell, Piece.spell_parenthesized, Predicate.tested]
    exact ⟨cs, .not hcs, hwrites⟩

theorem Predicate.derivesAll (hscope : scope.Plain) {word : String}
    (hword : word = "AND" ∨ word = "OR") (items : List Predicate) (hne : items ≠ [])
    {parts : List Pieces} (h : Predicate.renderItems scope items = .ok parts) (next : Nat) :
    ∃ cs, ConditionTokens (spell next (Piece.separated (Piece.phrase [word]) parts)) cs ∧
      List.Forall₂ scope.Writes (Predicate.testedByAll items) cs := by
  cases items with
  | nil => exact absurd rfl hne
  | cons item rest =>
    rw [Predicate.renderItems] at h
    obtain ⟨ps, hps, h⟩ := bind_eq_ok.1 h
    obtain ⟨parts, hparts, h⟩ := bind_eq_ok.1 h
    cases h
    change ∃ cs, ConditionTokens
      (spell next (Piece.separated _ (item.itemPieces ps :: parts))) cs ∧ _
    obtain ⟨cs, hcs, hwrites⟩ := Predicate.derives hscope item hps next
    have hitem := item.item_derives hcs
    cases rest with
    | nil =>
      rw [Predicate.renderItems] at hparts
      cases hparts
      exact ⟨cs, hitem, by simpa [Predicate.testedByAll] using hwrites⟩
    | cons item' rest =>
      -- the separator shows only where a second part does
      have hpart : ∃ part' parts', parts = part' :: parts' := by
        rw [Predicate.renderItems] at hparts
        obtain ⟨part', _, hparts⟩ := bind_eq_ok.1 hparts
        obtain ⟨parts', _, hparts⟩ := bind_eq_ok.1 hparts
        cases hparts
        exact ⟨_, parts', rfl⟩
      obtain ⟨ds, hds, hrest⟩ := Predicate.derivesAll hscope hword (item' :: rest)
        (List.cons_ne_nil _ _) hparts (next + (values (item.itemPieces ps)).length)
      obtain ⟨part', parts', rfl⟩ := hpart
      rw [Piece.spell_separated (Piece.spell_phrase [word])]
      exact ⟨cs ++ ds, .joined hword hitem hds, List.rel_append hwrites hrest⟩

end

end Rendered

end StatementGate
