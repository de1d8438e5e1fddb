import StatementGate.Proofs.Query.Bindings
import StatementGate.Proofs.Query.Reader

/-! # Meaning of conditions

The truth of a predicate, from the truth of the tests in it, and the proof that its text is read as
a condition of that truth. Items of a junction are read one operator below it: those that are
junctions themselves stand in parentheses. -/

namespace StatementGate

open Piece (spell values)

/-- The truth of a test, known by the tokens it is rendered to. -/
def Predicate.atomTruth (scope : Scope) (atoms : List String → Truth) (next : Nat)
    (test : Predicate) : Truth :=
  match test.render scope with
  | .ok ps => atoms (spell next ps)
  | .error _ => .unknown

mutual

/-- The truth of a predicate whose first value has the given number. -/
def Predicate.truth (scope : Scope) (atoms : List String → Truth) :
    (next : Nat) → Predicate → Truth
  | next, .all items => (truthEach scope atoms next items).foldr Truth.and .holds
  | next, .any items => (truthEach scope atoms next items).foldr Truth.or .fails
  | next, .not inner => (truth scope atoms next inner).not
  | next, .member operand values negated =>
    if values.isEmpty then if negated then .holds else .fails
    else atomTruth scope atoms next (.member operand values negated)
  | next, .compare left op right => atomTruth scope atoms next (.compare left op right)
  | next, .isNull operand negated => atomTruth scope atoms next (.isNull operand negated)

/-- The truth of predicates whose values are numbered one after the other. -/
def Predicate.truthEach (scope : Scope) (atoms : List String → Truth) :
    (next : Nat) → List Predicate → List Truth
  | _, [] => []
  | next, p :: rest =>
    truth scope atoms next p :: truthEach scope atoms (next + p.literals.length) rest

end

namespace Predicate

variable {scope : Scope} {atoms : List String → Truth}

theorem atomTruth_of_render {test : Predicate} {ps : Pieces} (h : test.render scope = .ok ps)
    (next : Nat) : atomTruth scope atoms next test = atoms (spell next ps) := by
  rw [atomTruth, h]

theorem literalsOfAll_append (items items' : List Predicate) :
    literalsOfAll (items ++ items') = literalsOfAll items ++ literalsOfAll items' := by
  induction items with
  | nil => rfl
  | cons p items ih => rw [List.cons_append, literalsOfAll, literalsOfAll, ih, List.append_assoc]

theorem truthEach_append (next : Nat) (items items' : List Predicate) :
    truthEach scope atoms next (items ++ items') =
      truthEach scope atoms next items ++
        truthEach scope atoms (next + (literalsOfAll items).length) items' := by
  induction items generalizing next with
  | nil => rfl
  | cons p items ih =>
    rw [List.cons_append, truthEach, truthEach, literalsOfAll, ih, List.length_append,
      Nat.add_assoc]
    rfl

theorem truthEach_singleton (next : Nat) (p : Predicate) :
    truthEach scope atoms next [p] = [truth scope atoms next p] := by
  rw [truthEach, truthEach]

theorem foldr_and_append (ts ts' : List Truth) :
    (ts ++ ts').foldr Truth.and .holds =
      (ts.foldr Truth.and .holds).and (ts'.foldr Truth.and .holds) := by
  calc (ts ++ ts').foldr Truth.and .holds
      = ts.foldr Truth.and (Truth.holds.and (ts'.foldr Truth.and .holds)) := by
        rw [List.foldr_append, Truth.holds_and]
    _ = (ts.foldr Truth.and .holds).and (ts'.foldr Truth.and .holds) := List.foldr_assoc

theorem foldr_or_append (ts ts' : List Truth) :
    (ts ++ ts').foldr Truth.or .fails =
      (ts.foldr Truth.or .fails).or (ts'.foldr Truth.or .fails) := by
  calc (ts ++ ts').foldr Truth.or .fails
      = ts.foldr Truth.or (Truth.fails.or (ts'.foldr Truth.or .fails)) := by
        rw [List.foldr_append, Truth.fails_or]
    _ = (ts.foldr Truth.or .fails).or (ts'.foldr Truth.or .fails) := List.foldr_assoc

/-- Adding to a conjunction is conjoining with it, whether the conjunction is extended or not. -/
theorem truth_and (next : Nat) (p r : Predicate) :
    truth scope atoms next (p.and r) =
      (truth scope atoms next p).and (truth scope atoms (next + p.literals.length) r) := by
  cases p with
  | all items =>
    rw [Predicate.and, truth, truth, truthEach_append, foldr_and_append, truthEach_singleton,
      List.foldr_cons, List.foldr_nil, Truth.and_holds, literals]
  | _ =>
    simp only [Predicate.and, truth, truthEach, List.foldr_cons, List.foldr_nil, Truth.and_holds]

theorem truth_or (next : Nat) (p r : Predicate) :
    truth scope atoms next (p.or r) =
      (truth scope atoms next p).or (truth scope atoms (next + p.literals.length) r) := by
  cases p with
  | any items =>
    rw [Predicate.or, truth, truth, truthEach_append, foldr_or_append, truthEach_singleton,
      List.foldr_cons, List.foldr_nil, Truth.or_fails, literals]
  | _ =>
    simp only [Predicate.or, truth, truthEach, List.foldr_cons, List.foldr_nil, Truth.or_fails]

theorem truth_negate (next : Nat) (p : Predicate) :
    truth scope atoms next p.negate = (truth scope atoms next p).not := by
  rw [negate, truth]

theorem literals_and (p r : Predicate) : (p.and r).literals = p.literals ++ r.literals := by
  cases p with
  | all items => simp only [Predicate.and, literals, literalsOfAll_append, literalsOfAll,
      List.append_nil]
  | _ => simp only [Predicate.and, literals, literalsOfAll, List.append_nil]

theorem truth_foldl_conjoin (first : Predicate) (rest : List Predicate) (next : Nat) :
    (rest.foldl conjoin (some first)).map (truth scope atoms next) =
      some ((truth scope atoms next first).and
        ((truthEach scope atoms (next + first.literals.length) rest).foldr Truth.and .holds)) := by
  induction rest generalizing first with
  | nil => rw [truthEach, List.foldr_nil, Truth.and_holds, List.foldl_nil, Option.map_some]
  | cons p rest ih =>
    rw [List.foldl_cons, conjoin, ih, truth_and, Truth.and_assoc, literals_and, List.length_append,
      truthEach, List.foldr_cons, Nat.add_assoc]

/-- Conditions given one after the other are conjoined. -/
theorem truth_conjoined (filters : List Predicate) (next : Nat) :
    (filters.foldl conjoin none).map (truth scope atoms next) =
      if filters.isEmpty then none
      else some ((truthEach scope atoms next filters).foldr Truth.and .holds) := by
  cases filters with
  | nil => rfl
  | cons first rest => exact truth_foldl_conjoin first rest next

end Predicate

namespace Piece

/-- A separator that is one token stands between the tokens of the parts. -/
theorem spell_separated {separator : Pieces} {mark : String}
    (hseparator : ∀ next ps, spell next (separator ++ ps) = mark :: spell next ps) (next : Nat)
    (part part' : Pieces) (parts : List Pieces) :
    spell next (separated separator (part :: part' :: parts)) =
      spell next part ++
        mark :: spell (next + (values part).length) (separated separator (part' :: parts)) := by
  rw [separated, List.append_assoc, spell_append, hseparator]
  simp

theorem spell_comma (next : Nat) (ps : Pieces) : spell next (comma ++ ps) = "," :: spell next ps :=
  rfl

theorem spell_words (texts : List String) (next : Nat) (ps : Pieces) :
    spell next (words texts ++ ps) = texts ++ spell next ps := by
  induction texts with
  | nil => rfl
  | cons s texts ih =>
    cases texts with
    | nil => rfl
    | cons s' texts => exact congrArg _ ih

theorem spell_phrase (texts : List String) (next : Nat) (ps : Pieces) :
    spell next (phrase texts ++ ps) = texts ++ spell next ps := by
  rw [phrase, List.cons_append, List.cons_append, List.append_assoc, spell, spell_words]
  rfl

theorem spell_parenthesized (next : Nat) (ps : Pieces) :
    spell next (parenthesized ps) = "(" :: (spell next ps ++ [")"]) := by
  rw [parenthesized, List.cons_append, spell, spell_append]
  rfl

end Piece

variable {scope : Scope}

theorem Sql.isTerm_of_isWord {s : String} (h : isWord s = true) : isTerm s = true := by
  simp only [isWord, Bool.and_eq_true, decide_eq_true_eq, List.all_eq_true] at h
  have hne : s.toList ≠ [] := by simpa using h.1
  cases hs : s.toList with
  | nil => exact absurd hs hne
  | cons c cs => simp [isTerm, hs, h.2 c (hs ▸ List.mem_cons_self)]

theorem Sql.isTerm_placeholder (i : Nat) : isTerm (Piece.placeholder i) = true := by
  have hlist : (Piece.placeholder i).toList = ':' :: (Piece.parameterName i).toList :=
    String.toList_append
  simp [isTerm, hlist]

theorem Sql.balanced_separated {parts : List Pieces}
    (h : ∀ part ∈ parts, ∀ next, Balanced (spell next part)) (next : Nat) :
    Balanced (spell next (Piece.separated Piece.comma parts)) := by
  induction parts generalizing next with
  | nil => exact .nil
  | cons part parts ih =>
    rw [List.forall_mem_cons] at h
    cases parts with
    | nil => exact h.1 next
    | cons part' parts =>
      rw [Piece.spell_separated Piece.spell_comma]
      have hcomma : Balanced [","] := .singleton (by decide) (by decide)
      exact (h.1 next).append (hcomma.append (ih h.2 _))

mutual

theorem Operand.isOperand (hscope : scope.Plain) (operand : Operand) {ps : Pieces}
    (h : operand.render scope = .ok ps) (next : Nat) : Sql.IsOperand (spell next ps) := by
  cases operand with
  | column ref =>
    rw [Operand.render] at h
    obtain ⟨text, htext, rfl⟩ := Scope.column_eq_name hscope h
    exact .single (Sql.isTerm_of_isWord (Sql.isWord_of_isName htext))
  | literal value =>
    rw [Operand.render] at h
    cases h
    exact .single (Sql.isTerm_placeholder next)
  | function name arguments =>
    rw [Operand.render] at h
    obtain ⟨f, _, h⟩ := bind_eq_ok.1 h
    obtain ⟨parts, hparts, h⟩ := bind_eq_ok.1 h
    cases h
    rw [spell, Piece.spell_parenthesized]
    apply Sql.IsOperand.call _ _
      (Sql.balanced_separated (Operand.balancedAll hscope arguments hparts) next)
    · cases f <;> decide
    · cases f <;> decide
  | window name partition =>
    rw [Operand.render] at h
    cases h

theorem Operand.balancedAll (hscope : scope.Plain) (operands : List Operand)
    {parts : List Pieces} (h : Operand.renderAll scope operands = .ok parts) :
    ∀ part ∈ parts, ∀ next, Sql.Balanced (spell next part) := by
  cases operands with
  | nil =>
    rw [Operand.renderAll] at h
    cases h
    exact List.forall_mem_nil _
  | cons operand rest =>
    rw [Operand.renderAll] at h
    obtain ⟨part, hpart, h⟩ := bind_eq_ok.1 h
    obtain ⟨parts, hparts, h⟩ := bind_eq_ok.1 h
    cases h
    apply List.forall_mem_cons.2 ⟨_, Operand.balancedAll hscope rest hparts⟩
    intro next
    exact (Operand.isOperand hscope operand hpart next).balanced

end

/-- An operand starts with no number. -/
theorem Operand.head_spell_ne (hscope : scope.Plain) {operand : Operand} {ps : Pieces}
    (h : operand.render scope = .ok ps) (next : Nat) : (spell next ps).head? ≠ some "1" := by
  cases operand with
  | column ref =>
    rw [Operand.render] at h
    obtain ⟨text, htext, rfl⟩ := Scope.column_eq_name hscope h
    rintro ⟨⟩
    cases htext
  | literal value =>
    rw [Operand.render] at h
    cases h
    intro hone
    have hlist := congrArg (Option.map String.toList) hone
    simp [spell, String.toList_append] at hlist
  | function name arguments =>
    rw [Operand.render] at h
    obtain ⟨f, _, h⟩ := bind_eq_ok.1 h
    obtain ⟨parts, _, h⟩ := bind_eq_ok.1 h
    cases h
    cases f
    all_goals simp [spell, SqlFunction.keyword]
  | window name partition =>
    rw [Operand.render] at h
    cases h

/-- An operand and a test of it are read as the atom they are. -/
theorem Operand.reads_test {inner : Sql.Reader} (hscope : scope.Plain) {operand : Operand}
    {ps : Pieces} (h : operand.render scope = .ok ps) (next : Nat) {t : String}
    {test : List String} (ht : t ≠ "(")
    (htest : ∀ rest, Sql.Ends ["("] rest → Sql.afterTest (t :: (test ++ rest)) = some rest) :
    Sql.Reader.Reads (Sql.readFactor inner) ["("] (spell next ps ++ t :: test) fun atoms =>
      atoms (spell next ps ++ t :: test) :=
  Sql.reads_test (operand.isOperand hscope h next) (head_spell_ne hscope h next) ht htest

namespace Predicate

open Sql (Reader readFactor readChain readCondition)

theorem reads_constant {inner : Reader} (truth : Bool) (next : Nat) :
    Reader.Reads (readFactor inner) ["("] (spell next (constant truth)) fun _ =>
      if truth then .holds else .fails := by
  have hone : Sql.IsOperand ["1"] := .single (by decide)
  have hzero : Sql.IsOperand ["0"] := .single (by decide)
  cases truth with
  | true => exact Sql.reads_comparison hone hone (by decide)
  | false => exact Sql.reads_comparison hone hzero (by decide)

theorem spell_operator (op : CompareOp) (next : Nat) (ps : Pieces) :
    spell next (.space :: operator op :: .space :: ps) = op.symbol :: spell next ps := by
  cases op <;> rfl

theorem symbol_mem_comparisons (op : CompareOp) : op.symbol ∈ Sql.comparisons := by
  cases op <;> decide

theorem reads_compare {inner : Reader} (hscope : scope.Plain) {left right : Operand}
    {op : CompareOp} {ps : Pieces} (h : (compare left op right).render scope = .ok ps)
    (next : Nat) :
    Reader.Reads (readFactor inner) ["("] (spell next ps) fun atoms => atoms (spell next ps) := by
  rw [render] at h
  obtain ⟨_, h⟩ := throwIf_eq_ok.1 h
  obtain ⟨l, hl, h⟩ := bind_eq_ok.1 h
  obtain ⟨r, hr, h⟩ := bind_eq_ok.1 h
  cases h
  rw [List.append_assoc, Piece.spell_append]
  simp only [List.cons_append, List.nil_append]
  rw [spell_operator]
  apply Operand.reads_test hscope hl next
  · cases op <;> decide
  · intro rest hends
    rw [Sql.afterTest_comparison (symbol_mem_comparisons op),
      (right.isOperand hscope hr _).afterOperand_eq hends]

theorem reads_isNull {inner : Reader} (hscope : scope.Plain) {operand : Operand} {negated : Bool}
    {ps : Pieces} (h : (isNull operand negated).render scope = .ok ps) (next : Nat) :
    Reader.Reads (readFactor inner) ["("] (spell next ps) fun atoms => atoms (spell next ps) := by
  rw [render] at h
  obtain ⟨o, ho, h⟩ := bind_eq_ok.1 h
  cases h
  rw [Piece.spell_append]
  cases negated
  all_goals exact Operand.reads_test hscope ho next (by decide) fun _ _ => rfl

/-- A test for membership in a list that is not empty. -/
theorem reads_member {inner : Reader} (hscope : scope.Plain) {operand : Operand}
    {vs : List Scalar} {negated : Bool} {ps : Pieces} (hne : vs.isEmpty = false)
    (h : (member operand vs negated).render scope = .ok ps) (next : Nat) :
    Reader.Reads (readFactor inner) ["("] (spell next ps) fun atoms => atoms (spell next ps) := by
  rw [render, hne] at h
  obtain ⟨_, h⟩ := throwIf_eq_ok.1 h
  obtain ⟨o, ho, h⟩ := bind_eq_ok.1 h
  cases h
  have hlist : Sql.Balanced (spell (next + (values o).length)
      (Piece.separated Piece.comma (vs.map fun v => [.bind v]))) := by
    apply Sql.balanced_separated
    intro part hpart n
    obtain ⟨v, _, rfl⟩ := List.mem_map.1 hpart
    exact Sql.IsOperand.balanced_of_isTerm (Sql.isTerm_placeholder n)
  rw [List.append_assoc, Piece.spell_append]
  have hgroup : ∀ rest, Sql.afterGroup 0 (spell (next + (values o).length)
      (Piece.separated Piece.comma (vs.map fun v => [.bind v])) ++ [")"] ++ rest) = some rest := by
    intro rest
    rw [List.append_assoc]
    exact hlist.afterGroup_eq rest
  rw [Piece.spell_phrase, Piece.spell_parenthesized]
  cases negated
  all_goals exact Operand.reads_test hscope ho next (by decide) fun rest _ => hgroup rest

/-- The pieces of an item of a junction: in parentheses where they are those of a junction. -/
def itemPieces (item : Predicate) (ps : Pieces) : Pieces :=
  if item.isJunction then Piece.parenthesized ps else ps

/-- The reader takes the pieces of every predicate for a condition of its truth, where these have
fewer tokens than `size`. -/
def ReadWithin (scope : Scope) (size : Nat) (reader : Reader) : Prop :=
  ∀ (p : Predicate) (ps : Pieces) (next : Nat), p.render scope = .ok ps →
    (spell next ps).length < size →
      Reader.Reads reader ["OR", "AND", "("] (spell next ps) fun atoms => p.truth scope atoms next

/-- The reader takes the pieces of every predicate as an item of a junction for a condition of its
truth, where these have at most `size` tokens. -/
def ReadsItems (scope : Scope) (size : Nat) (reader : Reader) (stops : List String) : Prop :=
  ∀ (item : Predicate) (ps : Pieces) (next : Nat), item.render scope = .ok ps →
    (spell next (item.itemPieces ps)).length ≤ size →
      Reader.Reads reader stops (spell next (item.itemPieces ps)) fun atoms =>
        item.truth scope atoms next

theorem ReadsItems.chain {size : Nat} {reader : Reader} {stops : List String}
    (h : ReadsItems scope size reader stops) (keyword : String)
    (combine : Sql.Formula → Sql.Formula → Sql.Formula) :
    ReadsItems scope size (readChain keyword combine reader) (keyword :: stops) :=
  fun item ps next hps hlength => (h item ps next hps hlength).chain

/-- One level of parentheses above what is read, items are read as factors. -/
theorem readsItems_readFactor {depth : Nat} {inner : Reader} (hscope : scope.Plain)
    (hinner : ReadWithin scope depth inner) :
    ReadsItems scope depth (readFactor inner) ["("] := by
  intro item ps next h hlength
  by_cases hjunction : item.isJunction = true
  · rw [itemPieces, if_pos hjunction, Piece.spell_parenthesized] at hlength ⊢
    simp only [List.length_cons, List.length_append] at hlength
    exact (Sql.reads_group (hinner item ps next h (by omega)) (by decide)).mono
      (List.forall_mem_nil _)
  · rw [itemPieces, if_neg hjunction] at hlength ⊢
    cases item with
    | all items => exact absurd rfl hjunction
    | any items => exact absurd rfl hjunction
    | compare left op right =>
      simp only [truth, atomTruth_of_render h]
      exact reads_compare hscope h next
    | isNull operand negated =>
      simp only [truth, atomTruth_of_render h]
      exact reads_isNull hscope h next
    | member operand vs negated =>
      cases hvs : vs.isEmpty with
      | true =>
        simp only [truth, hvs, if_true]
        rw [render, hvs] at h
        obtain ⟨_, h⟩ := throwIf_eq_ok.1 h
        obtain ⟨_, _, h⟩ := bind_eq_ok.1 h
        cases h
        exact reads_constant negated next
      | false =>
        simp only [truth, hvs, Bool.false_eq_true, if_false, atomTruth_of_render h]
        exact reads_member hscope hvs h next
    | not p =>
      rw [render] at h
      obtain ⟨part, hpart, h⟩ := bind_eq_ok.1 h
      cases h
      rw [spell, spell, Piece.spell_parenthesized] at hlength ⊢
      simp only [List.length_cons, List.length_append] at hlength
      simp only [truth]
      exact (Sql.reads_not (Sql.reads_group (hinner p part next hpart (by omega))
        (by decide))).mono (List.forall_mem_nil _)

/-- The items of a junction are read one after the other, the truth of the first joined with that
of the others. -/
theorem reads_items {keyword : String} {combine : Sql.Formula → Sql.Formula → Sql.Formula}
    {op : Truth → Truth → Truth} {unit : Truth} {reader : Reader} {stops : List String} {size : Nat}
    (hscope : scope.Plain) (hkeyword : keyword ∉ stops)
    (hcombine : ∀ atoms f g, (combine f g).eval atoms = op (f.eval atoms) (g.eval atoms))
    (hunit : ∀ t, op t unit = t)
    (hitem : ReadsItems scope size reader stops)
    {items : List Predicate} {parts : List Pieces} (hne : items ≠ [])
    (h : renderItems scope items = .ok parts) (next : Nat)
    (hlength : (spell next (Piece.separated (Piece.phrase [keyword]) parts)).length ≤ size) :
    Reader.Reads (readChain keyword combine reader) (keyword :: stops)
      (spell next (Piece.separated (Piece.phrase [keyword]) parts)) fun atoms =>
        (truthEach scope atoms next items).foldr op unit := by
  induction items generalizing parts next with
  | nil => exact absurd rfl hne
  | cons item rest ih =>
    rw [renderItems] at h
    obtain ⟨ps, hps, h⟩ := bind_eq_ok.1 h
    obtain ⟨parts, hparts, h⟩ := bind_eq_ok.1 h
    cases h
    change (spell next (Piece.separated _ (item.itemPieces ps :: parts))).length ≤ size at hlength
    change Reader.Reads _ _ (spell next (Piece.separated _ (item.itemPieces ps :: parts))) _
    have hvalues : values (item.itemPieces ps) = item.literals := by
      rw [itemPieces]
      split
      · exact (item.renders hscope hps).parenthesized.values_eq
      · exact (item.renders hscope hps).values_eq
    cases rest with
    | nil =>
      rw [renderItems] at hparts
      cases hparts
      simp only [truthEach, List.foldr_cons, List.foldr_nil, hunit]
      exact (hitem item ps next hps hlength).chain
    | cons item' rest =>
      cases parts with
      | nil =>
        rw [renderItems] at hparts
        obtain ⟨_, _, hparts⟩ := bind_eq_ok.1 hparts
        obtain ⟨_, _, hparts⟩ := bind_eq_ok.1 hparts
        cases hparts
      | cons part' parts =>
        rw [Piece.spell_separated (Piece.spell_phrase [keyword]), hvalues] at hlength ⊢
        rw [List.length_append, List.length_cons] at hlength
        have hrest := ih (List.cons_ne_nil _ _) hparts (next + item.literals.length) (by omega)
        exact (hitem item ps next hps (by omega)).chain_cons hkeyword hcombine hrest

/-- What may follow a condition: none of the tokens that would go on with it. -/
theorem readWithin_readCondition (hscope : scope.Plain) (depth : Nat) :
    ReadWithin scope depth (readCondition depth) := by
  induction depth with
  | zero =>
    intro p ps next _ hlength
    exact absurd hlength (Nat.not_lt_zero _)
  | succ depth ih =>
    intro p ps next h hlength
    have hfactor := readsItems_readFactor hscope ih
    have hconjunction := hfactor.chain "AND" .and
    have hsize := Nat.le_of_lt_succ hlength
    cases p with
    | all items =>
      rw [render] at h
      split at h
      · rename_i hempty
        cases h
        rw [List.isEmpty_iff.1 hempty]
        exact (reads_constant true next).chain.chain
      · rename_i hne
        obtain ⟨parts, hparts, h⟩ := bind_eq_ok.1 h
        cases h
        simp only [truth]
        exact (reads_items hscope (by decide) (fun _ _ _ => rfl) Truth.and_holds hfactor
          (by simpa using hne) hparts next hsize).chain
    | any items =>
      rw [render] at h
      split at h
      · rename_i hempty
        cases h
        rw [List.isEmpty_iff.1 hempty]
        exact (reads_constant false next).chain.chain
      · rename_i hne
        obtain ⟨parts, hparts, h⟩ := bind_eq_ok.1 h
        cases h
        simp only [truth]
        exact reads_items hscope (by decide) (fun _ _ _ => rfl) Truth.or_fails hconjunction
          (by simpa using hne) hparts next hsize
    | _ => exact (hconjunction _ ps next h hsize).chain

/-- A condition is read where nothing goes on with it. -/
theorem condition?_eq_some (hscope : scope.Plain) {p : Predicate} {ps : Pieces}
    (h : p.render scope = .ok ps) (next : Nat) {rest : List String}
    (hends : Sql.Ends ["OR", "AND", "("] rest) :
    ∃ f, Sql.condition? (spell next ps ++ rest) = some (f, rest) ∧
      ∀ atoms, f.eval atoms = p.truth scope atoms next := by
  have hlength : (spell next ps).length < (spell next ps ++ rest).length + 1 := by
    rw [List.length_append]
    omega
  exact readWithin_readCondition hscope _ p ps next h hlength rest hends

end Predicate

end StatementGate
