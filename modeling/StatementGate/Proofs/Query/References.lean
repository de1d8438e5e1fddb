import StatementGate.Proofs.Query.Selections

/-! # Column references

A scanner for the columns in the clauses of a statement, each with the place where it stands. It
knows no grammar: a name is a column where an operand is awaited and no bracket follows. On what the
grammar derives it finds the columns of the derivation, so these do not depend on how the tokens are
derived. Every column found in a selection that was rendered belongs to a table in scope. -/

namespace StatementGate

namespace Sql

/-- Where a column stands. -/
inductive Place where
  | output
  | on (join : Nat)
  | condition
  | order
  deriving DecidableEq

/-- The condition of the join behind a place. -/
def Place.nextJoin : Place → Place
  | .on join => .on (join + 1)
  | _ => .on 0

/-- What may come next. -/
inductive Awaited where
  | table | operand | operator

/-- The tokens that an operand is awaited behind. -/
def beforeOperand : List String := ["(", ",", "AND", "OR"] ++ comparisons

/-- The tokens that an operand or a table is awaited behind. -/
def leading : List String := ["JOIN", "ON", "WHERE", "BY"] ++ beforeOperand

/-- The columns in the clauses of a statement, each with its place. -/
def references : Place → Awaited → List String → List (Place × ColumnRef)
  | _, _, [] => []
  | place, .table, _ :: rest => references place .operator rest
  | place, .operand, token :: rest =>
    if token = "(" ∨ rest.head? = some "(" then references place .operand rest
    else if isName token then (place, ColumnRef.parse token) :: references place .operator rest
    else references place .operator rest
  | place, .operator, token :: rest =>
    if token = "JOIN" then references place .table rest
    else if token = "ON" then references place.nextJoin .operand rest
    else if token = "WHERE" then references .condition .operand rest
    else if token = "BY" then references .order .operand rest
    else if token ∈ beforeOperand then references place .operand rest
    else references place .operator rest

/-- The scanner finds the columns in the tokens, whatever stands behind them but a bracket. -/
def Refers (tokens : List String) (columns : List ColumnRef) : Prop :=
  ∀ place rest, Ends ["("] rest → references place .operand (tokens ++ rest) =
    columns.map (fun column => (place, column)) ++ references place .operator rest

section Scanner

variable {place : Place} {token : String} {rest : List String}

theorem references_open : references place .operand ("(" :: rest) = references place .operand rest := by
  rw [references, if_pos (.inl rfl)]

theorem references_call : references place .operand (token :: "(" :: rest) =
    references place .operand rest := by
  rw [references, if_pos (.inr rfl), references_open]

theorem references_term (hopen : token ≠ "(") (hends : Ends ["("] rest) :
    references place .operand (token :: rest) =
      if isName token then (place, ColumnRef.parse token) :: references place .operator rest
      else references place .operator rest := by
  have hnext : rest.head? ≠ some "(" := by
    intro hhead
    exact hends "(" hhead List.mem_cons_self
  rw [references, if_neg (by simp [hopen, hnext])]

theorem references_beforeOperand (h : token ∈ beforeOperand) :
    references place .operator (token :: rest) = references place .operand rest := by
  have hclauses : ∀ t ∈ beforeOperand, t ≠ "JOIN" ∧ t ≠ "ON" ∧ t ≠ "WHERE" ∧ t ≠ "BY" := by decide
  obtain ⟨hjoin, hon, hwhere, hby⟩ := hclauses token h
  rw [references, if_neg hjoin, if_neg hon, if_neg hwhere, if_neg hby, if_pos h]

/-- Tokens that no operand and no table is awaited behind. -/
theorem references_skip {tokens : List String}
    (h : ∀ t ∈ tokens, t ∉ leading) :
    references place .operator (tokens ++ rest) = references place .operator rest := by
  induction tokens with
  | nil => rfl
  | cons t tokens ih =>
    rw [List.forall_mem_cons] at h
    have ht := h.1
    simp only [leading, List.cons_append, List.nil_append, List.mem_cons, not_or] at ht
    rw [List.cons_append, references, if_neg ht.1, if_neg ht.2.1, if_neg ht.2.2.1,
      if_neg ht.2.2.2.1, if_neg (by simpa using ht.2.2.2.2), ih h.2]

theorem ends_of_skip {tokens : List String} (h : ∀ t ∈ tokens, t ∉ leading)
    (hends : Ends ["("] rest) : Ends ["("] (tokens ++ rest) := by
  cases tokens with
  | nil => exact hends
  | cons t tokens =>
    refine ends_cons fun hopen => ?_
    rw [List.mem_singleton.1 hopen] at h
    exact absurd (h "(" List.mem_cons_self) (by decide)

end Scanner

namespace Refers

variable {ts us : List String} {cs ds : List ColumnRef}

theorem column {ref : ColumnRef} (h : ref.Plain) : Refers [ref.text] [ref] := by
  intro place rest hends
  have hname := ColumnRef.isName_text h
  have hopen : ref.text ≠ "(" := by
    intro heq
    rw [heq] at hname
    exact absurd hname (by decide)
  rw [List.singleton_append, references_term hopen hends, if_pos hname, ColumnRef.parse_text h]
  rfl

/-- A token that is no name. -/
theorem other {token : String} (hname : isName token = false) (hopen : token ≠ "(") :
    Refers [token] [] := by
  intro place rest hends
  rw [List.singleton_append, references_term hopen hends, hname, if_neg (by decide)]
  rfl

theorem placeholder (i : Nat) : Refers [Piece.placeholder i] [] := by
  have hlist := toList_placeholder i
  have hstart : Ascii.isNameStart ':' = false := by decide
  refine other ?_ ?_
  · simp [isName, hlist, hstart]
  · intro heq
    rw [heq] at hlist
    cases hlist

/-- Operands with a token between them that one is awaited behind. -/
theorem joined {word : String} (h : Refers ts cs) (hword : word ∈ beforeOperand)
    (hopen : word ≠ "(") (h' : Refers us ds) : Refers (ts ++ word :: us) (cs ++ ds) := by
  intro place rest hends
  rw [List.append_assoc, List.cons_append, h place _ (ends_cons (by simpa using hopen)),
    references_beforeOperand hword, h' place rest hends, List.map_append, List.append_assoc]

theorem separated {parts : List (List String × List ColumnRef)} (hne : parts ≠ [])
    (h : ∀ part ∈ parts, Refers part.1 part.2) :
    Refers ([","].intercalate (parts.map Prod.fst)) (parts.flatMap Prod.snd) := by
  induction parts with
  | nil => exact absurd rfl hne
  | cons part parts ih =>
    rw [List.forall_mem_cons] at h
    cases parts with
    | nil => simpa using h.1
    | cons part' parts =>
      have hrest := ih (List.cons_ne_nil _ _) h.2
      rw [List.map_cons, List.map_cons, List.intercalate_cons_cons, List.flatMap_cons,
        List.append_assoc, List.singleton_append]
      exact h.1.joined (by decide) (by decide) hrest

/-- Tokens behind an operand that nothing is awaited behind. -/
theorem followed {tokens : List String} (h : Refers ts cs)
    (hskip : ∀ t ∈ tokens, t ∉ leading) :
    Refers (ts ++ tokens) cs := by
  intro place rest hends
  rw [List.append_assoc, h place _ (ends_of_skip hskip hends), references_skip hskip]

theorem group (h : Refers ts cs) : Refers ("(" :: (ts ++ [")"])) cs := by
  intro place rest hends
  rw [List.cons_append, references_open]
  exact h.followed (by decide) place rest hends

theorem call {word : String} (h : Refers ts cs) : Refers (word :: "(" :: (ts ++ [")"])) cs := by
  intro place rest hends
  rw [List.cons_append, List.cons_append, references_call]
  exact h.followed (by decide) place rest hends

theorem placeholders {places : List Nat} (hne : places ≠ []) :
    Refers ([","].intercalate (places.map fun i => [Piece.placeholder i])) [] := by
  induction places with
  | nil => exact absurd rfl hne
  | cons i places ih =>
    cases places with
    | nil => exact .placeholder i
    | cons j places =>
      rw [List.map_cons, List.map_cons, List.intercalate_cons_cons, List.append_assoc,
        List.singleton_append]
      exact (Refers.placeholder i).joined (by decide) (by decide) (ih (List.cons_ne_nil _ _))

/-- A group behind an operand and the tokens that follow it. -/
theorem member {tokens : List String} (h : Refers ts cs) (hne : tokens ≠ [])
    (hskip : ∀ t ∈ tokens, t ∉ leading)
    (h' : Refers us ds) : Refers (ts ++ (tokens ++ "(" :: (us ++ [")"]))) (cs ++ ds) := by
  intro place rest hends
  have hnext : Ends ["("] (tokens ++ "(" :: (us ++ [")"] ++ rest)) := by
    cases tokens with
    | nil => exact absurd rfl hne
    | cons t tokens =>
      refine ends_cons fun hopen => ?_
      rw [List.mem_singleton.1 hopen] at hskip
      exact absurd (hskip "(" List.mem_cons_self) (by decide)
  rw [List.append_assoc, List.append_assoc, List.cons_append, h place _ hnext, references_skip hskip,
    references_beforeOperand (by decide), h'.followed (by decide) place rest hends, List.map_append,
    List.append_assoc]

end Refers

theorem OperandTokens.refers {ts : List String} {cs : List ColumnRef} (h : OperandTokens ts cs) :
    Refers ts cs := by
  induction h with
  | column h => exact .column h
  | placeholder i => exact .placeholder i
  | call f hne h ih => exact (Refers.separated hne ih).call

/-- The columns that are found in a condition are those it tests. -/
theorem ConditionTokens.refers {ts : List String} {cs : List ColumnRef} (h : ConditionTokens ts cs) :
    Refers ts cs := by
  induction h with
  | comparison hl hop hr =>
    refine hl.refers.joined (List.mem_append_right _ hop) ?_ hr.refers
    rintro rfl
    exact absurd hop (by decide)
  | nullTest negated h => exact h.refers.followed (by cases negated <;> decide)
  | @member ts cs negated h places hne =>
    rw [← List.append_nil cs]
    apply h.refers.member _ _ (Refers.placeholders hne)
    all_goals cases negated <;> decide
  | constant truth =>
    change Refers (["1"] ++ "=" :: [if truth then "1" else "0"]) ([] ++ [])
    refine Refers.joined (.other (by decide) (by decide)) (by decide) (by decide) ?_
    cases truth <;> exact .other (by decide) (by decide)
  | group h ih => exact ih.group
  | not h ih => exact ih.call
  | joined hword h h' ih ih' =>
    rcases hword with rfl | rfl
    all_goals exact ih.joined (by decide) (by decide) ih'

section Clauses

variable {ts rest : List String} {cs : List ColumnRef}

theorem JoinTokens.ends {ons : List (List ColumnRef)} (h : JoinTokens ts ons)
    (hends : Ends ["("] rest) : Ends ["("] (ts ++ rest) := by
  cases h with
  | nil => exact hends
  | cons kind => cases kind <;> exact ends_cons (by decide)

theorem WhereTokens.ends (h : WhereTokens ts cs) (hends : Ends ["("] rest) :
    Ends ["("] (ts ++ rest) := by
  cases h with
  | absent => exact hends
  | condition => exact ends_cons (by decide)

theorem OrderTokens.ends (h : OrderTokens ts cs) (hends : Ends ["("] rest) :
    Ends ["("] (ts ++ rest) := by
  cases h with
  | absent => exact hends
  | keys => exact ends_cons (by decide)

/-- The columns in the conditions of joins from the given one on. -/
def onReferences : (join : Nat) → List (List ColumnRef) → List (Place × ColumnRef)
  | _, [] => []
  | join, on :: ons => on.map (fun column => (.on join, column)) ++ onReferences (join + 1) ons

theorem JoinTokens.references_eq {ons : List (List ColumnRef)} (h : JoinTokens ts ons)
    (place : Place) {join : Nat} (hplace : place.nextJoin = .on join) (hends : Ends ["("] rest) :
    ∃ place', references place .operator (ts ++ rest) =
      onReferences join ons ++ references place' .operator rest := by
  induction h generalizing place join with
  | nil => exact ⟨place, rfl⟩
  | @cons kind table on ts cs css htable hon h ih =>
    -- behind this condition the scanner stands at it, so the next join is the next number
    obtain ⟨place', hrest⟩ := ih (.on join) rfl
    refine ⟨place', ?_⟩
    have hkind : references place .operator (kind.keywords ++ table :: "ON" :: (on ++ (ts ++ rest))) =
        references (.on join) .operand (on ++ (ts ++ rest)) := by
      rw [← hplace]
      cases kind <;> rfl
    rw [List.append_assoc, List.cons_append, List.cons_append, List.append_assoc, hkind,
      hon.refers _ _ (h.ends hends), hrest, onReferences, List.append_assoc]

theorem WhereTokens.references_eq (h : WhereTokens ts cs) (place : Place)
    (hends : Ends ["("] rest) : ∃ place', references place .operator (ts ++ rest) =
      cs.map (fun column => (.condition, column)) ++ references place' .operator rest := by
  cases h with
  | absent => exact ⟨place, rfl⟩
  | condition h => exact ⟨.condition, h.refers .condition rest hends⟩

theorem OrderTokens.references_eq (h : OrderTokens ts cs) (place : Place)
    (hends : Ends ["("] rest) : ∃ place', references place .operator (ts ++ rest) =
      cs.map (fun column => (.order, column)) ++ references place' .operator rest := by
  cases h with
  | absent => exact ⟨place, rfl⟩
  | @keys keys hne h =>
    have hparts : ∀ part ∈ keys.map fun key => ([key.1.text, key.2.keyword], [key.1]),
        Refers part.1 part.2 := by
      refine List.forall_mem_map.2 fun key hkey => ?_
      apply (Refers.column (h key hkey)).followed
      cases key.2 <;> decide
    have hkeys := Refers.separated (by simpa using hne) hparts .order rest hends
    rw [List.map_map, List.flatMap_map, ← List.map_eq_flatMap] at hkeys
    exact ⟨.order, hkeys⟩

/-- The columns of the clauses of a selection, each with its place. -/
def clauseReferences (ons : List (List ColumnRef)) (tested keys : List ColumnRef) :
    List (Place × ColumnRef) :=
  onReferences 0 ons ++ (tested.map (fun column => (.condition, column)) ++
    keys.map fun column => (.order, column))

theorem mem_onReferences {join : Nat} {ons : List (List ColumnRef)} {place : Place}
    {column : ColumnRef} (h : (place, column) ∈ onReferences join ons) : ∃ on ∈ ons, column ∈ on := by
  induction ons generalizing join with
  | nil => cases h
  | cons on ons ih =>
    rcases List.mem_append.1 h with h | h
    · obtain ⟨_, hcolumn, heq⟩ := List.mem_map.1 h
      cases heq
      exact ⟨on, List.mem_cons_self, hcolumn⟩
    · obtain ⟨on', hon, hcolumn⟩ := ih h
      exact ⟨on', List.mem_cons_of_mem on hon, hcolumn⟩

/-- The columns found in clauses are those that they are derived with. -/
theorem ClauseTokens.references_eq {clauses page : List String} {ons : List (List ColumnRef)}
    {tested keys : List ColumnRef} (h : ClauseTokens clauses ons tested keys)
    (hpage : ∀ t ∈ page, t ∉ leading) :
    references .output .operator (clauses ++ page) = clauseReferences ons tested keys := by
  obtain ⟨hjoins, hcondition, horder⟩ := h
  have hends : Ends ["("] (page ++ []) := ends_of_skip hpage fun _ ht => by cases ht
  rw [List.append_nil] at hends
  have horderEnds := horder.ends hends
  obtain ⟨onPlace, hjoins⟩ := hjoins.references_eq .output rfl (hcondition.ends horderEnds)
  obtain ⟨wherePlace, hcondition⟩ := hcondition.references_eq onPlace horderEnds
  obtain ⟨orderPlace, horder⟩ := horder.references_eq wherePlace hends
  have hnone : references orderPlace .operator (page ++ []) = [] := references_skip hpage
  rw [List.append_nil] at hnone
  rw [List.append_assoc, List.append_assoc, hjoins, hcondition, horder, hnone, List.append_nil,
    clauseReferences]

end Clauses

end Sql

/-- Whether a reference may be to the table, by the name it is qualified with. -/
def Entity.isNamedBy (e : Entity) (ref : ColumnRef) : Bool := ref.table.all (· == e.table)

/-- Whether the table has the column of a reference that may be to it. -/
def Entity.offers (e : Entity) (ref : ColumnRef) : Bool :=
  e.isNamedBy ref && e.columns.contains ref.name

theorem Scope.offers_written {scope : Scope} {e : Entity} {ref : ColumnRef} {table : String}
    (htable : e.table = table) (hcolumn : ref.name ∈ e.columns) :
    e.offers (scope.written ref table) = true := by
  rw [Entity.offers, Entity.isNamedBy, written]
  split <;> simp [htable, hcolumn]

/-- What a scope writes is a column of one of its tables. -/
theorem Scope.Writes.offered {scope : Scope} {ref column : ColumnRef} (h : scope.Writes ref column) :
    ∃ e ∈ scope.tables, e.offers column = true := by
  obtain ⟨table, htable, rfl⟩ := h
  obtain ⟨e, he, hname, hcolumn⟩ := resolve_declared htable
  exact ⟨e, he, offers_written hname hcolumn⟩

/-- The reference is to one of the tables and to no other. -/
def Identifies (tables : List Entity) (ref : ColumnRef) : Prop :=
  tables.countP (·.offers ref) = 1

instance (tables : List Entity) (ref : ColumnRef) : Decidable (Identifies tables ref) :=
  inferInstanceAs (Decidable (_ = 1))

namespace Select

/-- The tables that columns at a place may be of: an `ON` sees what is joined up to it. -/
def visible (s : Select) : Sql.Place → List Entity
  | .on join => s.entity :: (s.joins.take (join + 1)).map (·.entity)
  | _ => s.entity :: s.joins.map (·.entity)

/-- A column in the text of a selection: qualified where tables are joined, and of a table in scope.
It is of one of the visible tables only, unless several of these have the name it is qualified with
or an `ON` names a table that is joined behind it. -/
structure Reads (s : Select) (place : Sql.Place) (ref : ColumnRef) : Prop where
  qualified : s.joins ≠ [] → ref.table ≠ none
  offered : ∃ e ∈ s.scope.tables, e.offers ref = true
  identified : (∀ join, place = .on join → ∃ e ∈ s.visible place, e.offers ref = true) →
    (s.visible place).countP (·.isNamedBy ref) ≤ 1 → Identifies (s.visible place) ref

variable {s : Select} {place : Sql.Place} {ref : ColumnRef}

/-- Of tables with different names a reference is to one at most. -/
theorem identifies_of_countP {tables : List Entity} {e : Entity} (he : e ∈ tables)
    (hoffers : e.offers ref = true) (hnamed : tables.countP (·.isNamedBy ref) ≤ 1) :
    Identifies tables ref := by
  have hsome : 0 < tables.countP (·.offers ref) := List.countP_pos_iff.2 ⟨e, he, hoffers⟩
  have hle : tables.countP (·.offers ref) ≤ tables.countP (·.isNamedBy ref) :=
    List.countP_mono_left fun e' _ hoffers' => (Bool.and_eq_true_iff.1 hoffers').1
  exact Nat.le_antisymm (hle.trans hnamed) hsome

/-- What the scope of a selection writes is of its tables. -/
theorem reads_of_writes {column : ColumnRef} (h : s.scope.Writes ref column) :
    s.Reads place column := by
  refine ⟨fun hjoins => ?_, h.offered, fun hon hnamed => ?_⟩
  · exact h.qualified (by simpa [Scope.isJoined, scope] using hjoins)
  · have hvisible : ∃ e ∈ s.visible place, e.offers column = true := by
      cases place with
      | on join => exact hon join rfl
      | _ => exact h.offered
    obtain ⟨e, he, hoffers⟩ := hvisible
    exact identifies_of_countP he hoffers hnamed

/-- Every column of the clauses of a selection is one that its scope writes. -/
theorem Derives.exists_writes {output : List ColumnRef} {clauses page : List String}
    {ons : List (List ColumnRef)} {tested keys : List ColumnRef}
    (h : s.Derives output clauses page ons tested keys)
    (hmem : (place, ref) ∈ output.map (fun column => (.output, column)) ++
      Sql.clauseReferences ons tested keys) : ∃ given, s.scope.Writes given ref := by
  have hwrites : ∀ {givens columns : List ColumnRef}, List.Forall₂ s.scope.Writes givens columns →
      ref ∈ columns → ∃ given, s.scope.Writes given ref := fun hall hcolumn =>
    let ⟨given, _, hgiven⟩ := exists_of_mem_forall₂ hall hcolumn
    ⟨given, hgiven⟩
  rw [Sql.clauseReferences, List.mem_append, List.mem_append, List.mem_append] at hmem
  rcases hmem with hmem | hmem | hmem | hmem
  · obtain ⟨_, hcolumn, heq⟩ := List.mem_map.1 hmem
    cases heq
    exact hwrites h.output hcolumn
  · obtain ⟨on, hon, hcolumn⟩ := Sql.mem_onReferences hmem
    obtain ⟨j, _, hall⟩ := exists_of_mem_forall₂ h.ons hon
    exact hwrites hall hcolumn
  · obtain ⟨_, hcolumn, heq⟩ := List.mem_map.1 hmem
    cases heq
    exact hwrites h.tested hcolumn
  · obtain ⟨_, hcolumn, heq⟩ := List.mem_map.1 hmem
    cases heq
    exact hwrites h.keys hcolumn

theorem Derives.page_not_leading {output : List ColumnRef} {clauses page : List String}
    {ons : List (List ColumnRef)} {tested keys : List ColumnRef}
    (h : s.Derives output clauses page ons tested keys) : ∀ t ∈ page, t ∉ Sql.leading := by
  obtain ⟨i, j, rfl⟩ := h.page
  have hplace : ∀ i, Piece.placeholder i ∉ Sql.leading := Sql.placeholder_not_mem (by decide)
  have hlimit : "LIMIT" ∉ Sql.leading ∧ "OFFSET" ∉ Sql.leading := by decide
  cases s.limit <;> cases s.offset <;> simp [hplace, hlimit]

end Select

/-- Every column in the text of a selection is qualified where tables are joined and is of a table
in scope, and it identifies one of the visible tables where no two of these have its table's name. -/
theorem references_read {s : Select} {q : SerializedQuery} (h : s.serialize = .ok q) :
    ∃ (output : List ColumnRef) (clauses : List String), Sql.tokens q.sql = "SELECT" ::
        ((output.map ColumnRef.text).intersperse "," ++ "FROM" :: s.entity.table :: clauses) ∧
      output.map (·.name) = s.output.map (·.name) ∧
      ∀ place ref, (place, ref) ∈ output.map (fun column => (.output, column)) ++
        Sql.references .output .operator clauses → s.Reads place ref := by
  obtain ⟨output, clauses, page, ons, tested, keys, htokens, hderives⟩ := Select.exists_derives h
  have hnames := Scope.Writes.names_eq hderives.output
  refine ⟨output, clauses ++ page, htokens, hnames, fun place ref hmem => ?_⟩
  rw [hderives.clauses.references_eq hderives.page_not_leading] at hmem
  obtain ⟨given, hwrites⟩ := hderives.exists_writes hmem
  exact Select.reads_of_writes hwrites

theorem customerOrders_references_read :
    ∃ q, customerOrders.serialize = .ok q ∧
      ∃ (output : List ColumnRef) (clauses : List String), Sql.tokens q.sql = "SELECT" ::
          ((output.map ColumnRef.text).intersperse "," ++ "FROM" :: "orders" :: clauses) ∧
        output.map (·.name) = ["id", "state"] ∧
        ∀ place ref, (place, ref) ∈ output.map (fun column => (.output, column)) ++
          Sql.references .output .operator clauses → customerOrders.Reads place ref :=
  ⟨_, rfl, references_read (s := customerOrders) rfl⟩

example : Sql.references .output .operator
    ["INNER", "JOIN", "b", "ON", "a.id", "=", "b.id", "WHERE", "NOT", "(", "LOWER", "(", "a.name", ")",
      "IN", "(", ":p0", ")", ")", "ORDER", "BY", "b.id", "ASC"] =
    [(.on 0, ⟨some "a", "id"⟩), (.on 0, ⟨some "b", "id"⟩), (.condition, ⟨some "a", "name"⟩),
      (.order, ⟨some "b", "id"⟩)] := by
  decide +kernel

/-- A selection is rendered with a column in its clauses that is of none of the tables visible where
it stands, or of several. -/
def Select.Misleads (s : Select) : Prop :=
  ∃ (q : SerializedQuery) (output : List ColumnRef) (clauses : List String),
    s.serialize = .ok q ∧ Sql.tokens q.sql = "SELECT" ::
      ((output.map ColumnRef.text).intersperse "," ++ "FROM" :: s.entity.table :: clauses) ∧
    ∃ place ref, (place, ref) ∈ Sql.references .output .operator clauses ∧
      ¬Identifies (s.visible place) ref

/-- People with those that they report to: the second table has the name of the first. -/
def reports : Select :=
  (Select.of ⟨"Person", "people", ["id", "head"]⟩).join .inner ⟨"Person", "people", ["id", "head"]⟩
    (.compare (.column ⟨some "people", "head"⟩) .eq (.column ⟨some "people", "id"⟩))

/-- Orders with their customers, who are found by invoices that are joined only behind them. -/
def invoicedOrders : Select :=
  ((Select.of ⟨"Order", "orders", ["id"]⟩).join .inner ⟨"Customer", "customers", ["id"]⟩
    (.compare (.column ⟨some "invoices", "customer"⟩) .eq (.column ⟨some "customers", "id"⟩))).join
      .inner ⟨"Invoice", "invoices", ["customer", "order"]⟩
        (.compare (.column ⟨some "invoices", "order"⟩) .eq (.column ⟨some "orders", "id"⟩))

theorem unidentified_references : reports.Misleads ∧ invoicedOrders.Misleads := by
  constructor
  · exact ⟨_, [⟨some "people", "id"⟩, ⟨some "people", "head"⟩],
      ["INNER", "JOIN", "people", "ON", "people.head", "=", "people.id"], rfl, by decide +kernel,
      .on 0, ⟨some "people", "id"⟩, by decide +kernel, by decide⟩
  · exact ⟨_, [⟨some "orders", "id"⟩],
      ["INNER", "JOIN", "customers", "ON", "invoices.customer", "=", "customers.id",
        "INNER", "JOIN", "invoices", "ON", "invoices.order", "=", "orders.id"], rfl,
      by decide +kernel, .on 0, ⟨some "invoices", "customer"⟩, by decide +kernel, by decide⟩

end StatementGate
