import StatementGate.Proofs.Query.Selections

/-! # Grammatical selections

Which selections are rendered to a selection of the grammar: those that put out columns of distinct
names and skip rows only of a page. Nothing that stands before a page ends as a page does, so a
page is read from the end of the tokens; and a list of columns ends where no comma follows. -/

namespace StatementGate

namespace Sql

open Piece (placeholder)

/-- Two tokens or more, of which the last is a placeholder only behind a comparison. -/
structure Unpaged (tokens : List String) : Prop where
  length : 2 ≤ tokens.length
  last : ∀ word i, [word, placeholder i] <:+ tokens → word ∈ comparisons

namespace Unpaged

variable {ts us : List String}

theorem append (ts : List String) (h : Unpaged us) : Unpaged (ts ++ us) := by
  refine ⟨by rw [List.length_append]; exact Nat.le_add_left_of_le h.length, fun word i hlast => ?_⟩
  exact h.last word i (List.suffix_of_suffix_length_le hlast (List.suffix_append ts us) h.length)

theorem cons {t : String} (h : Unpaged us) : Unpaged (t :: us) := h.append [t]

theorem concat (ts : List String) {t : String} (hne : ts ≠ []) (h : ':' ∉ t.toList) :
    Unpaged (ts ++ [t]) := by
  refine ⟨?_, fun word i hlast => ?_⟩
  · rw [List.length_append]
    exact Nat.succ_le_succ (List.length_pos_of_ne_nil hne)
  · obtain ⟨front, heq⟩ := hlast
    rw [List.append_cons] at heq
    obtain ⟨_, heq⟩ := List.append_inj' heq rfl
    rw [← (List.cons.inj heq).1, toList_placeholder] at h
    exact absurd List.mem_cons_self h

theorem append_or (h : ts = [] ∨ Unpaged ts) (h' : us = [] ∨ Unpaged us) :
    ts ++ us = [] ∨ Unpaged (ts ++ us) := by
  rcases h' with rfl | h'
  · rwa [List.append_nil]
  · exact .inr (h'.append _)

theorem separated {parts : List (List String)} (hne : parts ≠ []) (h : ∀ part ∈ parts, Unpaged part) :
    Unpaged ([","].intercalate parts) := by
  induction parts with
  | nil => exact absurd rfl hne
  | cons part parts ih =>
    rw [List.forall_mem_cons] at h
    cases parts with
    | nil =>
      rw [List.intercalate_singleton]
      exact h.1
    | cons part' parts =>
      rw [List.intercalate_cons_cons]
      exact (ih (List.cons_ne_nil _ _) h.2).append _

end Unpaged

/-- An operand is a placeholder or ends with no placeholder. -/
theorem OperandTokens.last {ts : List String} {cs : List ColumnRef} (h : OperandTokens ts cs) :
    (∃ i, ts = [Piece.placeholder i]) ∨ ∃ front t, ts = front ++ [t] ∧ ':' ∉ t.toList := by
  cases h with
  | column h =>
    exact .inr ⟨[], _, rfl, colon_not_mem_of_isWord (isWord_of_isName (ColumnRef.isName_text h))⟩
  | placeholder i => exact .inl ⟨i, rfl⟩
  | call f hne h => exact .inr ⟨f.keyword :: "(" :: _, ")", rfl, by decide⟩

theorem ConditionTokens.unpaged {ts : List String} {cs : List ColumnRef}
    (h : ConditionTokens ts cs) : Unpaged ts := by
  induction h with
  | @comparison l r op cs ds hl hop hr =>
    rcases hr.last with ⟨i, rfl⟩ | ⟨front, t, rfl, ht⟩
    · apply Unpaged.append _
      refine ⟨Nat.le_refl 2, fun word j hlast => ?_⟩
      obtain ⟨rfl, _⟩ := List.cons.inj (hlast.eq_of_length rfl)
      exact hop
    · rw [← List.cons_append, ← List.append_assoc]
      exact .concat _ (by simp) ht
  | @nullTest ts cs negated h =>
    cases negated with
    | true => exact Unpaged.append _ (.concat ["IS", "NOT"] (by simp) (by decide))
    | false => exact Unpaged.append _ (.concat ["IS"] (by simp) (by decide))
  | member negated h hne =>
    rw [← List.cons_append]
    exact Unpaged.append _ (Unpaged.append _ (.concat _ (List.cons_ne_nil _ _) (by decide)))
  | constant truth =>
    refine .concat ["1", "="] (by simp) ?_
    cases truth <;> decide
  | group h ih => exact .concat _ (List.cons_ne_nil _ _) (by decide)
  | @not ts _ h ih => exact .concat ("NOT" :: "(" :: ts) (List.cons_ne_nil _ _) (by decide)
  | joined hword h h' ih ih' => exact ih'.cons.append _

theorem ClauseTokens.unpaged {clauses : List String} {ons : List (List ColumnRef)}
    {tested keys : List ColumnRef} (h : ClauseTokens clauses ons tested keys) :
    clauses = [] ∨ Unpaged clauses := by
  obtain ⟨hjoins, hcondition, horder⟩ := h
  refine Unpaged.append_or ?_ (Unpaged.append_or ?_ ?_)
  · induction hjoins with
    | nil => exact .inl rfl
    | cons kind htable hon h ih =>
      right
      refine Unpaged.append _ (.cons (.cons ?_))
      rcases ih with rfl | ih
      · rw [List.append_nil]
        exact hon.unpaged
      · exact ih.append _
  · cases hcondition with
    | absent => exact .inl rfl
    | condition h => exact .inr h.unpaged.cons
  · cases horder with
    | absent => exact .inl rfl
    | @keys keys hne h =>
      right
      refine .cons (.cons (.separated (by simpa using hne) ?_))
      intro part hpart
      obtain ⟨key, _, rfl⟩ := List.mem_map.1 hpart
      refine .concat [key.1.text] (List.cons_ne_nil _ _) ?_
      cases key.2 <;> decide

/-- What stands before a page does not end as one. -/
theorem ClauseTokens.unpaged_body {clauses : List String} {ons : List (List ColumnRef)}
    {tested keys : List ColumnRef} (h : ClauseTokens clauses ons tested keys) (front : List String)
    {table : String} (htable : isPlainIdentifier table = true) :
    Unpaged (front ++ "FROM" :: table :: clauses) := by
  rcases h.unpaged with rfl | hclauses
  · exact Unpaged.append _ (.concat ["FROM"] (List.cons_ne_nil _ _)
      (colon_not_mem_of_identifier htable))
  · exact Unpaged.append _ hclauses.cons.cons

/-- Tokens that skip rows without a limit end with no page. -/
theorem PageTokens.append_ne {page body body' : List String} (hpage : PageTokens page)
    (hbody : Unpaged body) (hbody' : Unpaged body') (j : Nat) :
    body ++ ["OFFSET", placeholder j] ≠ body' ++ page := by
  intro heq
  cases hpage with
  | absent =>
    rw [List.append_nil] at heq
    exact absurd (hbody'.last "OFFSET" j ⟨body, heq⟩) (by decide)
  | limit i => exact absurd (List.cons.inj (List.append_inj_right' heq rfl)).1 (by decide)
  | offset i k =>
    -- what is left of the page in front of its offset ends the body
    rw [List.append_cons body' "LIMIT", List.append_cons _ (placeholder i)] at heq
    have hlast := (List.append_inj' heq rfl).1
    rw [List.append_assoc] at hlast
    exact absurd (hbody.last "LIMIT" i ⟨body', hlast.symm⟩) (by decide)

/-- Columns in a list that no comma follows are told apart from what follows. -/
theorem intersperse_inj {as bs : List String} {a b : String} {rest rest' : List String}
    (has : as ≠ []) (hbs : bs ≠ []) (ha : a ≠ ",") (hb : b ≠ ",")
    (h : as.intersperse "," ++ a :: rest = bs.intersperse "," ++ b :: rest') : as = bs := by
  induction as generalizing bs with
  | nil => exact absurd rfl has
  | cons x as ih =>
    cases bs with
    | nil => exact absurd rfl hbs
    | cons y bs =>
      cases as with
      | nil =>
        cases bs with
        | nil =>
          rw [List.intersperse_singleton, List.intersperse_singleton] at h
          rw [(List.cons.inj h).1]
        | cons y' bs =>
          rw [List.intersperse_singleton, List.intersperse_cons_cons] at h
          exact absurd (List.cons.inj (List.cons.inj h).2).1 ha
      | cons x' as =>
        cases bs with
        | nil =>
          rw [List.intersperse_singleton, List.intersperse_cons_cons] at h
          exact absurd (List.cons.inj (List.cons.inj h).2).1.symm hb
        | cons y' bs =>
          simp only [List.intersperse_cons_cons, List.cons_append, List.cons.injEq, true_and] at h
          rw [h.1, ih (List.cons_ne_nil _ _) (List.cons_ne_nil _ _) h.2]

/-- The words that a clause behind the target of a selection starts with. -/
def openers : List String := ["INNER", "LEFT", "WHERE", "ORDER", "LIMIT"]

theorem not_starts_cons {starts tokens : List String} {t : String} (h : t ∉ starts) :
    ¬Starts starts (t :: tokens) := fun hstarts => h (hstarts t rfl)

theorem placeholder_not_mem_openers (i : Nat) : placeholder i ∉ openers :=
  placeholder_not_mem (by decide) i

theorem ClauseTokens.starts {clauses page : List String} {ons : List (List ColumnRef)}
    {tested keys : List ColumnRef} (h : ClauseTokens clauses ons tested keys)
    (hpage : PageTokens page) : Starts openers (clauses ++ page) := by
  have hpage : Starts openers page := by
    cases hpage with
    | absent => exact fun _ ht => by cases ht
    | limit i => exact starts_cons (by decide)
    | offset i j => exact starts_cons (by decide)
  obtain ⟨hjoins, hcondition, horder⟩ := h
  rw [List.append_assoc, List.append_assoc]
  cases hjoins with
  | cons kind => cases kind <;> exact starts_cons (by decide)
  | nil =>
    cases hcondition with
    | condition => exact starts_cons (by decide)
    | absent =>
      cases horder with
      | keys => exact starts_cons (by decide)
      | absent => exact hpage

theorem OperandTokens.head_of_no_columns {ts : List String} {cs : List ColumnRef}
    (h : OperandTokens ts cs) (hcs : cs = []) : ∃ t rest, ts = t :: rest ∧ t ∉ openers := by
  cases h with
  | column => cases hcs
  | placeholder i => exact ⟨_, [], rfl, placeholder_not_mem_openers i⟩
  | call f => exact ⟨_, _, rfl, by cases f <;> decide⟩

/-- A condition without columns starts with no word of a clause. -/
theorem ConditionTokens.head_of_no_columns {ts : List String} {cs : List ColumnRef}
    (h : ConditionTokens ts cs) (hcs : cs = []) : ∃ t rest, ts = t :: rest ∧ t ∉ openers := by
  induction h with
  | comparison hl hop hr =>
    obtain ⟨t, rest, rfl, ht⟩ := hl.head_of_no_columns (List.append_eq_nil_iff.1 hcs).1
    exact ⟨t, _, rfl, ht⟩
  | nullTest negated h =>
    obtain ⟨t, rest, rfl, ht⟩ := h.head_of_no_columns hcs
    exact ⟨t, _, rfl, ht⟩
  | member negated h hne =>
    obtain ⟨t, rest, rfl, ht⟩ := h.head_of_no_columns hcs
    exact ⟨t, _, rfl, ht⟩
  | constant truth => exact ⟨_, _, rfl, by decide⟩
  | group h ih => exact ⟨_, _, rfl, by decide⟩
  | not h ih => exact ⟨_, _, rfl, by decide⟩
  | joined hword h h' ih ih' =>
    obtain ⟨t, rest, rfl, ht⟩ := ih (List.append_eq_nil_iff.1 hcs).1
    exact ⟨t, _, rfl, ht⟩

/-- No clause starts behind the first word of another, unless that is followed by a column. -/
theorem ClauseTokens.not_starts {clauses page rest : List String} {ons : List (List ColumnRef)}
    {tested keys : List ColumnRef} {word : String} (h : ClauseTokens clauses ons tested keys)
    (htested : ons = [] → tested = [])
    (hpage : ∀ first rest, page = first :: rest → ¬Starts openers rest)
    (heq : clauses ++ page = word :: rest) : ¬Starts openers rest := by
  obtain ⟨hjoins, hcondition, horder⟩ := h
  rw [List.append_assoc, List.append_assoc] at heq
  cases hjoins with
  | cons kind =>
    cases kind
    all_goals
      obtain ⟨_, rfl⟩ := List.cons.inj heq
      exact not_starts_cons (by decide)
  | nil =>
    cases hcondition with
    | condition h =>
      obtain ⟨t, _, rfl, ht⟩ := h.head_of_no_columns (htested rfl)
      obtain ⟨_, rfl⟩ := List.cons.inj heq
      exact not_starts_cons ht
    | absent =>
      cases horder with
      | keys =>
        obtain ⟨_, rfl⟩ := List.cons.inj heq
        exact not_starts_cons (by decide)
      | absent => exact hpage word rest heq

end Sql

namespace Select.Derives

variable {s : Select} {output : List ColumnRef} {clauses page : List String}
  {ons : List (List ColumnRef)} {tested keys : List ColumnRef}

theorem page_cases (h : s.Derives output clauses page ons tested keys) :
    Sql.PageTokens page ∧ (s.offset.isSome → s.limit.isSome) ∨
      ¬(s.offset.isSome → s.limit.isSome) ∧ ∃ j, page = ["OFFSET", Piece.placeholder j] := by
  obtain ⟨i, j, rfl⟩ := h.page
  cases s.limit with
  | none =>
    cases s.offset with
    | none => exact .inl ⟨.absent, by simp⟩
    | some n => exact .inr ⟨by simp, j, rfl⟩
  | some m =>
    cases s.offset with
    | none => exact .inl ⟨.limit i, by simp⟩
    | some n => exact .inl ⟨.offset i j, by simp⟩

/-- The page of a selection of the grammar skips rows only where their number is limited. -/
theorem limited (h : s.Derives output clauses page ons tested keys)
    (htokens : Sql.SelectTokens ("SELECT" :: ((output.map ColumnRef.text).intersperse "," ++
      "FROM" :: s.entity.table :: (clauses ++ page)))) : s.offset.isSome → s.limit.isSome := by
  rcases h.page_cases with ⟨_, hlimited⟩ | ⟨_, j, rfl⟩
  · exact hlimited
  have htarget : s.entity.Plain := h.plain _ List.mem_cons_self
  have hbody := h.clauses.unpaged_body ("SELECT" :: (output.map ColumnRef.text).intersperse ",")
    htarget.1
  generalize heq : ("SELECT" :: ((output.map ColumnRef.text).intersperse "," ++
      "FROM" :: s.entity.table :: (clauses ++ ["OFFSET", Piece.placeholder j]))) = tokens at htokens
  cases htokens with
  | @mk output' table' clauses' page' _ _ _ _ _ _ htable hclauses hpage =>
    have hbody' := hclauses.unpaged_body ("SELECT" :: (output'.map ColumnRef.text).intersperse ",")
      htable
    refine absurd ?_ (hpage.append_ne hbody hbody' j)
    simpa only [List.cons_append, List.append_assoc] using heq

/-- Where the target declares no columns and nothing is joined, no column is tested. -/
theorem tested_eq_nil (h : s.Derives output clauses page ons tested keys)
    (hcolumns : s.entity.columns = []) (hons : ons = []) : tested = [] := by
  have hjoins : s.joins = [] := by
    have hlength := h.ons.length_eq
    rw [hons] at hlength
    exact List.length_eq_zero_iff.1 hlength
  have htested := h.tested
  generalize Statement.conditionTested s.predicate = refs at htested
  cases htested with
  | nil => rfl
  | cons hwrites =>
    obtain ⟨_, htable, _⟩ := hwrites
    obtain ⟨e, he, _, hdeclared⟩ := Scope.resolve_declared htable
    simp only [scope, Scope.tables, hjoins, List.map_nil, List.mem_singleton] at he
    rw [he, hcolumns] at hdeclared
    cases hdeclared

/-- No clause starts behind the first word of the clauses and page of a selection without columns. -/
theorem not_starts (h : s.Derives output clauses page ons tested keys)
    (hcolumns : s.entity.columns = []) {word : String} {rest : List String}
    (heq : clauses ++ page = word :: rest) : ¬Sql.Starts Sql.openers rest := by
  refine h.clauses.not_starts (h.tested_eq_nil hcolumns) (fun first rest hpage => ?_) heq
  rcases h.page_cases with ⟨htokens, _⟩ | ⟨_, j, rfl⟩
  · cases htokens with
    | absent => cases hpage
    | limit i =>
      obtain ⟨_, rfl⟩ := List.cons.inj hpage
      exact Sql.not_starts_cons (Sql.placeholder_not_mem_openers i)
    | offset i j =>
      obtain ⟨_, rfl⟩ := List.cons.inj hpage
      exact Sql.not_starts_cons (Sql.placeholder_not_mem_openers i)
  · obtain ⟨_, rfl⟩ := List.cons.inj hpage
    exact Sql.not_starts_cons (Sql.placeholder_not_mem_openers j)

/-- A selection that puts out no columns is none of the grammar. -/
theorem output_ne_nil (h : s.Derives output clauses page ons tested keys)
    (hcolumns : s.entity.columns = []) {output' : List ColumnRef} {table' : String}
    {tokens : List String} (hne : output' ≠ []) (htokens : Sql.Starts Sql.openers tokens)
    (heq : "FROM" :: s.entity.table :: (clauses ++ page) =
      (output'.map ColumnRef.text).intersperse "," ++ "FROM" :: table' :: tokens) : False := by
  have htarget : s.entity.Plain := h.plain _ List.mem_cons_self
  cases output' with
  | nil => exact hne rfl
  | cons column output' =>
    cases output' with
    -- the column would be called `FROM`, its table as the first word of a clause
    | nil => exact h.not_starts hcolumns (List.cons.inj (List.cons.inj heq).2).2 htokens
    | cons column' output' =>
      rw [List.map_cons, List.map_cons, List.intersperse_cons_cons] at heq
      have hcomma : s.entity.table = "," := (List.cons.inj (List.cons.inj heq).2).1
      exact absurd htarget.1 (by rw [hcomma]; decide)

/-- The columns that a selection of the grammar puts out are some, and of distinct names. -/
theorem distinct (h : s.Derives output clauses page ons tested keys)
    (htokens : Sql.SelectTokens ("SELECT" :: ((output.map ColumnRef.text).intersperse "," ++
      "FROM" :: s.entity.table :: (clauses ++ page)))) (hcolumns : s.columns = none) :
    s.entity.columns ≠ [] ∧ s.entity.columns.Nodup := by
  have hnames : output.map (·.name) = s.entity.columns := by
    rw [Scope.Writes.names_eq h.output, Select.output, hcolumns]
    dsimp only
    rw [List.map_map]
    exact List.map_id _
  have hnil : output = [] ↔ s.entity.columns = [] := by rw [← hnames, List.map_eq_nil_iff]
  rw [Ne, ← hnil, ← hnames]
  generalize heq : ("SELECT" :: ((output.map ColumnRef.text).intersperse "," ++
      "FROM" :: s.entity.table :: (clauses ++ page))) = tokens at htokens
  cases htokens with
  | @mk output' table' clauses' page' _ _ _ hne hplain hdistinct htable hclauses hpage =>
    replace heq := (List.cons.inj heq).2
    by_cases houtput : output = []
    · rw [houtput] at heq
      exact absurd heq (h.output_ne_nil (hnil.1 houtput) hne (hclauses.starts hpage))
    · have htexts := Sql.intersperse_inj (by simpa using houtput) (by simpa using hne) (by decide)
        (by decide) heq
      have hsame : output = output' := by
        rw [← ColumnRef.parse_texts (Scope.Writes.all_plain h.plain h.output), htexts,
          ColumnRef.parse_texts hplain]
      exact ⟨houtput, hsame ▸ hdistinct⟩

theorem output_distinct (h : s.Derives output clauses page ons tested keys)
    (hdistinct : s.columns = none → s.entity.columns ≠ [] ∧ s.entity.columns.Nodup) :
    output ≠ [] ∧ (output.map (·.name)).Nodup := by
  have hnil : output = [] ↔ output.map (·.name) = [] := List.map_eq_nil_iff.symm
  rw [Ne, hnil, Scope.Writes.names_eq h.output, Select.output]
  cases hcolumns : s.columns with
  | none =>
    dsimp only
    rw [List.map_map]
    simpa only [Function.comp_def, List.map_id'] using hdistinct hcolumns
  | some columns =>
    obtain ⟨hne, hdistinct, _⟩ := h.projects columns hcolumns
    dsimp only
    rw [List.map_map]
    exact ⟨by simpa using hne, hdistinct⟩

theorem selectTokens_iff (h : s.Derives output clauses page ons tested keys) :
    Sql.SelectTokens ("SELECT" :: ((output.map ColumnRef.text).intersperse "," ++
        "FROM" :: s.entity.table :: (clauses ++ page))) ↔
      (s.columns = none → s.entity.columns ≠ [] ∧ s.entity.columns.Nodup) ∧
        (s.offset.isSome → s.limit.isSome) := by
  constructor
  · exact fun htokens => ⟨h.distinct htokens, h.limited htokens⟩
  · rintro ⟨hcolumns, hlimited⟩
    obtain ⟨hne, hdistinct⟩ := h.output_distinct hcolumns
    have htarget : s.entity.Plain := h.plain _ List.mem_cons_self
    rcases h.page_cases with ⟨hpage, _⟩ | ⟨hunlimited, _⟩
    · exact .mk hne (Scope.Writes.all_plain h.plain h.output) hdistinct htarget.1 h.clauses hpage
    · exact absurd hlimited hunlimited

end Select.Derives

/-- A selection is rendered to a selection of the grammar where the columns it puts out for want of
a projection are some and distinct, and rows are skipped only of a limited number. -/
theorem select_grammatical_iff {s : Select} {q : SerializedQuery} (h : s.serialize = .ok q) :
    Sql.SelectTokens (Sql.tokens q.sql) ↔
      (s.columns = none → s.entity.columns ≠ [] ∧ s.entity.columns.Nodup) ∧
        (s.offset.isSome → s.limit.isSome) := by
  obtain ⟨output, clauses, page, ons, tested, keys, htokens, hderives⟩ := Select.exists_derives h
  rw [htokens]
  exact hderives.selectTokens_iff

theorem customerOrders_grammatical :
    ∃ q, customerOrders.serialize = .ok q ∧ Sql.SelectTokens (Sql.tokens q.sql) :=
  ⟨_, rfl, (select_grammatical_iff (s := customerOrders) rfl).2 ⟨by decide, by decide⟩⟩

/-- A selection is rendered, but to none of the grammar. -/
def Select.Ungrammatical (s : Select) : Prop :=
  ∃ q, s.serialize = .ok q ∧ ¬Sql.SelectTokens (Sql.tokens q.sql)

theorem Select.ungrammatical {s : Select} {q : SerializedQuery} (h : s.serialize = .ok q)
    (hnot : ¬((s.columns = none → s.entity.columns ≠ [] ∧ s.entity.columns.Nodup) ∧
      (s.offset.isSome → s.limit.isSome))) : s.Ungrammatical := by
  refine ⟨q, h, ?_⟩
  obtain ⟨output, clauses, page, ons, tested, keys, htokens, hderives⟩ := exists_derives h
  rwa [htokens, hderives.selectTokens_iff]

/-- Rows are skipped of an unlimited number, no column is put out, one is put out twice. -/
theorem ungrammatical_rendered :
    ((Select.of ⟨"Order", "orders", ["id"]⟩).withOffset 5).Ungrammatical ∧
      (Select.of ⟨"Marker", "markers", []⟩).Ungrammatical ∧
      (Select.of ⟨"Pair", "pairs", ["id", "id"]⟩).Ungrammatical :=
  ⟨Select.ungrammatical rfl (by decide), Select.ungrammatical rfl (by decide),
    Select.ungrammatical rfl (by decide)⟩

end StatementGate
