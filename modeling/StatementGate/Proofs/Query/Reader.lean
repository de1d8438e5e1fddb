import StatementGate.Proofs.Query.Lexemes

/-! # Reading conditions

A reader of SQL conditions by the precedence of their operators: comparisons and the other tests
bind tighter than `NOT`, `NOT` tighter than `AND`, and `AND` tighter than `OR`. No word is reserved:
where the tokens make a test it is read as one, whatever its columns are called. -/

namespace StatementGate

/-- The truth of a condition, in three values. -/
inductive Truth where
  | fails | unknown | holds
  deriving DecidableEq

namespace Truth

def not : Truth → Truth
  | .fails => .holds
  | .unknown => .unknown
  | .holds => .fails

/-- Kleene's conjunction. -/
def and : Truth → Truth → Truth
  | .fails, _ | _, .fails => .fails
  | .holds, .holds => .holds
  | _, _ => .unknown

/-- Kleene's disjunction. -/
def or : Truth → Truth → Truth
  | .holds, _ | _, .holds => .holds
  | .fails, .fails => .fails
  | _, _ => .unknown

theorem and_holds (t : Truth) : t.and .holds = t := by
  cases t <;> rfl

theorem or_fails (t : Truth) : t.or .fails = t := by
  cases t <;> rfl

theorem holds_and (t : Truth) : Truth.holds.and t = t := by
  cases t <;> rfl

theorem fails_or (t : Truth) : Truth.fails.or t = t := by
  cases t <;> rfl

theorem and_assoc (t u v : Truth) : (t.and u).and v = t.and (u.and v) := by
  cases t <;> cases u <;> cases v <;> rfl

theorem or_assoc (t u v : Truth) : (t.or u).or v = t.or (u.or v) := by
  cases t <;> cases u <;> cases v <;> rfl

instance : Std.Associative Truth.and := ⟨and_assoc⟩

instance : Std.Associative Truth.or := ⟨or_assoc⟩

end Truth

namespace Sql

inductive Formula where
  | atom (tokens : List String)
  | not (inner : Formula)
  | and (first second : Formula)
  | or (first second : Formula)

/-- The truth of a formula, from that of its atoms. -/
def Formula.eval (truth : List String → Truth) : Formula → Truth
  | .atom tokens =>
    if tokens = ["1", "=", "1"] then .holds
    else if tokens = ["1", "=", "0"] then .fails
    else truth tokens
  | .not inner => (inner.eval truth).not
  | .and first second => (first.eval truth).and (second.eval truth)
  | .or first second => (first.eval truth).or (second.eval truth)

/-- What stands behind the bracket that closes the one before the tokens, with `inside` others open
inside it. -/
def afterGroup : (inside : Nat) → List String → Option (List String)
  | _, [] => none
  | inside, token :: rest =>
    if token = "(" then afterGroup (inside + 1) rest
    else if token = ")" then
      if inside = 0 then some rest else afterGroup (inside - 1) rest
    else afterGroup inside rest

/-- Whether a token is a word or a placeholder. -/
def isTerm (token : String) : Bool :=
  match token.toList with
  | [] => false
  | c :: _ => isWordChar c || c == ':'

/-- What stands behind an operand: a column, a placeholder, a number or a call. -/
def afterOperand : List String → Option (List String)
  | [] => none
  | token :: rest =>
    if isTerm token = false then none
    else if rest.head? ≠ some "(" then some rest
    else if token = "NOT" then none
    else afterGroup 0 rest.tail

def comparisons : List String := ["=", "<>", "<", "<=", ">", ">=", "LIKE"]

/-- What stands behind a test of the operand before the tokens. -/
def afterTest : List String → Option (List String)
  | "IS" :: "NULL" :: rest => some rest
  | "IS" :: "NOT" :: "NULL" :: rest => some rest
  | "IN" :: "(" :: rest => afterGroup 0 rest
  | "NOT" :: "IN" :: "(" :: rest => afterGroup 0 rest
  | token :: rest => if token ∈ comparisons then afterOperand rest else none
  | [] => none

def afterAtom (tokens : List String) : Option (List String) :=
  (afterOperand tokens).bind afterTest

/-- Reads a formula at the head of tokens and returns those behind it. -/
abbrev Reader := List String → Option (Formula × List String)

def readFactor (inner : Reader) : Reader
  | [] => none
  | token :: rest =>
    match afterAtom (token :: rest) with
    | some after => some (.atom ((token :: rest).take (rest.length + 1 - after.length)), after)
    | none =>
      if token = "NOT" then (readFactor inner rest).map fun (f, after) => (.not f, after)
      else if token = "(" then
        match inner rest with
        | some (f, ")" :: after) => some (f, after)
        | _ => none
      else none

/-- Reads items with a keyword between them, for as long as it follows. -/
def readChain (keyword : String) (combine : Formula → Formula → Formula) (item : Reader)
    (tokens : List String) : Option (Formula × List String) :=
  match item tokens with
  | none => none
  | some (first, []) => some (first, [])
  | some (first, next :: rest) =>
    if next = keyword ∧ rest.length < tokens.length then
      (readChain keyword combine item rest).map fun (f, after) => (combine first f, after)
    else some (first, next :: rest)
termination_by tokens.length

/-- Reads a condition in which fewer than `depth` brackets are open at once. -/
def readCondition : (depth : Nat) → Reader
  | 0 => fun _ => none
  | depth + 1 => readChain "OR" .or (readChain "AND" .and (readFactor (readCondition depth)))

def condition? (tokens : List String) : Option (Formula × List String) :=
  readCondition (tokens.length + 1) tokens

/-- Tokens that do not start with any of the given ones. -/
def Ends (stops : List String) (tokens : List String) : Prop := ∀ t ∈ tokens.head?, t ∉ stops

/-- The reader takes the tokens for a formula of the given truth, whatever stands behind them that
does not go on with it. -/
def Reader.Reads (reader : Reader) (stops : List String) (tokens : List String)
    (value : (List String → Truth) → Truth) : Prop :=
  ∀ rest, Ends stops rest →
    ∃ f, reader (tokens ++ rest) = some (f, rest) ∧ ∀ truth, f.eval truth = value truth

theorem Ends.mono {stops stops' tokens : List String} (h : Ends stops' tokens)
    (hsub : ∀ t ∈ stops, t ∈ stops') : Ends stops tokens :=
  fun t ht hmem => h t ht (hsub t hmem)

theorem ends_cons {stops rest : List String} {t : String} (h : t ∉ stops) :
    Ends stops (t :: rest) := by
  intro u hu
  cases hu
  exact h

theorem Reader.Reads.mono {reader : Reader} {stops stops' ts : List String}
    {value : (List String → Truth) → Truth} (h : Reader.Reads reader stops ts value)
    (hsub : ∀ t ∈ stops, t ∈ stops') : Reader.Reads reader stops' ts value :=
  fun rest hends => h rest (hends.mono hsub)

section Chain

variable {keyword : String} {combine : Formula → Formula → Formula} {op : Truth → Truth → Truth}
  {item : Reader} {stops ts ts' : List String} {value value' : (List String → Truth) → Truth}

/-- An item that the keyword does not follow is a chain. -/
theorem Reader.Reads.chain (h : Reader.Reads item stops ts value) :
    Reader.Reads (readChain keyword combine item) (keyword :: stops) ts value := by
  intro rest hends
  obtain ⟨f, hf, heval⟩ := h rest (hends.mono fun _ => List.mem_cons_of_mem keyword)
  refine ⟨f, ?_, heval⟩
  rw [readChain, hf]
  cases rest with
  | nil => rfl
  | cons next rest =>
    have hnext : next ≠ keyword := by
      rintro rfl
      exact hends next rfl List.mem_cons_self
    dsimp only
    rw [if_neg fun hchain => hnext hchain.1]

/-- An item goes on with the keyword to a longer chain. -/
theorem Reader.Reads.chain_cons (h : Reader.Reads item stops ts value)
    (hkeyword : keyword ∉ stops)
    (hcombine : ∀ truth f g, (combine f g).eval truth = op (f.eval truth) (g.eval truth))
    {stops' : List String} (h' : Reader.Reads (readChain keyword combine item) stops' ts' value') :
    Reader.Reads (readChain keyword combine item) stops' (ts ++ keyword :: ts')
      fun truth => op (value truth) (value' truth) := by
  intro rest hends
  obtain ⟨f, hf, heval⟩ := h (keyword :: (ts' ++ rest)) (ends_cons hkeyword)
  obtain ⟨g, hg, heval'⟩ := h' rest hends
  refine ⟨combine f g, ?_, fun truth => by rw [hcombine, heval, heval']⟩
  rw [List.append_assoc, List.cons_append, readChain, hf]
  dsimp only
  rw [if_pos ⟨rfl, by simp only [List.length_append, List.length_cons]; omega⟩, hg]
  rfl

end Chain

/-- Tokens whose brackets close one another. -/
def Balanced (tokens : List String) : Prop :=
  ∀ inside rest, afterGroup inside (tokens ++ rest) = afterGroup inside rest

namespace Balanced

variable {ts us : List String}

theorem nil : Balanced [] := fun _ _ => rfl

theorem append (h : Balanced ts) (h' : Balanced us) : Balanced (ts ++ us) := by
  intro inside rest
  rw [List.append_assoc, h, h']

theorem singleton {t : String} (hopen : t ≠ "(") (hclose : t ≠ ")") : Balanced [t] := by
  intro inside rest
  rw [List.singleton_append, afterGroup, if_neg hopen, if_neg hclose]

theorem group (h : Balanced ts) : Balanced ("(" :: (ts ++ [")"])) := by
  intro inside rest
  rw [List.cons_append, List.append_assoc, afterGroup, if_pos rfl, h, List.singleton_append,
    afterGroup, if_neg (by decide), if_pos rfl, if_neg (Nat.succ_ne_zero inside)]
  rfl

/-- A group ends where its bracket closes. -/
theorem afterGroup_eq (h : Balanced ts) (rest : List String) :
    afterGroup 0 (ts ++ ")" :: rest) = some rest := by
  rw [h]
  rfl

end Balanced

/-- The tokens of an operand. -/
inductive IsOperand : List String → Prop
  | single {t : String} (ht : isTerm t = true) : IsOperand [t]
  | call {t : String} {inner : List String} (ht : isTerm t = true) (hnot : t ≠ "NOT")
      (h : Balanced inner) : IsOperand (t :: "(" :: (inner ++ [")"]))

namespace IsOperand

variable {ts : List String}

theorem ne_nil (h : IsOperand ts) : ts ≠ [] := by
  cases h with
  | single => exact List.cons_ne_nil _ _
  | call => exact List.cons_ne_nil _ _

theorem balanced_of_isTerm {t : String} (ht : isTerm t = true) : Balanced [t] := by
  apply Balanced.singleton
  · rintro rfl
    cases ht
  · rintro rfl
    cases ht

theorem balanced (h : IsOperand ts) : Balanced ts := by
  cases h with
  | single ht => exact balanced_of_isTerm ht
  | call ht _ h => exact (balanced_of_isTerm ht).append h.group

theorem afterOperand_eq (h : IsOperand ts) {rest : List String} (hends : Ends ["("] rest) :
    afterOperand (ts ++ rest) = some rest := by
  cases h with
  | single ht =>
    have hhead : rest.head? ≠ some "(" := fun heq => hends "(" heq List.mem_cons_self
    rw [List.singleton_append, afterOperand, if_neg (by simp [ht]), if_pos hhead]
  | call ht hnot h =>
    rw [List.cons_append, List.cons_append, List.append_assoc, afterOperand, if_neg (by simp [ht]),
      if_neg (by simp), if_neg hnot]
    exact h.afterGroup_eq rest

end IsOperand

theorem afterTest_comparison {op : String} (hop : op ∈ comparisons) (rest : List String) :
    afterTest (op :: rest) = afterOperand rest := by
  simp only [comparisons, List.mem_cons, List.not_mem_nil, or_false] at hop
  rcases hop with rfl | rfl | rfl | rfl | rfl | rfl | rfl
  all_goals rfl

/-- An operand and a test of it are read as one atom. -/
theorem reads_atom {inner : Reader} {l test : List String} {t : String} (hl : IsOperand l)
    (ht : t ≠ "(") (h : ∀ rest, Ends ["("] rest → afterTest (t :: (test ++ rest)) = some rest) :
    Reader.Reads (readFactor inner) ["("] (l ++ t :: test) fun truth =>
      (Formula.atom (l ++ t :: test)).eval truth := by
  intro rest hends
  refine ⟨.atom (l ++ t :: test), ?_, fun _ => rfl⟩
  have hatom : afterAtom (l ++ t :: test ++ rest) = some rest := by
    have hstart : Ends ["("] (t :: (test ++ rest)) := ends_cons (by simpa using ht)
    rw [List.append_assoc, List.cons_append, afterAtom, hl.afterOperand_eq hstart, Option.bind_some,
      h rest hends]
  cases hts : l ++ t :: test with
  | nil => simp at hts
  | cons first ts =>
    rw [hts, List.cons_append] at hatom
    have hlength : (ts ++ rest).length + 1 - rest.length = (first :: ts).length := by
      rw [List.length_append, List.length_cons]
      omega
    rw [List.cons_append, readFactor, hatom]
    dsimp only
    rw [hlength, ← List.cons_append, List.take_left]

theorem reads_comparison {inner : Reader} {l r : List String} {op : String} (hl : IsOperand l)
    (hr : IsOperand r) (hop : op ∈ comparisons) :
    Reader.Reads (readFactor inner) ["("] (l ++ op :: r) fun truth =>
      (Formula.atom (l ++ op :: r)).eval truth := by
  apply reads_atom hl
  · rintro rfl
    exact absurd hop (by decide)
  · intro rest hends
    rw [afterTest_comparison hop, hr.afterOperand_eq hends]

theorem Formula.eval_atom {ts : List String} (h : ts.head? ≠ some "1")
    (truth : List String → Truth) : (atom ts).eval truth = truth ts := by
  rw [eval, if_neg, if_neg]
  · rintro rfl
    exact h rfl
  · rintro rfl
    exact h rfl

/-- A test that does not start with a number is no constant. -/
theorem reads_test {inner : Reader} {l test : List String} {t : String} (hl : IsOperand l)
    (hone : l.head? ≠ some "1") (ht : t ≠ "(")
    (h : ∀ rest, Ends ["("] rest → afterTest (t :: (test ++ rest)) = some rest) :
    Reader.Reads (readFactor inner) ["("] (l ++ t :: test) fun truth => truth (l ++ t :: test) := by
  intro rest hends
  obtain ⟨f, hf, heval⟩ := reads_atom hl ht h rest hends
  have hstart : (l ++ t :: test).head? ≠ some "1" := by
    rwa [List.head?_append_of_ne_nil _ hl.ne_nil]
  exact ⟨f, hf, fun truth => (heval truth).trans (Formula.eval_atom hstart truth)⟩

/-- What is read inside parentheses is read with them as a factor. -/
theorem reads_group {inner : Reader} {stops ts : List String}
    {value : (List String → Truth) → Truth} (h : Reader.Reads inner stops ts value)
    (hclose : ")" ∉ stops) : Reader.Reads (readFactor inner) [] ("(" :: (ts ++ [")"])) value := by
  intro rest _
  obtain ⟨f, hf, heval⟩ := h (")" :: rest) (ends_cons hclose)
  refine ⟨f, ?_, heval⟩
  have hatom : afterAtom ("(" :: (ts ++ ")" :: rest)) = none := rfl
  rw [List.cons_append, List.append_assoc, List.singleton_append, readFactor, hatom, hf]
  rfl

/-- `NOT` in front of parentheses is no call. -/
theorem reads_not {inner : Reader} {ts : List String} {value : (List String → Truth) → Truth}
    (h : Reader.Reads (readFactor inner) [] ("(" :: ts) value) :
    Reader.Reads (readFactor inner) [] ("NOT" :: "(" :: ts) fun truth => (value truth).not := by
  intro rest hends
  obtain ⟨f, hf, heval⟩ := h rest hends
  refine ⟨.not f, ?_, fun truth => congrArg Truth.not (heval truth)⟩
  have hatom : afterAtom ("NOT" :: ("(" :: ts ++ rest)) = none := rfl
  rw [List.cons_append, readFactor, hatom]
  dsimp only
  rw [if_pos rfl, hf]
  rfl

end Sql

end StatementGate
