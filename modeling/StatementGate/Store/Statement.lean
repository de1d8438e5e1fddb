import StatementGate.Store.Engine
import StatementGate.Store.Token

/-! # Statements of a store

The statements that a store understands, and their reading. A condition is a conjunction of
equalities. -/

namespace StatementGate.Store

inductive Operand where
  | cell (value : Cell)
  | column (name : String) (offset : Nat)
  | placeholder (spelling : String)
  deriving DecidableEq

abbrev Condition := List (Operand × Operand)

/-- A result and the name it is given; without an alias, its spelling. -/
structure ResultItem where
  operand : Operand
  alias? : Option String
  spelling : String
  deriving DecidableEq

/-- All columns, or the listed results. -/
inductive Projection where
  | all
  | items (items : List ResultItem)
  deriving DecidableEq

inductive Statement where
  | createTable (table : String) (columns : List String)
  | select (projection : Projection) (table : Option String) (condition : Condition)
  | insert (table : String) (columns : Option (List String)) (values : List Operand)
  | update (table : String) (assignments : List (String × Operand)) (condition : Condition)
  | delete (table : String) (condition : Condition)
  deriving DecidableEq

/-- The parameters of a statement by index. None is named twice, and a bare question mark has no
name. -/
structure Placeholders where
  names : List (Option String)
  distinct : names.Pairwise fun a b => a = b → a = none
  deriving DecidableEq

namespace Placeholders

def empty : Placeholders := ⟨[], .nil⟩

/-- A spelling stands for the parameter that has it already, a bare question mark for a new one. -/
def add (p : Placeholders) (spelling : String) : Placeholders :=
  if spelling = "?" then
    ⟨p.names ++ [none], List.pairwise_append.2
      ⟨p.distinct, List.pairwise_singleton _ _, by simp⟩⟩
  else if h : some spelling ∈ p.names then p
  else
    ⟨p.names ++ [some spelling], List.pairwise_append.2
      ⟨p.distinct, List.pairwise_singleton _ _, fun a ha b hb hab => by
        rw [List.mem_singleton] at hb
        exact absurd (hb ▸ hab ▸ ha) h⟩⟩

/-- What is bound in slots, by name. -/
def bindings (p : Placeholders) (slots : Slots) : Bindings :=
  (p.names.zip slots).filterMap fun (name?, cell?) => do pure (← name?, ← cell?)

end Placeholders

namespace Statement

/-- Reads a part of a statement off its tokens. -/
abbrev Reader := StateT (List Token) (Except PrepareError)

namespace Reader

def peek? : Reader (Option Token) := do return (← get).head?

def fail {α : Type} : Reader α := do
  match ← get with
  | t :: _ => throw (.near t)
  | [] => throw .incomplete

def skip : Reader Unit := modify List.tail

def isKeyword (word : String) (t : Token) : Bool :=
  match t.kind with
  | .name text => Ascii.upper text == word
  | _ => false

def isSymbol (c : Char) (t : Token) : Bool := t.kind == .symbol c

def keyword (word : String) : Reader Unit := do
  if (← peek?).any (isKeyword word) then skip else fail

def keyword? (word : String) : Reader Bool := do
  if (← peek?).any (isKeyword word) then
    skip
    pure true
  else pure false

def symbol (c : Char) : Reader Unit := do
  if (← peek?).any (isSymbol c) then skip else fail

def symbol? (c : Char) : Reader Bool := do
  if (← peek?).any (isSymbol c) then
    skip
    pure true
  else pure false

def reserved : List String :=
  ["SELECT", "FROM", "WHERE", "AS", "INSERT", "INTO", "VALUES", "UPDATE", "SET", "DELETE", "CREATE",
    "TABLE", "AND", "OR", "NOT", "NULL", "IN", "IS", "ORDER", "GROUP", "LIMIT", "JOIN", "ON",
    "DISTINCT", "UNION", "CASE", "WHEN", "THEN", "ELSE"]

def name : Reader String := do
  match ← peek? with
  | some ⟨.name text, _, _⟩ =>
    if reserved.contains (Ascii.upper text) then fail
    else
      skip
      pure text
  | some ⟨.quotedName text, _, _⟩ =>
    skip
    pure text
  | _ => fail

/-- One item or more, divided by commas. -/
def commaSeparated {α : Type} (item : Reader α) : (fuel : Nat) → Reader (List α)
  | 0 => fail
  | fuel + 1 => do
    let first ← item
    if ← symbol? ',' then return first :: (← commaSeparated item fuel) else return [first]

/-- Items between parentheses. -/
def listOf {α : Type} (item : Reader α) : Reader (List α) := do
  symbol '('
  let items ← commaSeparated item (← get).length
  symbol ')'
  pure items

def negate : Cell → Cell
  | .integer i => .integer (-i)
  | .real x => .real ⟨x.bits ^^^ 0x8000000000000000⟩
  | cell => cell

/-- A number, signed or not. -/
def number (negative : Bool) : Reader Operand := do
  match ← peek? with
  | some ⟨.number cell, _, _⟩ =>
    skip
    pure (.cell (if negative then negate cell else cell))
  | _ => fail

/-- Bytes between parentheses that are to be taken as text. -/
def castToText : Reader Operand := do
  symbol '('
  match ← peek? with
  | some ⟨.blob bytes, _, _⟩ =>
    skip
    keyword "AS"
    keyword "TEXT"
    symbol ')'
    pure (.cell (.text bytes))
  | _ => fail

def operand : Reader Operand := do
  match ← peek? with
  | some ⟨.text s, _, _⟩ =>
    skip
    pure (.cell (.ofText s))
  | some ⟨.blob bytes, _, _⟩ =>
    skip
    pure (.cell (.blob bytes))
  | some ⟨.placeholder, spelling, _⟩ =>
    skip
    pure (.placeholder spelling)
  | some ⟨.symbol '-', _, _⟩ =>
    skip
    number true
  | some ⟨.symbol '+', _, _⟩ =>
    skip
    number false
  | some ⟨.number _, _, _⟩ => number false
  | some t =>
    if isKeyword "NULL" t then
      skip
      pure (.cell .null)
    else if isKeyword "CAST" t then
      skip
      castToText
    else return .column (← name) t.offset
  | none => fail

def equality : Reader (Operand × Operand) := do
  let left ← operand
  symbol '='
  let _ ← symbol? '='
  return (left, ← operand)

/-- Equalities joined by `AND`. -/
def conjunction : (fuel : Nat) → Reader Condition
  | 0 => fail
  | fuel + 1 => do
    let first ← equality
    if ← keyword? "AND" then return first :: (← conjunction fuel) else return [first]

def condition : Reader Condition := do
  if ← keyword? "WHERE" then conjunction (← get).length else return []

/-- The spelling of the tokens that a reader took, as they stand in the text. -/
def spelling (before after : List Token) : String :=
  String.join ((before.take (before.length - after.length)).map (·.spelling))

def resultItem : Reader ResultItem := do
  let before ← get
  let value ← operand
  let spelling := spelling before (← get)
  if ← keyword? "AS" then return ⟨value, some (← name), spelling⟩
  else
    match ← peek? with
    | some ⟨.name text, _, _⟩ =>
      if reserved.contains (Ascii.upper text) then return ⟨value, none, spelling⟩
      else
        skip
        return ⟨value, some text, spelling⟩
    | _ => return ⟨value, none, spelling⟩

def projection : Reader Projection := do
  if ← symbol? '*' then return .all
  else return .items (← commaSeparated resultItem (← get).length)

def select : Reader Statement := do
  let projection ← projection
  let table ← if ← keyword? "FROM" then some <$> name else pure none
  return .select projection table (← condition)

def createTable : Reader Statement := do
  keyword "TABLE"
  let table ← name
  return .createTable table (← listOf name)

def insert : Reader Statement := do
  keyword "INTO"
  let table ← name
  let columns ← if (← peek?).any (isSymbol '(') then some <$> listOf name else pure none
  keyword "VALUES"
  return .insert table columns (← listOf operand)

def assignment : Reader (String × Operand) := do
  let column ← name
  symbol '='
  return (column, ← operand)

def update : Reader Statement := do
  let table ← name
  keyword "SET"
  let assignments ← commaSeparated assignment (← get).length
  return .update table assignments (← condition)

def delete : Reader Statement := do
  keyword "FROM"
  let table ← name
  return .delete table (← condition)

def statement : Reader Statement := do
  if ← keyword? "SELECT" then select
  else if ← keyword? "INSERT" then insert
  else if ← keyword? "UPDATE" then update
  else if ← keyword? "DELETE" then delete
  else if ← keyword? "CREATE" then createTable
  else fail

/-- A statement and its end: a semicolon, or the end of the text. -/
def whole : Reader Statement := do
  let s ← statement
  match ← peek? with
  | none => pure s
  | some _ =>
    symbol ';'
    pure s

end Reader

/-- The placeholders among tokens, in the order of the text. -/
def placeholders (tokens : List Token) : Placeholders :=
  (tokens.filter (·.kind == .placeholder)).foldl (fun p t => p.add t.spelling) .empty

/-- The first statement of a text, and whether another one follows it. -/
structure Reading where
  statement : Statement
  placeholders : Placeholders
  hasMore : Bool
  deriving DecidableEq

def read (sql : String) : Except PrepareError Reading := do
  let tokens ← Token.ofText sql
  let (statement, rest) ← Reader.whole.run tokens
  pure ⟨statement, placeholders (tokens.take (tokens.length - rest.length)),
    rest.any fun t => t.kind != .symbol ';'⟩

end Statement

end StatementGate.Store
