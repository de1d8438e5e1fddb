import StatementGate.Json.Basic

/-! # TOML documents

Documents of nested tables. Where a table was opened decides what may still be added to it: a
header opens a table once, dotted keys extend only tables that dotted keys opened, and nothing
extends an inline table. -/

namespace StatementGate.Toml

/-- What opened a table: a header of its own, a longer header, a dotted key, or braces. -/
inductive Opening where
  | header | implied | dotted | inline
  deriving DecidableEq

/-- A date, a time of the day or both are moments, and kept as they are written. The tables of an
array of tables come with the latest first. -/
inductive Value where
  | string (text : String)
  | integer (value : Int)
  | float (value : Binary64)
  | boolean (value : Bool)
  | moment (text : String)
  | array (items : List Value)
  | table (opening : Opening) (entries : List (String × Value))
  | tables (latest : List (String × Value)) (earlier : List (List (String × Value)))

abbrev Entries := List (String × Value)

/-- A table under change; nothing if the change is refused. -/
abbrev Change := Opening → Entries → Option Entries

/-- Changes the table that a path leads to, and opens what is missing on the way. Of an array of
tables the path takes the latest. -/
def descend (dotted : Bool) (path : List String) (change : Change) : Change :=
  match path with
  | [] => change
  | key :: path => fun _ entries =>
    let inner := descend dotted path change
    match entries.lookup key with
    | none => do
      let opening := if dotted then Opening.dotted else Opening.implied
      pure (StatementGate.Entries.put key (.table opening (← inner opening [])) entries)
    | some (.table opening nested) =>
      if opening = .inline ∨ (dotted ∧ opening = .header) then none
      else do
        pure (StatementGate.Entries.put key (.table opening (← inner opening nested)) entries)
    | some (.tables latest earlier) => do
      pure (StatementGate.Entries.put key (.tables (← inner .header latest) earlier) entries)
    | some _ => none

/-- Adds a key that is not there yet. -/
def addKey (key : String) (value : Value) (entries : Entries) : Option Entries :=
  match entries.lookup key with
  | none => some (StatementGate.Entries.put key value entries)
  | some _ => none

/-- Assigns a value to a dotted key. -/
def assign (path : List String) (key : String) (value : Value) : Change :=
  descend true path fun opening entries =>
    if path.isEmpty ∨ opening = .dotted then addKey key value entries else none

/-- Opens the table of a header. -/
def openTable (path : List String) (key : String) : Change :=
  descend false path fun _ entries =>
    match entries.lookup key with
    | none => some (StatementGate.Entries.put key (.table .header []) entries)
    | some (.table .implied nested) =>
      some (StatementGate.Entries.put key (.table .header nested) entries)
    | some _ => none

/-- Opens another table of an array of tables. -/
def openElement (path : List String) (key : String) : Change :=
  descend false path fun _ entries =>
    match entries.lookup key with
    | none => some (StatementGate.Entries.put key (.tables [] []) entries)
    | some (.tables latest earlier) =>
      some (StatementGate.Entries.put key (.tables [] (latest :: earlier)) entries)
    | some _ => none

mutual

/-- The JSON value of the same structure. A moment is told with its type, since its text alone would
be a string. -/
def Value.toJson : Value → Json
  | .string text => .string text
  | .integer i => .int i
  | .float x => .number (.float x)
  | .boolean b => .bool b
  | .moment text => .object [("type", .string "date-time"), ("value", .string text)]
  | .array items => .array (itemsJson items)
  | .table _ entries => .object (entriesJson entries)
  | .tables latest earlier =>
    .array ((tablesJson earlier).reverse ++ [.object (entriesJson latest)])

def itemsJson : List Value → List Json
  | [] => []
  | v :: rest => v.toJson :: itemsJson rest

def entriesJson : List (String × Value) → List (String × Json)
  | [] => []
  | (key, v) :: rest => (key, v.toJson) :: entriesJson rest

def tablesJson : List (List (String × Value)) → List Json
  | [] => []
  | entries :: rest => .object (entriesJson entries) :: tablesJson rest

end

end StatementGate.Toml
