import StatementGate.Database.Basic
import StatementGate.Store.Cell

/-! # Engines

Queries and executions with named parameters, whatever engine prepares a statement and runs it. A
statement runs only if it has as many parameters as are supplied and each of these is one of them,
with a colon before its name, and a query only if it cannot write. -/

namespace StatementGate.Store

/-- The cells that parameters are bound as, by their spellings in a statement. -/
abbrev Bindings := List (String × Cell)

/-- The cells of a statement's parameters by index, with nothing for one that is not bound. -/
abbrev Slots := List (Option Cell)

/-- What an engine makes of a text, and what it tells of a statement before it runs it. -/
structure Engine (τ : Type) where
  prepare : String → Except DatabaseError τ
  isReadOnly : τ → Bool
  columns : τ → List ColumnOrigin
  parameterCount : τ → Nat
  parameterIndex? : τ → String → Option Nat
  /-- Whether the parameter of an index takes a cell, which may be too large. -/
  accept : τ → Nat → Cell → Except DatabaseError Unit

/-- The spelling of a parameter in a statement. -/
def placeholderOf (parameter : String) : String := ":" ++ parameter

/-- The cells that parameters are bound as; every name has to be a plain identifier. -/
def bindValues (parameters : Parameters) : Except DatabaseError Bindings :=
  parameters.entries.mapM fun (name, value) =>
    if isPlainIdentifier name then .ok (placeholderOf name, Cell.ofScalar value)
    else .error (.invalidParameter name)

def checkCount (expected supplied : Nat) : Except DatabaseError Unit :=
  if expected = supplied then .ok () else .error (.parameterCount expected supplied)

def unknownPlaceholder (spelling : String) : DatabaseError :=
  .backend s!"Invalid parameter name: {spelling}"

/-- Refuses the first result name that an earlier result has. -/
def checkDistinct : (seen : List String) → List String → Except DatabaseError Unit
  | _, [] => .ok ()
  | seen, name :: rest =>
    if seen.contains name then .error (.duplicateColumn name)
    else checkDistinct (name :: seen) rest

/-- The value of a cell on the wire. -/
def cellValue (column : String) : Cell → Except DatabaseError Value
  | .null => .ok .null
  | .integer i => .ok (.integer i)
  | .real x => .ok (.float x)
  | .text bytes =>
    match Utf8.decode bytes with
    | .ok s => .ok (.string s)
    | .error _ => .error (.unsupportedColumn column "non-utf8 text")
  | .blob _ => .error (.unsupportedColumn column "blob")

def rowOf (columns : List ColumnOrigin) (cells : List Cell) : Except DatabaseError Row := do
  let entries ← (columns.zip cells).mapM fun (column, cell) => do
    pure (column.name, ← cellValue column.name cell)
  pure (Entries.ofList entries)

namespace Engine

variable {τ σ : Type}

/-- Binds one value to the parameter of its spelling. -/
def bind (e : Engine τ) (statement : τ) (slots : Slots) :
    String × Cell → Except DatabaseError Slots
  | (spelling, cell) =>
    match e.parameterIndex? statement spelling with
    | none => .error (unknownPlaceholder spelling)
    | some i => do
      e.accept statement i cell
      pure (slots.set i (some cell))

/-- Binds values one after the other to a statement that has none bound. -/
def bindAll (e : Engine τ) (statement : τ) (bindings : Bindings) : Except DatabaseError Slots :=
  bindings.foldlM (e.bind statement) (List.replicate (e.parameterCount statement) none)

/-- What comes before a query runs: its statement, with the parameters bound. -/
def readyToQuery (e : Engine τ) (sql : String) (parameters : Parameters) :
    Except DatabaseError (τ × Slots) := do
  let bindings ← bindValues parameters
  let statement ← e.prepare sql
  if !e.isReadOnly statement then throw .notReadOnly
  checkCount (e.parameterCount statement) bindings.length
  checkDistinct [] ((e.columns statement).map (·.name))
  pure (statement, ← e.bindAll statement bindings)

/-- What comes before an execution runs. -/
def readyToExecute (e : Engine τ) (sql : String) (parameters : Parameters) :
    Except DatabaseError (τ × Slots) := do
  let bindings ← bindValues parameters
  let statement ← e.prepare sql
  checkCount (e.parameterCount statement) bindings.length
  pure (statement, ← e.bindAll statement bindings)

/-- The output of a query whose statement answers with rows, up to an error if there is one. -/
def output (e : Engine τ) (statement : τ) (answer : List (Except DatabaseError (List Cell))) :
    Except DatabaseError QueryOutput := do
  let columns := e.columns statement
  let rows ← answer.mapM fun cells => do rowOf columns (← cells)
  pure ⟨columns, rows⟩

/-- Queries with a given way to run statements. -/
def query (e : Engine τ) (run : τ → Slots → List (Except DatabaseError (List Cell)))
    (sql : String) (parameters : Parameters) : Except DatabaseError QueryOutput := do
  let (statement, slots) ← e.readyToQuery sql parameters
  e.output statement (run statement slots)

/-- Executes with a given way to run statements in a state, which stays as it is if none runs. -/
def execute (e : Engine τ) (run : σ → τ → Slots → Except DatabaseError Nat × σ) (state : σ)
    (sql : String) (parameters : Parameters) : Except DatabaseError Nat × σ :=
  match e.readyToExecute sql parameters with
  | .error error => (.error error, state)
  | .ok (statement, slots) => run state statement slots

end Engine

end StatementGate.Store
