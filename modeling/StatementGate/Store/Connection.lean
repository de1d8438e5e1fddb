import StatementGate.Store.Engine
import StatementGate.Store.Table

/-! # Connections to a store

The tables of a store as an engine, and the queries and executions on a connection to it. -/

namespace StatementGate.Store

/-- A connection remembers how many rows its last change changed. -/
structure Connection where
  readOnly : Bool
  changes : Nat
  deriving DecidableEq

/-- A statement ready to run, and its placeholders. -/
structure Plan where
  prepared : Prepared
  placeholders : Placeholders
  deriving DecidableEq

/-- The rows that a query answers with. -/
def Plan.rows (plan : Plan) (slots : Slots) : List (Except DatabaseError (List Cell)) :=
  match plan.prepared with
  | .select t results condition =>
    (Tables.select t results condition (plan.placeholders.bindings slots)).map .ok
  | _ => []

namespace Tables

/-- The plan of a text; errors in its first statement come before those of what follows. -/
def plan (tables : Tables) (sql : String) : Except DatabaseError Plan :=
  let failed (e : PrepareError) : DatabaseError := .backend (e.message sql)
  match Statement.read sql with
  | .error e => .error (failed e)
  | .ok reading =>
    match tables.prepare reading.statement with
    | .error e => .error (failed e)
    | .ok prepared =>
      if reading.hasMore then .error (.backend "Multiple statements provided")
      else .ok ⟨prepared, reading.placeholders⟩

def engine (tables : Tables) : Engine Plan where
  prepare := tables.plan
  isReadOnly plan := plan.prepared.isReadOnly
  columns plan := plan.prepared.results.map (·.origin)
  parameterCount plan := plan.placeholders.names.length
  parameterIndex? plan spelling := plan.placeholders.names.idxOf? (some spelling)
  accept _ _ _ := .ok ()

def query (tables : Tables) (sql : String) (parameters : Parameters) :
    Except DatabaseError QueryOutput :=
  tables.engine.query Plan.rows sql parameters

def readonlyStore : DatabaseError := .backend "attempt to write a readonly database"

def returnedRows : DatabaseError :=
  .backend "Execute returned results - did you mean to call query?"

/-- Runs a statement on a connection. One that changes no rows by its nature answers with the count
of the change before it. -/
def change (state : Connection × Tables) (plan : Plan) (slots : Slots) :
    Except DatabaseError Nat × Connection × Tables :=
  let (connection, tables) := state
  let bindings := plan.placeholders.bindings slots
  match plan.prepared with
  | .select t results condition =>
    if (select t results condition bindings).isEmpty then (.ok connection.changes, state)
    else (.error returnedRows, state)
  | prepared =>
    if connection.readOnly then (.error readonlyStore, state)
    else
      let (changed, tables) := tables.run bindings prepared
      let count := changed.getD connection.changes
      (.ok count, { connection with changes := count }, tables)

def execute (tables : Tables) (connection : Connection) (sql : String) (parameters : Parameters) :
    Except DatabaseError Nat × Connection × Tables :=
  tables.engine.execute change (connection, tables) sql parameters

end Tables

end StatementGate.Store
