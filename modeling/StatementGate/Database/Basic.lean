import StatementGate.Query.Scalar

/-! # Databases

What a database answers to a statement: rows with the origin of each column, a count of changed
rows, or an error. -/

namespace StatementGate

/-- A result column and where it comes from. -/
structure ColumnOrigin where
  name : String
  table : Option String
  column : Option String
  deriving DecidableEq

structure QueryOutput where
  columns : List ColumnOrigin
  rows : List Row
  deriving Inhabited

inductive DatabaseError where
  | openFailed (reason : String)
  | backend (reason : String)
  | invalidParameter (name : String)
  | parameterCount (expected supplied : Nat)
  | notReadOnly
  | duplicateColumn (column : String)
  | unsupportedColumn (column kind : String)
  deriving DecidableEq

namespace DatabaseError

def message : DatabaseError → String
  | .openFailed reason => s!"database open failed: {reason}"
  | .backend reason => s!"database error: {reason}"
  | .invalidParameter name => s!"invalid parameter name: {name}"
  | .parameterCount expected supplied =>
    s!"statement expects {expected} parameters, {supplied} supplied"
  | .notReadOnly => "statement is not read-only"
  | .duplicateColumn column =>
    s!"result column {column} appears more than once; alias one of them"
  | .unsupportedColumn column kind => s!"column {column} has unsupported type {kind}"

end DatabaseError

/-- A statement sent to a database. -/
structure DatabaseCall where
  databaseId : String
  sql : String
  parameters : Parameters
  deriving DecidableEq

end StatementGate
