import StatementGate.Query.Expr
import StatementGate.Text.Ascii

/-! # Tables in scope

The tables of a statement, its target first, and the resolution of column references against them. -/

namespace StatementGate

/-- A kind of record and the table that holds it. -/
structure Entity where
  name : String
  table : String
  columns : List String
  deriving DecidableEq

inductive StatementKind where
  | select | insert | update | delete
  deriving DecidableEq

namespace StatementKind

def keyword : StatementKind → String
  | .select => "SELECT"
  | .insert => "INSERT"
  | .update => "UPDATE"
  | .delete => "DELETE"

def label : StatementKind → String
  | .select => "select"
  | .insert => "insert"
  | .update => "update"
  | .delete => "delete"

def isWrite (kind : StatementKind) : Bool := kind != .select

end StatementKind

inductive QueryError where
  | invalidIdentifier (text : String)
  | unknownColumn (entity column : String)
  | unknownTable (table : String)
  | nullComparison
  | nullInList
  | unsupportedFunction (name : String)
  | functionArity (name expected : String) (found : Nat)
  | unsupportedWindow (name : String)
  | unboundedMutation (kind : StatementKind) (entity : String)
  | noAssignments (kind : StatementKind) (entity : String)
  | duplicateAssignment (column : String)
  | ambiguousColumn (column first second : String)
  | duplicateOutputColumn (column : String)
  | emptyProjection (entity : String)
  | invalidPaging (value : Nat)
  deriving DecidableEq

namespace QueryError

def message : QueryError → String
  | .invalidIdentifier text => s!"invalid identifier: {text}"
  | .unknownColumn entity column => s!"column {column} is not declared on {entity}"
  | .unknownTable table => s!"table {table} is not part of this statement"
  | .nullComparison => "comparison with null literal; use is_null() or is_not_null() instead"
  | .nullInList => "null literal in IN list; combine with is_null() instead"
  | .unsupportedFunction name => s!"unsupported function: {name}"
  | .functionArity name expected found =>
    s!"function {name} expects {expected} arguments, got {found}"
  | .unsupportedWindow name => s!"unsupported construct: window function {name}"
  | .unboundedMutation kind entity =>
    s!"{kind.keyword} on {entity} has no predicate; call allow_all_rows() to affect every row"
  | .noAssignments kind entity => s!"{kind.keyword} on {entity} assigns no columns"
  | .duplicateAssignment column => s!"column {column} is assigned twice"
  | .ambiguousColumn column first second =>
    s!"column {column} is ambiguous between {first} and {second}; qualify it with a table"
  | .duplicateOutputColumn column => s!"result column {column} is selected twice"
  | .emptyProjection entity => s!"SELECT on {entity} projects no columns"
  | .invalidPaging value => s!"paging value out of range: {value}"

end QueryError

def checkIdentifier (s : String) : Except QueryError Unit :=
  if isPlainIdentifier s then .ok () else .error (.invalidIdentifier s)

/-- The target of a statement and the tables joined to it, all with plain identifiers. -/
structure Scope where
  target : Entity
  joined : List Entity

namespace Scope

def checkEntity (e : Entity) : Except QueryError Unit := do
  checkIdentifier e.table
  e.columns.forM checkIdentifier

def ofEntities (target : Entity) (joined : List Entity) : Except QueryError Scope := do
  checkEntity target
  joined.forM checkEntity
  pure ⟨target, joined⟩

def tables (scope : Scope) : List Entity := scope.target :: scope.joined

def isJoined (scope : Scope) : Bool := !scope.joined.isEmpty

/-- The table of a qualified column: the first one in scope of that name. -/
def resolveIn (scope : Scope) (table column : String) : Except QueryError String :=
  match scope.tables.find? (·.table == table) with
  | none => .error (.unknownTable table)
  | some e =>
    if e.columns.contains column then .ok e.table else .error (.unknownColumn e.name column)

/-- The only table that declares an unqualified column. -/
def resolveBare (scope : Scope) (column : String) : Except QueryError String :=
  match scope.tables.filter (·.columns.contains column) with
  | [] => .error (.unknownColumn scope.target.name column)
  | [e] => .ok e.table
  | first :: second :: _ => .error (.ambiguousColumn column first.table second.table)

/-- The table a column belongs to. -/
def resolve (scope : Scope) (ref : ColumnRef) : Except QueryError String := do
  checkIdentifier ref.name
  match ref.table with
  | none => scope.resolveBare ref.name
  | some table => do
    checkIdentifier table
    scope.resolveIn table ref.name

/-- Assignments name distinct columns of the target without a table. -/
def checkAssignments (scope : Scope) : (seen : List String) → List (String × Scalar) →
    Except QueryError Unit
  | _, [] => .ok ()
  | seen, (column, _) :: rest => do
    let ref := ColumnRef.parse column
    if ref.table.isSome then throw (.invalidIdentifier column)
    let _ ← scope.resolve ref
    if seen.contains column then throw (.duplicateAssignment column)
    scope.checkAssignments (column :: seen) rest

end Scope

end StatementGate
