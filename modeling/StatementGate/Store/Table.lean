import StatementGate.Store.Statement

/-! # Tables

Tables in memory: preparing a statement against them and running it with its placeholders bound.
Names of tables and columns are compared without regard to ASCII case. -/

namespace StatementGate.Store

structure Table where
  name : String
  columns : List String
  rows : List (List Cell)
  deriving DecidableEq

abbrev Tables := List Table

namespace Table

def column? (t : Table) (name : String) : Option Nat :=
  t.columns.findIdx? (Ascii.equalsIgnoringCase name)

/-- The value of an operand in a row; that of an unbound placeholder is null. -/
def value (t : Table) (bindings : Bindings) (row : List Cell) : Operand → Cell
  | .cell value => value
  | .placeholder spelling => ((bindings.lookup spelling).getD .null).seen
  | .column name _ => ((t.column? name).bind fun i => row[i]?).getD .null

def satisfies (t : Table) (bindings : Bindings) (condition : Condition) (row : List Cell) : Bool :=
  condition.all fun (l, r) => (t.value bindings row l).equals (t.value bindings row r)

/-- The table of a statement that names none: one row without columns. -/
def single : Table := ⟨"", [], [[]]⟩

end Table

/-- A result of a prepared query: its name and origin, and the operand that it shows. -/
structure ResultColumn where
  origin : ColumnOrigin
  operand : Operand
  deriving DecidableEq

/-- A statement whose names are resolved. -/
inductive Prepared where
  | createTable (table : Table)
  | select (table : Table) (results : List ResultColumn) (condition : Condition)
  | insert (table : Table) (values : List Operand)
  | update (table : Table) (assignments : List (Nat × Operand)) (condition : Condition)
  | delete (table : Table) (condition : Condition)
  deriving DecidableEq

namespace Prepared

def isReadOnly : Prepared → Bool
  | .select .. => true
  | _ => false

def results : Prepared → List ResultColumn
  | .select _ results _ => results
  | _ => []

end Prepared

namespace Tables

def find? (tables : Tables) (name : String) : Option Table :=
  List.find? (fun t => Ascii.equalsIgnoringCase name t.name) tables

def noSuchTable (name : String) : PrepareError := ⟨s!"no such table: {name}", none⟩

def noSuchColumn (name : String) (offset : Option Nat) : PrepareError :=
  ⟨s!"no such column: {name}", offset⟩

def table (tables : Tables) (name : String) : Except PrepareError Table :=
  match tables.find? name with
  | some t => .ok t
  | none => .error (noSuchTable name)

/-- Refuses an operand that names a column the table does not have. -/
def checkOperand (t : Table) : Operand → Except PrepareError Unit
  | .column name offset =>
    if (t.column? name).isSome then .ok () else .error (noSuchColumn name (some offset))
  | _ => .ok ()

def checkCondition (t : Table) (condition : Condition) : Except PrepareError Unit :=
  condition.forM fun (l, r) => do
    checkOperand t l
    checkOperand t r

/-- The origin of a column: its names in the table. -/
def columnOrigin? (t : Table) : Operand → Option (String × String)
  | .column name _ => do
    let i ← t.column? name
    pure (t.name, ← t.columns[i]?)
  | _ => none

def resultColumn (t : Table) (item : ResultItem) : ResultColumn :=
  match columnOrigin? t item.operand with
  | some (table, column) =>
    ⟨⟨item.alias?.getD column, some table, some column⟩, item.operand⟩
  | none => ⟨⟨item.alias?.getD item.spelling, none, none⟩, item.operand⟩

def allColumns (t : Table) : List ResultColumn :=
  t.columns.map fun column => ⟨⟨column, some t.name, some column⟩, .column column 0⟩

/-- The operands of an insertion in the order of the table's columns; null where none is given. -/
def insertValues (t : Table) (columns : List String) (values : List Operand) : List Operand :=
  t.columns.map fun column =>
    (((columns.map Ascii.lower).zip values).lookup (Ascii.lower column)).getD (.cell .null)

def prepare (tables : Tables) : Statement → Except PrepareError Prepared
  | .createTable name columns =>
    match tables.find? name with
    | some t => .error ⟨s!"table {t.name} already exists", none⟩
    | none => .ok (.createTable ⟨name, columns, []⟩)
  | .select projection name condition => do
    let t ← match name with
      | some name => tables.table name
      | none => pure Table.single
    let results ← match projection with
      | .all =>
        if name.isSome then pure (allColumns t) else throw ⟨"no tables specified", none⟩
      | .items items => do
        items.forM fun item => checkOperand t item.operand
        pure (items.map (resultColumn t))
    checkCondition t condition
    pure (.select t results condition)
  | .insert name columns values => do
    let t ← tables.table name
    let given := columns.getD t.columns
    match given.find? fun column => (t.column? column).isNone with
    | some column => throw ⟨s!"table {t.name} has no column named {column}", none⟩
    | none => pure ()
    values.forM (checkOperand Table.single)
    if values.length ≠ given.length then
      throw (if columns.isSome then ⟨s!"{values.length} values for {given.length} columns", none⟩
        else ⟨s!"table {t.name} has {given.length} columns but {values.length} values were supplied",
          none⟩)
    else pure (.insert t (insertValues t given values))
  | .update name assignments condition => do
    let t ← tables.table name
    let assignments ← assignments.mapM fun (column, operand) => do
      checkOperand t operand
      match t.column? column with
      | some i => pure (i, operand)
      | none => throw (noSuchColumn column none)
    checkCondition t condition
    pure (.update t assignments condition)
  | .delete name condition => do
    let t ← tables.table name
    checkCondition t condition
    pure (.delete t condition)

/-- Replaces the table of the same name, or adds it. -/
def put (tables : Tables) (t : Table) : Tables :=
  if List.any tables (·.name == t.name) then
    List.map (fun other => if other.name == t.name then t else other) tables
  else tables ++ [t]

/-- The rows of a query. -/
def select (t : Table) (results : List ResultColumn) (condition : Condition) (bindings : Bindings) :
    List (List Cell) :=
  (t.rows.filter (t.satisfies bindings condition)).map fun row =>
    results.map fun result => t.value bindings row result.operand

def assign (t : Table) (assignments : List (Nat × Operand)) (bindings : Bindings)
    (row : List Cell) : List Cell :=
  assignments.foldl (fun changed (i, operand) => changed.set i (t.value bindings row operand)) row

/-- Runs a statement that changes tables: the number of rows it changed, unless it changes none by
its nature. -/
def run (tables : Tables) (bindings : Bindings) : Prepared → Option Nat × Tables
  | .createTable t => (none, tables.put t)
  | .select .. => (none, tables)
  | .insert t values =>
    let row := values.map (Table.single.value bindings [])
    (some 1, tables.put { t with rows := t.rows ++ [row] })
  | .update t assignments condition =>
    let rows := t.rows.map fun row =>
      if t.satisfies bindings condition row then assign t assignments bindings row else row
    (some (t.rows.countP (t.satisfies bindings condition)), tables.put { t with rows })
  | .delete t condition =>
    let rows := t.rows.filter fun row => !t.satisfies bindings condition row
    (some (t.rows.length - rows.length), tables.put { t with rows })

end Tables

end StatementGate.Store
