import StatementGate.Query.Condition

/-! # Statements

Builders for the four kinds of statements and their serialization: the text with numbered
placeholders, and the values of the placeholders by name. -/

namespace StatementGate

inductive JoinKind where
  | inner | left
  deriving DecidableEq

def JoinKind.keywords : JoinKind → List String
  | .inner => ["INNER", "JOIN"]
  | .left => ["LEFT", "JOIN"]

inductive Direction where
  | ascending | descending
  deriving DecidableEq

def Direction.keyword : Direction → String
  | .ascending => "ASC"
  | .descending => "DESC"

structure Join where
  kind : JoinKind
  entity : Entity
  on : Predicate

/-- A statement's text, with the value of each placeholder. -/
structure SerializedQuery where
  sql : String
  parameters : Parameters
  kind : StatementKind
  entity : String

namespace SerializedQuery

def ofPieces (pieces : Pieces) (kind : StatementKind) (entity : Entity) : SerializedQuery :=
  ⟨Piece.text pieces, Piece.parameters pieces, kind, entity.name⟩

def writeIntent (q : SerializedQuery) : Bool := q.kind.isWrite

def encode (q : SerializedQuery) : Except ScalarError Json := do
  let parameters ← q.parameters.encode
  pure (.object [("entity", .string q.entity), ("parameters", parameters),
    ("sqlText", .string q.sql), ("statement", .string q.kind.label)])

end SerializedQuery

/-- The largest number of rows a page may have or skip. -/
def maxPaging : Nat := UInt64.size / 2 - 1

def pagingPieces (keyword : String) : Option Nat → Except QueryError Pieces
  | none => .ok []
  | some n =>
    if n ≤ maxPaging then
      .ok (Piece.phrase [keyword] ++ [.bind (.int (Int64.ofInt n))])
    else .error (.invalidPaging n)

def wherePieces (scope : Scope) : Option Predicate → Except QueryError Pieces
  | none => .ok []
  | some p => do pure (Piece.phrase ["WHERE"] ++ (← p.render scope))

def columnList (scope : Scope) (refs : List ColumnRef) : Except QueryError Pieces := do
  pure (Piece.separated Piece.comma (← refs.mapM scope.column))

structure Select where
  entity : Entity
  columns : Option (List String)
  joins : List Join
  predicate : Option Predicate
  order : List (String × Direction)
  limit : Option Nat
  offset : Option Nat

namespace Select

def of (entity : Entity) : Select := ⟨entity, none, [], none, [], none, none⟩

def project (s : Select) (columns : List String) : Select := { s with columns := some columns }

def filter (s : Select) (p : Predicate) : Select :=
  { s with predicate := Predicate.conjoin s.predicate p }

def join (s : Select) (kind : JoinKind) (entity : Entity) (on : Predicate) : Select :=
  { s with joins := s.joins ++ [⟨kind, entity, on⟩] }

def orderBy (s : Select) (column : String) (direction : Direction) : Select :=
  { s with order := s.order ++ [(column, direction)] }

def withLimit (s : Select) (n : Nat) : Select := { s with limit := some n }

def withOffset (s : Select) (n : Nat) : Select := { s with offset := some n }

/-- The first name that occurs a second time. -/
def firstRepeated : (seen : List String) → List String → Option String
  | _, [] => none
  | seen, name :: rest =>
    if seen.contains name then some name else firstRepeated (name :: seen) rest

/-- An explicit projection has columns, and their names differ. -/
def projection (s : Select) (columns : List String) :
    Except QueryError (List ColumnRef) := do
  if columns.isEmpty then throw (.emptyProjection s.entity.name)
  let refs := columns.map ColumnRef.parse
  match firstRepeated [] (refs.map (·.name)) with
  | some name => throw (.duplicateOutputColumn name)
  | none => pure refs

/-- Without a projection all columns of the target are selected, under their table's name when
others are joined. -/
def outputPieces (s : Select) (scope : Scope) : Except QueryError Pieces :=
  match s.columns with
  | some columns => do columnList scope (← s.projection columns)
  | none =>
    if s.joins.isEmpty then
      .ok (Piece.separated Piece.comma (s.entity.columns.map fun c => [.word c]))
    else columnList scope (s.entity.columns.map fun c => ⟨some s.entity.table, c⟩)

def joinPieces (scope : Scope) (j : Join) : Except QueryError Pieces := do
  pure (Piece.phrase j.kind.keywords ++ .word j.entity.table :: Piece.phrase ["ON"] ++
    (← j.on.render scope))

def orderPieces (s : Select) (scope : Scope) : Except QueryError Pieces :=
  if s.order.isEmpty then .ok []
  else do
    let keys ← s.order.mapM fun (column, direction) => do
      let column ← scope.column (ColumnRef.parse column)
      pure (column ++ [.space, .word direction.keyword])
    pure (Piece.phrase ["ORDER", "BY"] ++ Piece.separated Piece.comma keys)

def pieces (s : Select) : Except QueryError Pieces := do
  let scope ← Scope.ofEntities s.entity (s.joins.map (·.entity))
  let output ← s.outputPieces scope
  let joins ← s.joins.mapM (joinPieces scope)
  let condition ← wherePieces scope s.predicate
  let order ← s.orderPieces scope
  let limit ← pagingPieces "LIMIT" s.limit
  let offset ← pagingPieces "OFFSET" s.offset
  pure (.word "SELECT" :: .space :: output ++ Piece.phrase ["FROM"] ++
    .word s.entity.table :: joins.flatten ++ condition ++ order ++ limit ++ offset)

def serialize (s : Select) : Except QueryError SerializedQuery := do
  pure (.ofPieces (← s.pieces) .select s.entity)

end Select

structure Insert where
  entity : Entity
  values : List (String × Scalar)

namespace Insert

def of (entity : Entity) : Insert := ⟨entity, []⟩

def value (s : Insert) (column : String) (v : Scalar) : Insert :=
  { s with values := s.values ++ [(column, v)] }

def pieces (s : Insert) : Except QueryError Pieces := do
  let scope ← Scope.ofEntities s.entity []
  if s.values.isEmpty then throw (.noAssignments .insert s.entity.name)
  scope.checkAssignments [] s.values
  let columns ← columnList scope (s.values.map fun (column, _) => ColumnRef.parse column)
  let values := Piece.separated Piece.comma (s.values.map fun (_, v) => [.bind v])
  pure (Piece.words ["INSERT", "INTO", s.entity.table] ++
    .space :: Piece.parenthesized columns ++ Piece.phrase ["VALUES"] ++
    Piece.parenthesized values)

def serialize (s : Insert) : Except QueryError SerializedQuery := do
  pure (.ofPieces (← s.pieces) .insert s.entity)

end Insert

structure Update where
  entity : Entity
  assignments : List (String × Scalar)
  predicate : Option Predicate
  allRows : Bool

namespace Update

def of (entity : Entity) : Update := ⟨entity, [], none, false⟩

def set (s : Update) (column : String) (v : Scalar) : Update :=
  { s with assignments := s.assignments ++ [(column, v)] }

def filter (s : Update) (p : Predicate) : Update :=
  { s with predicate := Predicate.conjoin s.predicate p }

/-- Permits the statement to go without a condition. -/
def allowAllRows (s : Update) : Update := { s with allRows := true }

def pieces (s : Update) : Except QueryError Pieces := do
  let scope ← Scope.ofEntities s.entity []
  if s.assignments.isEmpty then throw (.noAssignments .update s.entity.name)
  if s.predicate.isNone && !s.allRows then throw (.unboundedMutation .update s.entity.name)
  scope.checkAssignments [] s.assignments
  let assignments ← s.assignments.mapM fun (column, v) => do
    let column ← scope.column (ColumnRef.parse column)
    pure (column ++ [.space, .symbol "=", .space, .bind v])
  let condition ← wherePieces scope s.predicate
  pure (Piece.words ["UPDATE", s.entity.table] ++ Piece.phrase ["SET"] ++
    Piece.separated Piece.comma assignments ++ condition)

def serialize (s : Update) : Except QueryError SerializedQuery := do
  pure (.ofPieces (← s.pieces) .update s.entity)

end Update

structure Delete where
  entity : Entity
  predicate : Option Predicate
  allRows : Bool

namespace Delete

def of (entity : Entity) : Delete := ⟨entity, none, false⟩

def filter (s : Delete) (p : Predicate) : Delete :=
  { s with predicate := Predicate.conjoin s.predicate p }

/-- Permits the statement to go without a condition. -/
def allowAllRows (s : Delete) : Delete := { s with allRows := true }

def pieces (s : Delete) : Except QueryError Pieces := do
  let scope ← Scope.ofEntities s.entity []
  if s.predicate.isNone && !s.allRows then throw (.unboundedMutation .delete s.entity.name)
  let condition ← wherePieces scope s.predicate
  pure (Piece.words ["DELETE", "FROM", s.entity.table] ++ condition)

def serialize (s : Delete) : Except QueryError SerializedQuery := do
  pure (.ofPieces (← s.pieces) .delete s.entity)

end Delete

end StatementGate
