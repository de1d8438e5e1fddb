import StatementGate.Query.Piece
import StatementGate.Query.Scope

/-! # Conditions

Rendering of operands and predicates. Rendering stops at the first thing that has no place in a
statement; an operand of an empty list test is checked without being rendered. -/

namespace StatementGate

/-- The scalar functions of conditions. -/
inductive SqlFunction where
  | lower | upper | length | coalesce
  deriving DecidableEq

namespace SqlFunction

def ofName? (name : String) : Option SqlFunction :=
  let name := Ascii.lower name
  if name = "lower" then some .lower
  else if name = "upper" then some .upper
  else if name = "length" then some .length
  else if name = "coalesce" then some .coalesce
  else none

def keyword : SqlFunction → String
  | .lower => "LOWER"
  | .upper => "UPPER"
  | .length => "LENGTH"
  | .coalesce => "COALESCE"

def accepts : SqlFunction → (count : Nat) → Bool
  | .coalesce, count => 2 ≤ count
  | _, count => count == 1

def arity : SqlFunction → String
  | .coalesce => "at least 2"
  | _ => "exactly 1"

/-- The function of a call with `count` arguments. -/
def ofCall (name : String) (count : Nat) : Except QueryError SqlFunction :=
  match ofName? name with
  | none => .error (.unsupportedFunction name)
  | some f =>
    if f.accepts count then .ok f else .error (.functionArity name f.arity count)

end SqlFunction

/-- A column, with its table where the reference names it or several tables are in scope. -/
def Scope.column (scope : Scope) (ref : ColumnRef) : Except QueryError Pieces := do
  let table ← scope.resolve ref
  if ref.table.isSome || scope.isJoined then pure [.word (table ++ "." ++ ref.name)]
  else pure [.word ref.name]

namespace Operand

mutual

def render (scope : Scope) : Operand → Except QueryError Pieces
  | .column ref => scope.column ref
  | .literal value => .ok [.bind value]
  | .function name arguments => do
    let f ← SqlFunction.ofCall name arguments.length
    let parts ← renderAll scope arguments
    pure (.word f.keyword :: Piece.parenthesized (Piece.separated Piece.comma parts))
  | .window name _ => .error (.unsupportedWindow name)

def renderAll (scope : Scope) : List Operand → Except QueryError (List Pieces)
  | [] => .ok []
  | operand :: rest => do
    let part ← render scope operand
    pure (part :: (← renderAll scope rest))

end

mutual

/-- Whether the operand could be rendered. -/
def check (scope : Scope) : Operand → Except QueryError Unit
  | .column ref => (scope.resolve ref).map fun _ => ()
  | .literal _ => .ok ()
  | .function name arguments => do
    let _ ← SqlFunction.ofCall name arguments.length
    checkAll scope arguments
  | .window name _ => .error (.unsupportedWindow name)

def checkAll (scope : Scope) : List Operand → Except QueryError Unit
  | [] => .ok ()
  | operand :: rest => do
    check scope operand
    checkAll scope rest

end

end Operand

namespace Predicate

/-- A condition that holds of every row, or of none. -/
def constant (truth : Bool) : Pieces :=
  [.word "1", .space, .symbol "=", .space, .word (if truth then "1" else "0")]

def operator : CompareOp → Piece Scalar
  | .like => .word "LIKE"
  | op => .symbol op.symbol

def isJunction : Predicate → Bool
  | .all _ | .any _ => true
  | _ => false

mutual

def render (scope : Scope) : Predicate → Except QueryError Pieces
  | .compare left op right => do
    if left.isNullLiteral || right.isNullLiteral then throw .nullComparison
    let left ← left.render scope
    let right ← right.render scope
    pure (left ++ [.space, operator op, .space] ++ right)
  | .member operand values negated => do
    if values.any Scalar.isNull then throw .nullInList
    if values.isEmpty then
      operand.check scope
      pure (constant negated)
    else
      let operand ← operand.render scope
      let test := if negated then ["NOT", "IN"] else ["IN"]
      let list := Piece.separated Piece.comma (values.map fun v => [.bind v])
      pure (operand ++ Piece.phrase test ++ Piece.parenthesized list)
  | .isNull operand negated => do
    let operand ← operand.render scope
    let test := if negated then ["IS", "NOT", "NULL"] else ["IS", "NULL"]
    pure (operand ++ .space :: Piece.words test)
  | .all items =>
    if items.isEmpty then .ok (constant true)
    else do pure (Piece.separated (Piece.phrase ["AND"]) (← renderItems scope items))
  | .any items =>
    if items.isEmpty then .ok (constant false)
    else do pure (Piece.separated (Piece.phrase ["OR"]) (← renderItems scope items))
  | .not inner => do
    pure (.word "NOT" :: .space :: Piece.parenthesized (← render scope inner))

/-- The items of a junction, with parentheses around inner junctions. -/
def renderItems (scope : Scope) : List Predicate → Except QueryError (List Pieces)
  | [] => .ok []
  | item :: rest => do
    let part ← render scope item
    let part := if item.isJunction then Piece.parenthesized part else part
    pure (part :: (← renderItems scope rest))

end

end Predicate

end StatementGate
