import StatementGate.Query.Scalar

/-! # Expressions

Operands and predicates as a caller builds them, before any table is known. Conjunctions and
disjunctions grow to the right: adding to a conjunction extends it. -/

namespace StatementGate

structure ColumnRef where
  table : Option String
  name : String
  deriving DecidableEq

namespace ColumnRef

/-- `table.name` or `name`, split at the first dot. -/
def parse (s : String) : ColumnRef :=
  let chars := s.toList
  match chars.dropWhile (· != '.') with
  | [] => ⟨none, s⟩
  | _ :: name => ⟨some (String.ofList (chars.takeWhile (· != '.'))), String.ofList name⟩

end ColumnRef

inductive Operand where
  | column (ref : ColumnRef)
  | literal (value : Scalar)
  | function (name : String) (arguments : List Operand)
  | window (name : String) (partition : List ColumnRef)
  deriving Inhabited

inductive CompareOp where
  | eq | ne | lt | le | gt | ge | like
  deriving DecidableEq

def CompareOp.symbol : CompareOp → String
  | .eq => "="
  | .ne => "<>"
  | .lt => "<"
  | .le => "<="
  | .gt => ">"
  | .ge => ">="
  | .like => "LIKE"

inductive Predicate where
  | compare (left : Operand) (op : CompareOp) (right : Operand)
  | member (operand : Operand) (values : List Scalar) (negated : Bool)
  | isNull (operand : Operand) (negated : Bool)
  | all (items : List Predicate)
  | any (items : List Predicate)
  | not (inner : Predicate)
  deriving Inhabited

namespace Operand

/-- The operand as a window function over a partition. -/
def windowed (operand : Operand) (partition : List String) : Operand :=
  let name := match operand with
    | .function name _ | .window name _ => name
    | .column ref => ref.name
    | .literal _ => "literal"
  .window name (partition.map ColumnRef.parse)

def isNullLiteral : Operand → Bool
  | .literal .null => true
  | _ => false

mutual

/-- The columns an operand reads, from left to right. -/
def columns : Operand → List ColumnRef
  | .column ref => [ref]
  | .literal _ => []
  | .function _ arguments => columnsOfAll arguments
  | .window _ partition => partition

def columnsOfAll : List Operand → List ColumnRef
  | [] => []
  | operand :: rest => columns operand ++ columnsOfAll rest

end

end Operand

namespace Predicate

def and (first second : Predicate) : Predicate :=
  match first with
  | .all items => .all (items ++ [second])
  | first => .all [first, second]

def or (first second : Predicate) : Predicate :=
  match first with
  | .any items => .any (items ++ [second])
  | first => .any [first, second]

def negate (p : Predicate) : Predicate := .not p

mutual

def columns : Predicate → List ColumnRef
  | .compare left _ right => left.columns ++ right.columns
  | .member operand _ _ => operand.columns
  | .isNull operand _ => operand.columns
  | .all items | .any items => columnsOfAll items
  | .not inner => columns inner

def columnsOfAll : List Predicate → List ColumnRef
  | [] => []
  | p :: rest => columns p ++ columnsOfAll rest

end

/-- Adds a condition to those already given. -/
def conjoin : Option Predicate → Predicate → Option Predicate
  | none, p => some p
  | some first, p => some (first.and p)

end Predicate

end StatementGate
