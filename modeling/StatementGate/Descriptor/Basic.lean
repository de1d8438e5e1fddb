/-! # Type descriptors

The types a caller may declare for what comes over the wire, and their canonical text. -/

namespace StatementGate

/-- A type's name within its namespace. -/
structure TypeName where
  space : String
  name : String
  deriving DecidableEq, Inhabited

def TypeName.render (t : TypeName) : String := t.space ++ "." ++ t.name

inductive ScalarKind where
  | string | integer | float | boolean | decimal | dateTime | date | null | absent
  deriving DecidableEq

namespace ScalarKind

def name : ScalarKind → String
  | .string => "str"
  | .integer => "int"
  | .float => "float"
  | .boolean => "bool"
  | .decimal => "Decimal"
  | .dateTime => "datetime"
  | .date => "date"
  | .null => "None"
  | .absent => "Unset"

def ofName? (s : String) : Option ScalarKind :=
  if s = "str" then some .string
  else if s = "int" then some .integer
  else if s = "float" then some .float
  else if s = "bool" then some .boolean
  else if s = "Decimal" then some .decimal
  else if s = "datetime" then some .dateTime
  else if s = "date" then some .date
  else if s = "None" ∨ s = "NoneType" then some .null
  else if s = "Unset" then some .absent
  else none

end ScalarKind

inductive Descriptor where
  | scalar (kind : ScalarKind)
  | optional (inner : Descriptor)
  | list (item : Descriptor)
  | union (alternatives : List Descriptor)
  | named (type : TypeName)
  deriving Inhabited

namespace Descriptor

mutual

def decEq : (a b : Descriptor) → Decidable (a = b)
  | .scalar a, .scalar b => decidable_of_iff (a = b) (by simp)
  | .optional a, .optional b =>
    have := decEq a b
    decidable_of_iff (a = b) (by simp)
  | .list a, .list b =>
    have := decEq a b
    decidable_of_iff (a = b) (by simp)
  | .union a, .union b =>
    have := decEqAll a b
    decidable_of_iff (a = b) (by simp)
  | .named a, .named b => decidable_of_iff (a = b) (by simp)
  | .scalar _, .optional _ | .scalar _, .list _ | .scalar _, .union _ | .scalar _, .named _
  | .optional _, .scalar _ | .optional _, .list _ | .optional _, .union _ | .optional _, .named _
  | .list _, .scalar _ | .list _, .optional _ | .list _, .union _ | .list _, .named _
  | .union _, .scalar _ | .union _, .optional _ | .union _, .list _ | .union _, .named _
  | .named _, .scalar _ | .named _, .optional _ | .named _, .list _ | .named _, .union _ =>
    isFalse (by simp)

def decEqAll : (a b : List Descriptor) → Decidable (a = b)
  | [], [] => isTrue rfl
  | [], _ :: _ | _ :: _, [] => isFalse (by simp)
  | a :: as, b :: bs =>
    have := decEq a b
    have := decEqAll as bs
    decidable_of_iff (a = b ∧ as = bs) (by simp)

end

instance : DecidableEq Descriptor := decEq

mutual

def render : Descriptor → String
  | .scalar kind => kind.name
  | .optional inner => "Optional[" ++ render inner ++ "]"
  | .list item => "list[" ++ render item ++ "]"
  | .union alternatives => "Union[" ++ ", ".intercalate (renderAll alternatives) ++ "]"
  | .named type => type.render

def renderAll : List Descriptor → List String
  | [] => []
  | d :: rest => render d :: renderAll rest

end

mutual

/-- Whether JSON null reads as a value of the type. -/
def acceptsNull : Descriptor → Bool
  | .scalar .null => true
  | .optional _ => true
  | .union alternatives => anyAcceptsNull alternatives
  | _ => false

def anyAcceptsNull : List Descriptor → Bool
  | [] => false
  | d :: rest => acceptsNull d || anyAcceptsNull rest

end

mutual

/-- The named types that occur in the descriptor, from left to right. -/
def names : Descriptor → List TypeName
  | .scalar _ => []
  | .optional inner => names inner
  | .list item => names item
  | .union alternatives => namesOfAll alternatives
  | .named type => [type]

def namesOfAll : List Descriptor → List TypeName
  | [] => []
  | d :: rest => names d ++ namesOfAll rest

end

end Descriptor

end StatementGate
