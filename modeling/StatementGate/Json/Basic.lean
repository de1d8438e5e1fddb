import StatementGate.KeyMap
import StatementGate.Number.Binary64

/-! # JSON values

Numbers keep the distinction between integers and floats that their texts make. An object is the
list of its members; `normalize` puts every object in key order with the last of repeated members. -/

namespace StatementGate

inductive JsonNumber where
  | int (value : Int)
  | float (value : Binary64)
  deriving DecidableEq

inductive Json where
  | null
  | bool (value : Bool)
  | number (value : JsonNumber)
  | string (value : String)
  | array (items : List Json)
  | object (members : List (String × Json))
  deriving Inhabited

namespace Json

mutual

def decEq : (a b : Json) → Decidable (a = b)
  | .null, .null => isTrue rfl
  | .bool a, .bool b => decidable_of_iff (a = b) (by simp)
  | .number a, .number b => decidable_of_iff (a = b) (by simp)
  | .string a, .string b => decidable_of_iff (a = b) (by simp)
  | .array a, .array b =>
    have := decEqItems a b
    decidable_of_iff (a = b) (by simp)
  | .object a, .object b =>
    have := decEqMembers a b
    decidable_of_iff (a = b) (by simp)
  | .null, .bool _ | .null, .number _ | .null, .string _ | .null, .array _ | .null, .object _
  | .bool _, .null | .bool _, .number _ | .bool _, .string _ | .bool _, .array _
  | .bool _, .object _ | .number _, .null | .number _, .bool _ | .number _, .string _
  | .number _, .array _ | .number _, .object _ | .string _, .null | .string _, .bool _
  | .string _, .number _ | .string _, .array _ | .string _, .object _ | .array _, .null
  | .array _, .bool _ | .array _, .number _ | .array _, .string _ | .array _, .object _
  | .object _, .null | .object _, .bool _ | .object _, .number _ | .object _, .string _
  | .object _, .array _ => isFalse (by simp)

def decEqItems : (a b : List Json) → Decidable (a = b)
  | [], [] => isTrue rfl
  | [], _ :: _ | _ :: _, [] => isFalse (by simp)
  | a :: as, b :: bs =>
    have := decEq a b
    have := decEqItems as bs
    decidable_of_iff (a = b ∧ as = bs) (by simp)

def decEqMembers : (a b : List (String × Json)) → Decidable (a = b)
  | [], [] => isTrue rfl
  | [], _ :: _ | _ :: _, [] => isFalse (by simp)
  | (k, a) :: as, (l, b) :: bs =>
    have := decEq a b
    have := decEqMembers as bs
    decidable_of_iff ((k = l ∧ a = b) ∧ as = bs) (by simp)

end

instance : DecidableEq Json := decEq

/-- The name of a value's kind in messages. -/
def kind : Json → String
  | .null => "null"
  | .bool _ => "bool"
  | .number _ => "number"
  | .string _ => "string"
  | .array _ => "array"
  | .object _ => "object"

def int (i : Int) : Json := .number (.int i)

def ofOption (encode : α → Json) : Option α → Json
  | none => .null
  | some a => encode a

def ofOptionString : Option String → Json := ofOption .string

def get? : Json → String → Option Json
  | .object members, key => members.lookup key
  | _, _ => none

def string? : Json → Option String
  | .string s => some s
  | _ => none

def bool? : Json → Option Bool
  | .bool b => some b
  | _ => none

def int? : Json → Option Int
  | .number (.int i) => some i
  | _ => none

/-- An integer from `0` to `limit`. -/
def nat? (limit : Nat) (j : Json) : Option Nat := do
  let i ← j.int?
  if 0 ≤ i ∧ i ≤ limit then some i.toNat else none

def array? : Json → Option (List Json)
  | .array items => some items
  | _ => none

def object? : Json → Option (List (String × Json))
  | .object members => some members
  | _ => none

/-- `null` reads as no value. -/
def optional? (read : Json → Option α) : Json → Option (Option α)
  | .null => some none
  | j => (read j).map some

/-- An object as a map; of repeated members the last counts, but each has to be readable. -/
def keyMap? (read : Json → Option α) (j : Json) : Option (KeyMap α) := do
  let members ← j.object?
  let read ← members.mapM fun (key, member) => (read member).map fun value => (key, value)
  pure (KeyMap.ofList read)

mutual

def normalize : Json → Json
  | .array items => .array (normalizeItems items)
  | .object members => .object (Entries.ofList (normalizeMembers members))
  | j => j

def normalizeItems : List Json → List Json
  | [] => []
  | j :: rest => normalize j :: normalizeItems rest

def normalizeMembers : List (String × Json) → List (String × Json)
  | [] => []
  | (key, j) :: rest => (key, normalize j) :: normalizeMembers rest

end

end Json

end StatementGate
