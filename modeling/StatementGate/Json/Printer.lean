import StatementGate.Json.Basic
import StatementGate.Number.Shortest

/-! # Compact JSON text

One printer with two layouts: the plain one, which keeps floats and integers apart, and the
canonical one of digests, in which equal numbers have equal texts and members are ordered by the
written form of their keys. -/

namespace StatementGate

structure JsonLayout where
  float : FloatLayout
  sortsMembers : Bool

/-- `1.0`, `0.00001`, `1e+16`, `-0.0`; members in the order given. -/
def JsonLayout.plain : JsonLayout := ⟨⟨-5, 15, true, true⟩, false⟩

/-- `1`, `0.000001`, `1e+21`, `0`. -/
def JsonLayout.canonical : JsonLayout := ⟨⟨-6, 20, false, false⟩, true⟩

def JsonNumber.render (layout : JsonLayout) : JsonNumber → String
  | .int i => toString i
  | .float x => layout.float.render x

namespace Json

private def escape (c : Char) : List Char :=
  if c = '"' then ['\\', '"']
  else if c = '\\' then ['\\', '\\']
  else if c = '\x08' then ['\\', 'b']
  else if c = '\x0c' then ['\\', 'f']
  else if c = '\n' then ['\\', 'n']
  else if c = '\r' then ['\\', 'r']
  else if c = '\t' then ['\\', 't']
  else if c.toNat < 32 then
    ['\\', 'u', '0', '0', Nat.digitChar (c.toNat / 16), Nat.digitChar (c.toNat % 16)]
  else [c]

def quote (s : String) : String :=
  String.ofList ('"' :: s.toList.flatMap escape ++ ['"'])

mutual

def render (layout : JsonLayout) : Json → String
  | .null => "null"
  | .bool true => "true"
  | .bool false => "false"
  | .number n => n.render layout
  | .string s => quote s
  | .array items => "[" ++ ",".intercalate (renderItems layout items) ++ "]"
  | .object members =>
    let written := renderMembers layout members
    let ordered := if layout.sortsMembers then Entries.ofList written else written
    "\x7b" ++ ",".intercalate (ordered.map fun (key, text) => key ++ ":" ++ text) ++ "\x7d"

def renderItems (layout : JsonLayout) : List Json → List String
  | [] => []
  | j :: rest => render layout j :: renderItems layout rest

def renderMembers (layout : JsonLayout) : List (String × Json) → List (String × String)
  | [] => []
  | (key, j) :: rest => (quote key, render layout j) :: renderMembers layout rest

end

/-- Compact text with members in the order given. -/
def compact : Json → String := render .plain

/-- The text that digests are taken of. -/
def canonical : Json → String := render .canonical

end Json

end StatementGate
