import StatementGate.Query.Scalar

/-! # Pieces of SQL

Statement text as words, symbols, spaces and places for values. The values are numbered from left
to right, `:p0`, `:p1`, …, so that no value ever enters the text. -/

namespace StatementGate

inductive Piece (β : Type) where
  | word (text : String)
  | symbol (text : String)
  | space
  | bind (value : β)
  deriving DecidableEq

abbrev Pieces := List (Piece Scalar)

namespace Piece

def parameterName (index : Nat) : String := "p" ++ toString index

/-- The text of pieces whose first value has the given number. -/
def textFrom : (next : Nat) → List (Piece β) → String
  | _, [] => ""
  | next, .word s :: rest | next, .symbol s :: rest => s ++ textFrom next rest
  | next, .space :: rest => " " ++ textFrom next rest
  | next, .bind _ :: rest => ":" ++ parameterName next ++ textFrom (next + 1) rest

def text (pieces : List (Piece β)) : String := textFrom 0 pieces

/-- The values in the order of their places. -/
def values : List (Piece β) → List β
  | [] => []
  | .bind v :: rest => v :: values rest
  | _ :: rest => values rest

def parameters (pieces : Pieces) : Parameters :=
  KeyMap.ofList ((values pieces).zipIdx.map fun (v, i) => (parameterName i, v))

/-- Puts a separator between the parts. -/
def separated (separator : List (Piece β)) : List (List (Piece β)) → List (Piece β)
  | [] => []
  | [part] => part
  | part :: rest => part ++ separator ++ separated separator rest

def comma : List (Piece β) := [.symbol ",", .space]

/-- Words with single spaces between them. -/
def words (ws : List String) : List (Piece β) := separated [.space] (ws.map fun w => [.word w])

/-- A keyword phrase with a space on both sides. -/
def phrase (ws : List String) : List (Piece β) := .space :: words ws ++ [.space]

def parenthesized (inner : List (Piece β)) : List (Piece β) :=
  .symbol "(" :: inner ++ [.symbol ")"]

end Piece

end StatementGate
