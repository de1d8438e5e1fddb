/-! # ASCII names

Letters, digits and identifiers of the ASCII range, and case mapping that leaves every other
character alone. -/

namespace StatementGate

namespace Ascii

def isSpace (c : Char) : Bool :=
  c == ' ' || c == '\t' || c == '\n' || c == '\x0c' || c == '\r'

def isNameStart (c : Char) : Bool := c.isAlpha || c == '_'

def isNamePart (c : Char) : Bool := c.isAlphanum || c == '_'

def lower (s : String) : String := String.ofList (s.toList.map Char.toLower)

def upper (s : String) : String := String.ofList (s.toList.map Char.toUpper)

/-- Equality up to ASCII case. -/
def equalsIgnoringCase (a b : String) : Bool := lower a == lower b

end Ascii

/-- A letter or underscore, then letters, digits and underscores. -/
def isPlainName : List Char → Bool
  | [] => false
  | c :: rest => Ascii.isNameStart c && rest.all Ascii.isNamePart

def isPlainIdentifier (s : String) : Bool := isPlainName s.toList

/-- Splits at every dot; there is always at least one part. -/
def splitDots : List Char → List (List Char)
  | [] => [[]]
  | c :: rest =>
    if c = '.' then [] :: splitDots rest
    else
      match splitDots rest with
      | [] => [[c]]
      | part :: parts => (c :: part) :: parts

/-- Plain names joined by single dots. -/
def isDottedIdentifier (s : String) : Bool := (splitDots s.toList).all isPlainName

end StatementGate
