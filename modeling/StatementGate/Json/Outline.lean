import StatementGate.Json.Reader
import StatementGate.Text.Utf8

/-! # Reading some members of an object

A reader that takes the members it knows from an object and passes over the values of the others.
What is passed over has to have the outline of JSON only: its numbers may be beyond every range, its
escapes may name lone surrogates, its strings need not be UTF-8, and it may nest without a limit.

An outline is made of ASCII characters, so it is found byte by byte; here a byte is the character of
the same number. -/

namespace StatementGate.Json

/-- The rest behind a string whose opening quote has been read. -/
private def passString : List Char → Option (List Char)
  | '"' :: rest => some rest
  | '\\' :: 'u' :: a :: b :: c :: d :: rest =>
    if [a, b, c, d].all Digits.isHex then passString rest else none
  | '\\' :: c :: rest => if (simpleEscape? c).isSome then passString rest else none
  | c :: rest => if c.toNat < 32 ∨ c = '\\' then none else passString rest
  | [] => none

private def passNumeral (text : List Char) : Option (List Char) := (numeral? text).map Prod.snd

/-- The rest behind a value that is no container. -/
private def passAtom : List Char → Option (List Char)
  | 'n' :: 'u' :: 'l' :: 'l' :: rest => some rest
  | 't' :: 'r' :: 'u' :: 'e' :: rest => some rest
  | 'f' :: 'a' :: 'l' :: 's' :: 'e' :: rest => some rest
  | '"' :: rest => passString rest
  | '-' :: rest => passNumeral rest
  | text => passNumeral text

/-- The rest behind the colon of a member's name. -/
private def passName (text : List Char) : Option (List Char) :=
  match skipSpace text with
  | '"' :: rest => do
    match skipSpace (← passString rest) with
    | ':' :: rest => some rest
    | _ => none
  | _ => none

mutual

/-- The rest behind a value and behind the containers around it, which `closers` close in turn. -/
private def passValue : (fuel : Nat) → (closers text : List Char) → Option (List Char)
  | 0, _, _ => none
  | fuel + 1, closers, text =>
    match skipSpace text with
    | '[' :: rest =>
      match skipSpace rest with
      | ']' :: rest => passEnd fuel closers rest
      | rest => passValue fuel (']' :: closers) rest
    | '\x7b' :: rest =>
      match skipSpace rest with
      | '\x7d' :: rest => passEnd fuel closers rest
      | rest => (passName rest).bind (passValue fuel ('\x7d' :: closers))
    | rest => (passAtom rest).bind (passEnd fuel closers)

/-- The rest behind the containers that `closers` close, where a value has just ended. -/
private def passEnd : (fuel : Nat) → (closers text : List Char) → Option (List Char)
  | 0, _, _ => none
  | _, [], text => some text
  | fuel + 1, closer :: closers, text =>
    match skipSpace text with
    | ',' :: rest =>
      if closer = '\x7d' then (passName rest).bind (passValue fuel (closer :: closers))
      else passValue fuel (closer :: closers) rest
    | c :: rest => if c = closer then passEnd fuel closers rest else none
    | [] => none

end

/-- The value that a part of a text spells in UTF-8, where `depth` more containers may be open. -/
private def part? (depth : Nat) (text rest : List Char) : Option Json := do
  let bytes := (text.take (text.length - rest.length)).map Char.toUInt8
  readWithin? depth (← (Utf8.decode bytes).toOption)

/-- The known members from the name of a member to the end of the object, and the rest. -/
private def knownMembers (names : List String) :
    (fuel : Nat) → (text : List Char) → (reversed : List (String × Json)) →
    Option (List (String × Json) × List Char)
  | 0, _, _ => none
  | fuel + 1, text, reversed => do
    let text := skipSpace text
    let rest ← passName text
    let key ← nameOf text
    let behind ← passValue (rest.length + 2) [] rest
    let reversed ← if names.contains key then do
        pure ((key, ← part? (maxNesting - 1) rest behind) :: reversed)
      else pure reversed
    match skipSpace behind with
    | ',' :: rest => knownMembers names fuel rest reversed
    | '\x7d' :: rest => some (reversed.reverse, rest)
    | _ => none
where
  /-- The name that a text starts with. -/
  nameOf : List Char → Option String
    | '"' :: text => do (← part? 0 ('"' :: text) (← passString text)).string?
    | _ => none

/-- The value that bytes spell. Of an object, only the members with the given names are read. -/
def readMembers? (names : List String) (bytes : List UInt8) : Option Json :=
  match skipSpace (bytes.map Char.ofUInt8) with
  | '\x7b' :: rest => do
    let (members, rest) ← match skipSpace rest with
      | '\x7d' :: rest => some ([], rest)
      | rest => knownMembers names (rest.length + 1) rest []
    if (skipSpace rest).isEmpty then pure (.object members) else none
  | _ => (Utf8.decode bytes).toOption.bind read?

end StatementGate.Json
