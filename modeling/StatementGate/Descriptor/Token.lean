import StatementGate.Text.Ascii
import StatementGate.Text.Utf8

/-! # Descriptor tokens

Brackets, commas and dotted identifiers, bare or quoted, each with its byte offset in the text. -/

namespace StatementGate

inductive Token where
  | name (text : String)
  | quoted (text : String)
  | opening
  | closing
  | comma
  deriving DecidableEq

structure LocatedToken where
  token : Token
  offset : Nat
  deriving DecidableEq

/-- What a descriptor has to go on with. -/
inductive Expectation where
  | type | separator | nothing
  deriving DecidableEq

inductive DescriptorError where
  | empty
  | tooLong
  | unexpectedChar (found : Char) (offset : Nat)
  | unterminatedQuote (offset : Nat)
  | invalidNamespace (text : String)
  | invalidIdentifier (text : String) (offset : Nat)
  | expected (what : Expectation) (offset : Nat) (found : Option Token)
  | unknownGeneric (name : String) (offset : Nat)
  | arity (name : String) (found : Nat)
  | tooDeep
  deriving DecidableEq

/-- Bytes a descriptor text may have. -/
def maxDescriptorBytes : Nat := 4096

/-- Brackets that may enclose a type. -/
def maxDescriptorDepth : Nat := 32

namespace Token

/-- The wording of what was found; no token is the end of the text. -/
def describe : Option Token → String
  | some (.name text) | some (.quoted text) => s!"identifier '{text}'"
  | some .opening => "'['"
  | some .closing => "']'"
  | some .comma => "','"
  | none => "end of descriptor"

def isQuote (c : Char) : Bool := c == '\'' || c == '"'

def isNameChar (c : Char) : Bool := Ascii.isNamePart c || c == '.'

/-- The tokens of a text that starts at byte `offset`, by maximal munch. -/
def scan (offset : Nat) : List Char → Except DescriptorError (List LocatedToken)
  | [] => .ok []
  | c :: rest =>
    let single (token : Token) : Except DescriptorError (List LocatedToken) := do
      pure (⟨token, offset⟩ :: (← scan (offset + c.utf8Size) rest))
    if Ascii.isSpace c then scan (offset + c.utf8Size) rest
    else if c = '[' then single .opening
    else if c = ']' then single .closing
    else if c = ',' then single .comma
    else if isQuote c then
      let text := rest.takeWhile (· != c)
      match h : rest.dropWhile (· != c) with
      | [] => .error (.unterminatedQuote offset)
      | _ :: after =>
        if isDottedIdentifier (String.ofList text) then do
          let tokens ← scan (offset + Utf8.size text + 2) after
          pure (⟨.quoted (String.ofList text), offset⟩ :: tokens)
        else .error (.invalidIdentifier (String.ofList text) offset)
    else if Ascii.isNameStart c then
      let text := c :: rest.takeWhile isNameChar
      if isDottedIdentifier (String.ofList text) then do
        let tokens ← scan (offset + Utf8.size text) (rest.dropWhile isNameChar)
        pure (⟨.name (String.ofList text), offset⟩ :: tokens)
      else .error (.invalidIdentifier (String.ofList text) offset)
    else .error (.unexpectedChar c offset)
termination_by s => s.length
decreasing_by
  · simp
  · simp
  · have := (rest.dropWhile_suffix (· != c)).length_le
    simp [h] at this ⊢
    omega
  · have := (rest.dropWhile_suffix isNameChar).length_le
    simp
    omega

end Token

namespace Expectation

def describe : Expectation → String
  | .type => "type"
  | .separator => "',' or ']'"
  | .nothing => "end of descriptor"

end Expectation

namespace DescriptorError

def message : DescriptorError → String
  | .empty => "type descriptor is empty"
  | .tooLong => s!"type descriptor exceeds {maxDescriptorBytes} bytes"
  | .unexpectedChar found offset => s!"unexpected character '{found}' at offset {offset}"
  | .unterminatedQuote offset => s!"unterminated quoted identifier at offset {offset}"
  | .invalidNamespace text => s!"invalid namespace '{text}'"
  | .invalidIdentifier text offset => s!"invalid identifier '{text}' at offset {offset}"
  | .expected what offset found =>
    s!"expected {what.describe} at offset {offset}, found {Token.describe found}"
  | .unknownGeneric name offset => s!"unknown generic '{name}' at offset {offset}"
  | .arity name found =>
    let expected := if name = "Union" then "two or more" else "exactly one"
    s!"{name} takes {expected} argument(s), found {found}"
  | .tooDeep => s!"type descriptor nesting exceeds depth {maxDescriptorDepth}"

end DescriptorError

end StatementGate
