import StatementGate.Classification
import StatementGate.Store.Cell
import StatementGate.Text.Digits
import StatementGate.Text.Utf8

/-! # Words of a statement

A statement's text cut into names, literals, placeholders and symbols, each with its place. -/

namespace StatementGate.Store

inductive TokenKind where
  | name (text : String)
  /-- A name between quotes or brackets. -/
  | quotedName (text : String)
  | text (text : String)
  | blob (bytes : List UInt8)
  | number (cell : Cell)
  | placeholder
  | symbol (c : Char)
  deriving DecidableEq

/-- The spelling of a token and the byte it starts at. -/
structure Token where
  kind : TokenKind
  spelling : String
  offset : Nat
  deriving DecidableEq

/-- Why a statement could not be prepared, and where if that is known. -/
structure PrepareError where
  reason : String
  offset : Option Nat
  deriving DecidableEq

namespace PrepareError

def message (sql : String) (e : PrepareError) : String :=
  match e.offset with
  | none => e.reason
  | some offset => s!"{e.reason} in {sql} at offset {offset}"

def near (t : Token) : PrepareError := ⟨s!"near \"{t.spelling}\": syntax error", some t.offset⟩

def incomplete : PrepareError := ⟨"incomplete input", none⟩

def unrecognized (spelling : String) (offset : Nat) : PrepareError :=
  ⟨s!"unrecognized token: \"{spelling}\"", some offset⟩

end PrepareError

namespace Token

def isNameStart (c : Char) : Bool := Ascii.isNameStart c || 128 ≤ c.toNat

def isNamePart (c : Char) : Bool := isNameStart c || c.isDigit || c == '$'

def isBlank (c : Char) : Bool := Ascii.isSpace c

def hexBytes? : List Char → Option (List UInt8)
  | [] => some []
  | a :: b :: rest => do
    let high ← Digits.value? a
    let low ← Digits.value? b
    pure (UInt8.ofNat (high * 16 + low) :: (← hexBytes? rest))
  | [_] => none

/-- Quoted text with doubled delimiters undone, behind the opening one. -/
def unquote (close : Char) : List Char → List Char
  | [] => []
  | c :: rest =>
    if c = close then
      match rest with
      | d :: more => if d = close then close :: unquote close more else []
      | [] => []
    else c :: unquote close rest

def decimalValue (ds : List Char) : Nat := ds.foldl (fun n c => n * 10 + (c.toNat - 48)) 0

/-- The number of an unsigned literal; what 64 bits cannot hold is a real. -/
def numberCell (whole fraction : List Char) (isReal : Bool) (exponent : Int) : Cell :=
  let n := decimalValue (whole ++ fraction)
  if !isReal && n < UInt64.size / 2 then .integer (Int64.ofNat n)
  else
    .real ((Binary64.ofDecimal? false n (exponent - fraction.length)).getD
      (Binary64.infinity false))

/-- The exponent that follows, if any: its value and its length. -/
def exponentOf : List Char → Option (Int × Nat)
  | e :: rest =>
    if e = 'e' ∨ e = 'E' then
      let (negative, signs, rest) := match rest with
        | '-' :: rest => (true, 1, rest)
        | '+' :: rest => (false, 1, rest)
        | rest => (false, 0, rest)
      let ds := rest.takeWhile Char.isDigit
      if ds.isEmpty then none
      else
        let n : Int := decimalValue ds
        some (if negative then -n else n, 1 + signs + ds.length)
    else none
  | [] => none

/-- A literal that starts with a digit, or a point before one: its cell and its length. -/
def number (s : List Char) : Cell × Nat :=
  let whole := s.takeWhile Char.isDigit
  let rest := s.drop whole.length
  let fraction := match rest with
    | '.' :: rest => some (rest.takeWhile Char.isDigit)
    | _ => none
  let size := whole.length + (match fraction with
    | some ds => ds.length + 1
    | none => 0)
  match exponentOf (s.drop size) with
  | some (e, more) => (numberCell whole (fraction.getD []) true e, size + more)
  | none => (numberCell whole (fraction.getD []) fraction.isSome 0, size)

/-- The kind and the length of the token a text starts with; nothing if there is none. -/
def head? (c : Char) (rest : List Char) : Option (TokenKind × Nat) :=
  let s := c :: rest
  match Sql.closing? c with
  | some close => do
    let size := s.length - (← Sql.afterQuote? close rest).length
    let body := if close = ']' then rest.takeWhile (· != ']') else unquote close rest
    let body := String.ofList body
    pure (if c = '\'' then .text body else .quotedName body, size)
  | none =>
    if (c = 'x' ∨ c = 'X') ∧ rest.head? = some '\'' then do
      let digits := rest.tail.takeWhile (· != '\'')
      if digits.length + 2 ≤ rest.length then
        pure (.blob (← hexBytes? digits), digits.length + 3)
      else none
    else if isNameStart c then
      let word := s.takeWhile isNamePart
      some (.name (String.ofList word), word.length)
    else if c.isDigit ∨ (c = '.' ∧ (rest.head?.any Char.isDigit)) then
      let (cell, size) := number s
      some (.number cell, size)
    else if c = '?' then some (.placeholder, 1 + (rest.takeWhile Char.isDigit).length)
    else if c = ':' ∨ c = '@' ∨ c = '$' then
      let name := rest.takeWhile isNamePart
      if name.isEmpty then none else some (.placeholder, 1 + name.length)
    else if ['(', ')', ',', ';', '=', '*', '.', '-', '+', '<', '>', '!', '/', '%', '|', '&', '~'].contains c
      then some (.symbol c, 1)
    else none

/-- The tokens of a text from a byte offset on; comments and blanks divide them. -/
def scan : (fuel : Nat) → (offset : Nat) → List Char → Except PrepareError (List Token)
  | 0, _, _ => .ok []
  | _, _, [] => .ok []
  | fuel + 1, offset, c :: rest =>
    let skipTo (next : List Char) :=
      scan fuel (offset + (Utf8.size (c :: rest) - Utf8.size next)) next
    if isBlank c then scan fuel (offset + 1) rest
    else if c = '-' ∧ rest.head? = some '-' then skipTo (Sql.afterLine rest)
    else if c = '/' ∧ rest.head? = some '*' then
      skipTo ((Sql.afterComment? rest.tail).getD [])
    else
      match head? c rest with
      | none => .error (.unrecognized (String.ofList [c]) offset)
      | some (kind, size) => do
        let spelling := (c :: rest).take size
        let tokens ← scan fuel (offset + Utf8.size spelling) ((c :: rest).drop size)
        pure (⟨kind, String.ofList spelling, offset⟩ :: tokens)

def ofText (sql : String) : Except PrepareError (List Token) :=
  let s := sql.toList
  scan (s.length + 1) 0 s

end Token

end StatementGate.Store
