import StatementGate.Json.Basic
import StatementGate.Text.Digits

/-! # Reading JSON text

A reader of RFC 8259 texts over the list of characters. It keeps repeated members and their order,
refuses lone surrogates, numbers beyond the range of a double and more than 127 nested containers.
Each reading function returns the value and the rest of the text. -/

namespace StatementGate.Json

def isSpace (c : Char) : Bool := c == ' ' || c == '\t' || c == '\n' || c == '\r'

def skipSpace (s : List Char) : List Char := s.dropWhile isSpace

private def hex4? (s : List Char) : Option (Nat × List Char) :=
  let digits := s.take 4
  if digits.length = 4 ∧ digits.all Digits.isHex then some (Digits.number 16 digits, s.drop 4)
  else none

def simpleEscape? : Char → Option Char
  | '"' => some '"'
  | '\\' => some '\\'
  | '/' => some '/'
  | 'b' => some '\x08'
  | 'f' => some '\x0c'
  | 'n' => some '\n'
  | 'r' => some '\r'
  | 't' => some '\t'
  | _ => none

/-- The character of a `\u` escape; a high surrogate needs the low one right behind it. -/
private def unicodeEscape? (s : List Char) : Option (Char × List Char) := do
  let (unit, rest) ← hex4? s
  if 0xD800 ≤ unit ∧ unit < 0xDC00 then
    match rest with
    | '\\' :: 'u' :: rest =>
      let (low, rest) ← hex4? rest
      if 0xDC00 ≤ low ∧ low < 0xE000 then
        pure (Char.ofNat (0x10000 + (unit - 0xD800) * 0x400 + (low - 0xDC00)), rest)
      else none
    | _ => none
  else if 0xDC00 ≤ unit ∧ unit < 0xE000 then none
  else pure (Char.ofNat unit, rest)

/-- The characters up to the closing quote; `fuel` bounds their number. -/
private def stringBody : (fuel : Nat) → (text : List Char) → (reversed : List Char) →
    Option (String × List Char)
  | 0, _, _ => none
  | fuel + 1, text, reversed =>
    match text with
    | [] => none
    | '"' :: rest => some (String.ofList reversed.reverse, rest)
    | '\\' :: 'u' :: rest => do
      let (c, rest) ← unicodeEscape? rest
      stringBody fuel rest (c :: reversed)
    | '\\' :: c :: rest => do
      let c ← simpleEscape? c
      stringBody fuel rest (c :: reversed)
    | c :: rest =>
      if c.toNat < 32 ∨ c = '\\' then none else stringBody fuel rest (c :: reversed)

/-- The optional fraction behind the integer part: its digits and the rest. -/
private def fraction? : List Char → Option (Option (List Char) × List Char)
  | '.' :: rest =>
    let ds := rest.takeWhile Char.isDigit
    if ds.isEmpty then none else some (some ds, rest.dropWhile Char.isDigit)
  | rest => some (none, rest)

private def exponent? : List Char → Option (Option Int × List Char)
  | c :: rest =>
    if c = 'e' ∨ c = 'E' then
      let (negative, rest) := match rest with
        | '-' :: rest => (true, rest)
        | '+' :: rest => (false, rest)
        | rest => (false, rest)
      let ds := rest.takeWhile Char.isDigit
      if ds.isEmpty then none
      else
        let n : Int := Digits.number 10 ds
        some (some (if negative then -n else n), rest.dropWhile Char.isDigit)
    else some (none, c :: rest)
  | [] => some (none, [])

/-- A number as it is written, without its sign. -/
structure Numeral where
  whole : List Char
  fraction : Option (List Char)
  exponent : Option Int

/-- The numeral that a text starts with. -/
def numeral? (text : List Char) : Option (Numeral × List Char) := do
  let whole := text.takeWhile Char.isDigit
  if whole.isEmpty || (whole.length > 1 && whole.head? == some '0') then none
  else
    let (fraction, rest) ← fraction? (text.dropWhile Char.isDigit)
    let (exponent, rest) ← exponent? rest
    pure (⟨whole, fraction, exponent⟩, rest)

/-- A numeral without fraction and exponent is an integer when 64 bits hold it; `-0` is a float. -/
def Numeral.number? (negative : Bool) (n : Numeral) : Option JsonNumber :=
  let magnitude := Digits.number 10 n.whole
  let fits := if negative then 0 < magnitude ∧ magnitude ≤ UInt64.size / 2
    else magnitude < UInt64.size
  if n.fraction.isNone ∧ n.exponent.isNone ∧ fits then
    some (.int (if negative then -(magnitude : Int) else magnitude))
  else
    let decimals := n.fraction.getD []
    (Binary64.ofDecimal? negative (Digits.number 10 (n.whole ++ decimals))
      (n.exponent.getD 0 - decimals.length)).map .float

private def number? (negative : Bool) (text : List Char) : Option (JsonNumber × List Char) := do
  let (n, rest) ← numeral? text
  pure (← n.number? negative, rest)

/-- Items separated by commas up to `close`, after at least one item has to come. -/
private def separated (item : List Char → Option (α × List Char)) (close : Char) :
    (fuel : Nat) → List Char → List α → Option (List α × List Char)
  | 0, _, _ => none
  | fuel + 1, text, reversed => do
    let (a, rest) ← item text
    match skipSpace rest with
    | [] => none
    | c :: rest =>
      if c = ',' then separated item close fuel rest (a :: reversed)
      else if c = close then pure ((a :: reversed).reverse, rest)
      else none

private def sequence (item : List Char → Option (α × List Char)) (close : Char) (fuel : Nat)
    (text : List Char) : Option (List α × List Char) :=
  match skipSpace text with
  | [] => none
  | c :: rest => if c = close then some ([], rest) else separated item close fuel (c :: rest) []

private def member (fuel : Nat) (value : List Char → Option (Json × List Char))
    (text : List Char) : Option ((String × Json) × List Char) :=
  match skipSpace text with
  | '"' :: rest => do
    let (key, rest) ← stringBody fuel rest []
    match skipSpace rest with
    | ':' :: rest =>
      let (j, rest) ← value rest
      pure ((key, j), rest)
    | _ => none
  | _ => none

/-- One value, with `depth` containers still allowed around and inside it. -/
private def value (fuel : Nat) : (depth : Nat) → List Char → Option (Json × List Char)
  | depth, text =>
    match skipSpace text with
    | 'n' :: 'u' :: 'l' :: 'l' :: rest => some (.null, rest)
    | 't' :: 'r' :: 'u' :: 'e' :: rest => some (.bool true, rest)
    | 'f' :: 'a' :: 'l' :: 's' :: 'e' :: rest => some (.bool false, rest)
    | '"' :: rest => (stringBody fuel rest []).map fun (s, rest) => (.string s, rest)
    | '[' :: rest =>
      match depth with
      | 0 => none
      | depth + 1 =>
        (sequence (value fuel depth) ']' fuel rest).map fun (items, rest) => (.array items, rest)
    | '\x7b' :: rest =>
      match depth with
      | 0 => none
      | depth + 1 =>
        (sequence (member fuel (value fuel depth)) '\x7d' fuel rest).map
          fun (members, rest) => (.object members, rest)
    | '-' :: rest => (number? true rest).map fun (n, rest) => (.number n, rest)
    | text => (number? false text).map fun (n, rest) => (.number n, rest)

/-- Containers that may be open at once. -/
def maxNesting : Nat := 127

/-- The value that a text spells where `depth` more containers may be open, nothing but space around
it. -/
def readWithin? (depth : Nat) (text : String) : Option Json := do
  let chars := text.toList
  let (j, rest) ← value (chars.length + 1) depth chars
  if (skipSpace rest).isEmpty then pure j else none

/-- The value a text spells. -/
def read? (text : String) : Option Json := readWithin? maxNesting text

end StatementGate.Json
