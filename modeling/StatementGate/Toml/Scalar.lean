import StatementGate.Calendar.Basic
import StatementGate.Text.Digits
import StatementGate.Toml.Basic

/-! # TOML scalars

Booleans, numbers and moments. Each is one word; only a blank between a date and the time of that
day may divide it. -/

namespace StatementGate.Toml

abbrev Reading (α : Type) := List Char → Option (α × List Char)

/-! ## Numbers -/

/-- Digits without the underscores among them, each of which has to divide two digits. -/
def ungroup? (isDigit : Char → Bool) (s : List Char) : Option (List Char) :=
  go s [] false
where
  go : List Char → (reversed : List Char) → (behindDigit : Bool) → Option (List Char)
    | [], reversed, behindDigit => if behindDigit then some reversed.reverse else none
    | c :: rest, reversed, behindDigit =>
      if isDigit c then go rest (c :: reversed) true
      else if c = '_' ∧ behindDigit then go rest reversed false
      else none

/-- A natural number in digits of a base up to sixteen. -/
def natural? (base : Nat) (s : List Char) : Option Nat :=
  (ungroup? (fun c => (Digits.value? c).any (· < base)) s).map (Digits.number base)

/-- Decimal digits without a leading zero. -/
def wholeDigits? (s : List Char) : Option (List Char) :=
  if 1 < s.length ∧ s.head? = some '0' then none else ungroup? Char.isDigit s

/-- Whether a sign says that a number is negative, and what is behind the sign. -/
def sign : List Char → Bool × List Char
  | '-' :: rest => (true, rest)
  | '+' :: rest => (false, rest)
  | s => (false, s)

/-- Only decimal integers may have a sign. -/
def integer? : List Char → Option Int
  | '0' :: 'x' :: rest => (natural? 16 rest).map Int.ofNat
  | '0' :: 'o' :: rest => (natural? 8 rest).map Int.ofNat
  | '0' :: 'b' :: rest => (natural? 2 rest).map Int.ofNat
  | s => do
    let (negative, digits) := sign s
    let n : Int := Digits.number 10 (← wholeDigits? digits)
    pure (if negative then -n else n)

/-- The digits of an optional fraction, and what is behind it. -/
def fraction? : Reading (List Char)
  | '.' :: rest => do
    let group := rest.takeWhile fun c => c.isDigit || c == '_'
    pure (← ungroup? Char.isDigit group, rest.drop group.length)
  | s => some ([], s)

/-- An optional exponent at the end of a number. -/
def exponent? : List Char → Option Int
  | [] => some 0
  | e :: rest => do
    let (negative, digits) := sign rest
    let n : Int := Digits.number 10 (← ungroup? Char.isDigit digits)
    if e = 'e' ∨ e = 'E' then pure (if negative then -n else n) else none

/-- Infinity, no number, or a decimal; one beyond the range of a double is infinite. -/
def float? (s : List Char) : Option Binary64 :=
  let (negative, s) := sign s
  if s = "inf".toList then some (.infinity negative)
  else if s = "nan".toList then some (.nan negative)
  else do
    let group := s.takeWhile fun c => c.isDigit || c == '_'
    let whole ← wholeDigits? group
    let (decimals, rest) ← fraction? (s.drop group.length)
    let exponent := (← exponent? rest) - decimals.length
    let x? := Binary64.ofDecimal? negative (Digits.number 10 (whole ++ decimals)) exponent
    pure (x?.getD (.infinity negative))

/-! ## Moments -/

/-- Exactly `count` decimal digits. -/
def fixedNumber (count : Nat) : Reading Nat := fun s =>
  let digits := s.take count
  if digits.length = count ∧ digits.all Char.isDigit then
    some (Digits.number 10 digits, s.drop count)
  else none

/-- What is behind a character. -/
def behind? (c : Char) : List Char → Option (List Char)
  | d :: rest => if d = c then some rest else none
  | [] => none

def date? : Reading Date := fun s => do
  let (year, s) ← fixedNumber 4 s
  let (month, s) ← fixedNumber 2 (← behind? '-' s)
  let (day, s) ← fixedNumber 2 (← behind? '-' s)
  pure (← Date.of? year month day, s)

/-- What is behind an hour and a minute. -/
def behindClock? (s : List Char) : Option (List Char) := do
  let (hour, s) ← fixedNumber 2 s
  let (minute, s) ← fixedNumber 2 (← behind? ':' s)
  if hour < 24 ∧ minute < 60 then pure s else none

/-- What is behind a time of the day. There are sixty seconds or, with a leap second, one more. -/
def behindTime? (s : List Char) : Option (List Char) := do
  let (second, s) ← fixedNumber 2 (← behind? ':' (← behindClock? s))
  if 60 < second then none
  else
    match s with
    | '.' :: rest => if rest.head?.any Char.isDigit then pure (rest.dropWhile Char.isDigit) else none
    | s => pure s

/-- What is behind an optional offset from UTC. -/
def behindOffset? : List Char → Option (List Char)
  | 'Z' :: rest | 'z' :: rest => some rest
  | '+' :: rest | '-' :: rest => behindClock? rest
  | s => some s

def isDate (s : List Char) : Bool :=
  match date? s with
  | some (_, rest) => rest.isEmpty
  | none => false

/-- A date, a date with a time that may have an offset, or a time. -/
def isMoment (s : List Char) : Bool :=
  match date? s with
  | some (_, []) => true
  | some (_, c :: rest) =>
    (c == 'T' || c == 't' || c == ' ') && (behindTime? rest >>= behindOffset?) == some []
  | none => behindTime? s == some []

/-! ## Words -/

def isWordChar (c : Char) : Bool :=
  c.isAlphanum || c == '_' || c == '-' || c == '+' || c == '.' || c == ':'

/-- The word that a text starts with. -/
def word (s : List Char) : List Char :=
  let first := s.takeWhile isWordChar
  match s.drop first.length with
  | ' ' :: rest =>
    let second := rest.takeWhile isWordChar
    if isDate first && !second.isEmpty then first ++ ' ' :: second else first
  | _ => first

def ofWord? (word : List Char) : Option Value :=
  if word = "true".toList then some (.boolean true)
  else if word = "false".toList then some (.boolean false)
  else if isMoment word then some (.moment (String.ofList word))
  else (integer? word).map .integer <|> (float? word).map .float

def scalar : Reading Value := fun s =>
  let word := word s
  (ofWord? word).map fun v => (v, s.drop word.length)

end StatementGate.Toml
