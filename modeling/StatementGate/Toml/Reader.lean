import StatementGate.Toml.Scalar

/-! # Reading TOML text

A reader of TOML 1.0 documents over the list of characters. -/

namespace StatementGate.Toml

def isBlank (c : Char) : Bool := c == ' ' || c == '\t'

def skipBlanks (s : List Char) : List Char := s.dropWhile isBlank

/-- Characters that may stand in comments and strings. -/
def isTextChar (c : Char) : Bool := c == '\t' || (32 ≤ c.toNat && c.toNat != 127)

def isBareKeyChar (c : Char) : Bool := c.isAlphanum || c == '_' || c == '-'

/-- What is behind a line end. -/
def afterNewline? : List Char → Option (List Char)
  | '\n' :: rest => some rest
  | '\r' :: '\n' :: rest => some rest
  | _ => none

/-- What is behind an optional comment. The line end is left. -/
def afterComment? : List Char → Option (List Char)
  | '#' :: rest =>
    let body := rest.takeWhile fun c => c != '\n' && c != '\r'
    if body.all isTextChar then some (rest.drop body.length) else none
  | rest => some rest

/-- Skips blanks, line ends and comments, of each at most `fuel`. -/
def skipLines : (fuel : Nat) → List Char → Option (List Char)
  | 0, s => some s
  | fuel + 1, s => do
    let s ← afterComment? (skipBlanks s)
    match afterNewline? s with
    | some rest => skipLines fuel rest
    | none => some s

/-- The character of a Unicode escape with the given number of digits. -/
def codePoint? (digits : Nat) (s : List Char) : Option (Char × List Char) := do
  let ds := s.take digits
  if ds.length < digits || !ds.all Digits.isHex then none
  else
    let n := Digits.number 16 ds
    if n < 0xD800 ∨ (0xDFFF < n ∧ n < 0x110000) then pure (Char.ofNat n, s.drop digits) else none

def simpleEscape? : Char → Option Char
  | 'b' => some '\x08'
  | 't' => some '\t'
  | 'n' => some '\n'
  | 'f' => some '\x0c'
  | 'r' => some '\r'
  | '"' => some '"'
  | '\\' => some '\\'
  | _ => none

/-- The character of an escape, behind the backslash. -/
def escaped? : Reading Char
  | 'u' :: rest => codePoint? 4 rest
  | 'U' :: rest => codePoint? 8 rest
  | c :: rest => (simpleEscape? c).map fun c => (c, rest)
  | [] => none

/-- A basic string behind its opening quote. -/
def basicString : (fuel : Nat) → (reversed : List Char) → Reading String
  | 0, _, _ => none
  | fuel + 1, reversed, s =>
    match s with
    | [] => none
    | '"' :: rest => some (String.ofList reversed.reverse, rest)
    | '\\' :: rest => do
      let (c, rest) ← escaped? rest
      basicString fuel (c :: reversed) rest
    | c :: rest => if isTextChar c then basicString fuel (c :: reversed) rest else none

def literalString (s : List Char) : Option (String × List Char) :=
  let body := s.takeWhile (· != '\'')
  match s.drop body.length with
  | '\'' :: rest => if body.all isTextChar then some (String.ofList body, rest) else none
  | _ => none

/-- What is behind a backslash at the end of a line: the blanks and line ends that follow go. -/
def afterLineEnd? (fuel : Nat) (s : List Char) : Option (List Char) :=
  (afterNewline? (skipBlanks s)).map (skip fuel)
where
  skip : Nat → List Char → List Char
    | 0, s => s
    | fuel + 1, s =>
      match afterNewline? (skipBlanks s) with
      | some rest => skip fuel rest
      | none => skipBlanks s

/-- The end of a multi-line string: three quotes, and up to two before them that belong to it. -/
def closing? (quote : Char) (s : List Char) : Option (List Char × List Char) :=
  let quotes := (s.takeWhile (· == quote)).length
  if quotes < 3 then none
  else some (List.replicate (min quotes 5 - 3) quote, s.drop (min quotes 5))

/-- A multi-line string behind its opening quotes; only a basic one has escapes. -/
def multilineString (quote : Char) : (fuel : Nat) → (reversed : List Char) → Reading String
  | 0, _, _ => none
  | fuel + 1, reversed, s =>
    match closing? quote s with
    | some (quotes, rest) => some (String.ofList (reversed.reverse ++ quotes), rest)
    | none =>
      match s with
      | [] => none
      | '\r' :: '\n' :: rest => multilineString quote fuel ('\n' :: '\r' :: reversed) rest
      | c :: rest =>
        if c = '\\' ∧ quote = '"' then
          match afterLineEnd? fuel rest with
          | some rest => multilineString quote fuel reversed rest
          | none => do
            let (c, rest) ← escaped? rest
            multilineString quote fuel (c :: reversed) rest
        else if c = '\n' ∨ isTextChar c then multilineString quote fuel (c :: reversed) rest
        else none

/-- A line end right behind the opening quotes does not count. -/
def multiline (quote : Char) (fuel : Nat) (s : List Char) : Option (String × List Char) :=
  multilineString quote fuel [] ((afterNewline? s).getD s)

def keyPart (fuel : Nat) : Reading String
  | '"' :: rest => basicString fuel [] rest
  | '\'' :: rest => literalString rest
  | s =>
    let name := s.takeWhile isBareKeyChar
    if name.isEmpty then none else some (String.ofList name, s.drop name.length)

/-- The parts of a dotted key; at least one. -/
def keyParts : (fuel : Nat) → Reading (List String)
  | 0, _ => none
  | fuel + 1, s => do
    let (part, rest) ← keyPart fuel s
    match skipBlanks rest with
    | '.' :: more => do
      let (parts, rest) ← keyParts fuel (skipBlanks more)
      pure (part :: parts, rest)
    | rest => pure ([part], rest)

/-- Items up to a closing bracket, a comma behind each but perhaps the last. -/
def arrayItems (item : Reading Value) : (fuel : Nat) → (reversed : List Value) →
    Reading (List Value)
  | 0, _, _ => none
  | fuel + 1, reversed, s => do
    match ← skipLines fuel s with
    | ']' :: rest => pure (reversed.reverse, rest)
    | s =>
      let (v, rest) ← item s
      match ← skipLines fuel rest with
      | ',' :: rest => arrayItems item fuel (v :: reversed) rest
      | ']' :: rest => pure ((v :: reversed).reverse, rest)
      | _ => none

/-- An assignment: the parts of its key but the last, the last, and the value. -/
def assignment (item : Reading Value) (fuel : Nat) : Reading (List String × String × Value) :=
  fun s => do
    let (parts, rest) ← keyParts fuel s
    match rest with
    | '=' :: rest => do
      let (v, rest) ← item (skipBlanks rest)
      pure ((parts.dropLast, parts.getLastD "", v), rest)
    | _ => none

/-- Assignments of an inline table up to the closing brace, behind at least one. -/
def inlineEntries (item : Reading Value) : (fuel : Nat) → Entries → Reading Entries
  | 0, _, _ => none
  | fuel + 1, entries, s => do
    let ((path, key, v), rest) ← assignment item fuel (skipBlanks s)
    let entries ← assign path key v .inline entries
    match skipBlanks rest with
    | ',' :: rest => inlineEntries item fuel entries rest
    | '\x7d' :: rest => pure (entries, rest)
    | _ => none

/-- Containers that may be open at once. -/
def maxNesting : Nat := 80

def value (fuel : Nat) : (depth : Nat) → Reading Value
  | depth, s =>
    match s with
    | '"' :: '"' :: '"' :: rest => (multiline '"' fuel rest).map fun (t, rest) => (.string t, rest)
    | '\'' :: '\'' :: '\'' :: rest =>
      (multiline '\'' fuel rest).map fun (t, rest) => (.string t, rest)
    | '"' :: rest => (basicString fuel [] rest).map fun (t, rest) => (.string t, rest)
    | '\'' :: rest => (literalString rest).map fun (t, rest) => (.string t, rest)
    | '[' :: rest =>
      match depth with
      | 0 => none
      | depth + 1 =>
        (arrayItems (value fuel depth) fuel [] rest).map fun (items, rest) => (.array items, rest)
    | '\x7b' :: rest =>
      match depth with
      | 0 => none
      | depth + 1 =>
        match skipBlanks rest with
        | '\x7d' :: rest => some (.table .inline [], rest)
        | rest =>
          (inlineEntries (value fuel depth) fuel [] rest).map
            fun (entries, rest) => (.table .inline entries, rest)
    | s => scalar s

/-- The root table, and the path of the table that assignments go to. -/
structure Document where
  root : Entries
  current : List String

namespace Document

def empty : Document := ⟨[], []⟩

/-- Takes in one header or assignment. -/
def line (fuel : Nat) (d : Document) (s : List Char) : Option (Document × List Char) :=
  match s with
  | '[' :: '[' :: rest => do
    let (parts, rest) ← keyParts fuel (skipBlanks rest)
    match rest with
    | ']' :: ']' :: rest => do
      let root ← openElement parts.dropLast (parts.getLastD "") .header d.root
      pure (⟨root, parts⟩, rest)
    | _ => none
  | '[' :: rest => do
    let (parts, rest) ← keyParts fuel (skipBlanks rest)
    match rest with
    | ']' :: rest => do
      let root ← openTable parts.dropLast (parts.getLastD "") .header d.root
      pure (⟨root, parts⟩, rest)
    | _ => none
  | s => do
    let ((path, key, v), rest) ← assignment (value fuel maxNesting) fuel s
    let root ← descend false d.current (assign path key v) .header d.root
    pure (⟨root, d.current⟩, rest)

/-- Takes in lines up to the end of the text. -/
def lines : (fuel : Nat) → Document → List Char → Option Document
  | 0, _, _ => none
  | fuel + 1, d, s => do
    match ← skipLines (fuel + 1) s with
    | [] => pure d
    | s => do
      let (d, rest) ← d.line fuel s
      match ← afterComment? (skipBlanks rest) with
      | [] => pure d
      | rest => lines fuel d (← afterNewline? rest)

end Document

/-- The root table of a text, which may start with a byte order mark. -/
def read? (text : String) : Option Entries :=
  let s := text.toList
  let s := if s.head? = some '\uFEFF' then s.tail else s
  (Document.empty.lines (s.length + 1) s).map (·.root)

end StatementGate.Toml
