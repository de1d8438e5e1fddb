import StatementGate.Text.Ascii
import StatementGate.Text.CharClass

/-! # Reads and writes

Whether a statement reads or writes, from its bare words alone. Quoted text and comments are
skipped; behind a semicolon only blanks, comments and further semicolons may follow. -/

namespace StatementGate

inductive StatementClass where
  | read | write
  deriving DecidableEq

namespace StatementClass

def label : StatementClass → String
  | .read => "read"
  | .write => "write"

def isWrite (c : StatementClass) : Bool := c == .write

end StatementClass

inductive ClassifyError where
  | empty
  | multipleStatements
  | unterminatedQuote
  | unterminatedComment
  deriving DecidableEq

namespace ClassifyError

def message : ClassifyError → String
  | .empty => "statement is empty"
  | .multipleStatements => "multiple statements are not allowed"
  | .unterminatedQuote => "unterminated quoted text"
  | .unterminatedComment => "unterminated comment"

end ClassifyError

namespace Sql

/-- What follows the closing delimiter; a doubled one stands for itself, except in brackets. -/
def afterQuote? (close : Char) : List Char → Option (List Char)
  | [] => none
  | c :: rest =>
    if c = close then
      match rest with
      | d :: more => if close ≠ ']' ∧ d = close then afterQuote? close more else some rest
      | [] => some []
    else afterQuote? close rest

/-- What follows the end of a block comment. -/
def afterComment? : List Char → Option (List Char)
  | '*' :: '/' :: rest => some rest
  | _ :: rest => afterComment? rest
  | [] => none

def afterLine (s : List Char) : List Char := (s.dropWhile (· != '\n')).drop 1

/-- The delimiter that ends what a character opens. -/
def closing? (c : Char) : Option Char :=
  if c = '\'' ∨ c = '"' ∨ c.toNat = 0x60 then some c
  else if c = '[' then some ']'
  else none

theorem length_afterQuote {close : Char} {s rest : List Char} (h : afterQuote? close s = some rest) :
    rest.length < s.length := by
  fun_induction afterQuote? close s with
  | case1 => simp at h
  | case2 d more _ ih => have := ih h; simp; omega
  | case3 => cases h; simp
  | case4 => cases h; simp
  | case5 c rest _ ih => have := ih h; simp; omega

theorem length_afterComment {s rest : List Char} (h : afterComment? s = some rest) :
    rest.length < s.length := by
  fun_induction afterComment? s with
  | case1 => cases h; simp only [List.length_cons]; omega
  | case2 c rest _ ih => have := ih h; simp; omega
  | case3 => simp at h

theorem length_afterLine (s : List Char) : (afterLine s).length ≤ s.length := by
  have := (List.dropWhile_suffix (l := s) (· != '\n')).length_le
  simp [afterLine]
  omega

/-- The bare words of a text in upper case; `ended` once a semicolon has been read. -/
def keywords (ended : Bool) : List Char → Except ClassifyError (List String)
  | [] => .ok []
  | c :: rest =>
    let startsLine := c = '-' ∧ rest.head? = some '-'
    let startsBlock := c = '/' ∧ rest.head? = some '*'
    if ended && !isBlank c && c != ';' && !startsLine && !startsBlock then
      .error .multipleStatements
    else if startsLine then keywords ended (afterLine rest)
    else if startsBlock then
      match _h : afterComment? rest.tail with
      | none => .error .unterminatedComment
      | some rest => keywords ended rest
    else if c = ';' then keywords true rest
    else if Ascii.isNameStart c then do
      let word := Ascii.upper (String.ofList (c :: rest.takeWhile Ascii.isNamePart))
      pure (word :: (← keywords ended (rest.dropWhile Ascii.isNamePart)))
    else
      match closing? c with
      | none => keywords ended rest
      | some close =>
        match _h : afterQuote? close rest with
        | none => .error .unterminatedQuote
        | some rest => keywords ended rest
termination_by s => s.length
decreasing_by
  · have := length_afterLine rest
    simp
    omega
  · have := length_afterComment _h
    simp at this ⊢
    omega
  · simp
  · have := (List.dropWhile_suffix (l := rest) Ascii.isNamePart).length_le
    simp
    omega
  · simp
  · have := length_afterQuote _h
    simp
    omega

end Sql

def isReadKeyword (word : String) : Bool := word == "SELECT" || word == "VALUES"

def isMutatingKeyword (word : String) : Bool :=
  ["INSERT", "UPDATE", "DELETE", "REPLACE", "UPSERT"].contains word

/-- A statement reads if it starts with a reading word, or with `WITH` and has no mutating word. -/
def classify (sql : String) : Except ClassifyError StatementClass := do
  match ← Sql.keywords false sql.toList with
  | [] => throw .empty
  | first :: rest =>
    if first = "WITH" then pure (if rest.any isMutatingKeyword then .write else .read)
    else pure (if isReadKeyword first then .read else .write)

end StatementGate
