import StatementGate.Calendar.Basic
import StatementGate.Text.Digits

/-! # Date and moment text

Dates are `year-month-day` with a signed year of four digits; moments are RFC 3339. Reading goes
from left to right, each component with its own error, and checks the ranges at the end. -/

namespace StatementGate

inductive Component where
  | year | month | day | separator | hour | minute | second | subsecond | offsetHour | offsetMinute
  deriving DecidableEq

inductive CalendarError where
  | unreadable (component : Component)
  | wrongCharacter
  | trailing
  | outOfRange (component : Component)
  deriving DecidableEq

/-- What a moment's text has no room for. -/
inductive FormatError where
  | year | offsetHour | offsetSecond
  deriving DecidableEq

namespace Component

def name : Component → String
  | .year => "year"
  | .month => "month"
  | .day => "day"
  | .separator => "separator"
  | .hour => "hour"
  | .minute => "minute"
  | .second => "second"
  | .subsecond => "subsecond"
  | .offsetHour => "offset hour"
  | .offsetMinute => "offset minute"

end Component

namespace CalendarError

def message : CalendarError → String
  | .unreadable component => s!"the '{component.name}' component could not be parsed"
  | .wrongCharacter => "a character literal was not valid"
  | .trailing => "unexpected trailing characters; the end of input was expected"
  | .outOfRange component => s!"{component.name} was not in range"

end CalendarError

namespace FormatError

def component : FormatError → String
  | .year => "year"
  | .offsetHour => "offset_hour"
  | .offsetSecond => "offset_second"

def message (e : FormatError) : String :=
  s!"The {e.component} component cannot be formatted into the requested format."

end FormatError

/-- `n` in at least `width` digits. -/
def paddedDigits (width n : Nat) : List Char :=
  let ds := Nat.toDigits 10 n
  List.replicate (width - ds.length) '0' ++ ds

/-- Exactly `count` digits at the head of the text. -/
def fixedDigits (count : Nat) (component : Component) (s : List Char) :
    Except CalendarError (Nat × List Char) :=
  let ds := s.take count
  if ds.length = count ∧ ds.all Char.isDigit then .ok (Digits.number 10 ds, s.drop count)
  else .error (.unreadable component)

def literal (c : Char) : List Char → Except CalendarError (List Char)
  | d :: rest => if d = c then .ok rest else .error .wrongCharacter
  | [] => .error .wrongCharacter

def oneOf (limits : Nat × Nat) (component : Component) (s : List Char) :
    Except CalendarError (Nat × List Char) := do
  let (n, rest) ← fixedDigits 2 component s
  if limits.1 ≤ n ∧ n ≤ limits.2 then pure (n, rest) else throw (.unreadable component)

namespace Date

def signedYear (s : List Char) : Except CalendarError (Int × List Char) := do
  let (negative, digits) := match s with
    | '-' :: rest => (true, rest)
    | '+' :: rest => (false, rest)
    | rest => (false, rest)
  let (n, rest) ← fixedDigits 4 .year digits
  pure (if negative then -(n : Int) else n, rest)

def parse (text : String) : Except CalendarError Date := do
  let (year, rest) ← signedYear text.toList
  let (month, rest) ← oneOf (1, 12) .month (← literal '-' rest)
  let (day, rest) ← oneOf (1, 31) .day (← literal '-' rest)
  if !rest.isEmpty then throw .trailing
  match of? year month day with
  | some d => pure d
  | none => throw (.outOfRange .day)

def renderYear (year : Int) : List Char :=
  if year < 0 then '-' :: paddedDigits 4 year.natAbs else paddedDigits 4 year.natAbs

def render (d : Date) : String :=
  String.ofList (renderYear d.year ++ '-' :: paddedDigits 2 d.month ++
    '-' :: paddedDigits 2 d.day)

end Date

namespace DateTime

/-- The fraction behind the seconds in nanoseconds; places after the ninth are dropped. -/
def readSubsecond (s : List Char) : Except CalendarError (Nat × List Char) :=
  match s with
  | '.' :: rest =>
    let ds := rest.takeWhile Char.isDigit
    if ds.isEmpty then .error (.unreadable .subsecond)
    else
      let kept := ds.take 9
      .ok (Digits.number 10 kept * Nat.pow 10 (9 - kept.length), rest.dropWhile Char.isDigit)
  | s => .ok (0, s)

def readOffset (s : List Char) : Except CalendarError (Int × List Char) :=
  match s with
  | 'Z' :: rest | 'z' :: rest => .ok (0, rest)
  | sign :: rest =>
    if sign = '+' ∨ sign = '-' then do
      let (hours, rest) ← oneOf (0, 23) .offsetHour rest
      let (minutes, rest) ← fixedDigits 2 .offsetMinute (← literal ':' rest)
      if minutes > 59 then throw (.outOfRange .offsetMinute)
      let seconds : Int := hours * 3600 + minutes * 60
      pure (if sign = '-' then -seconds else seconds, rest)
    else .error (.unreadable .offsetHour)
  | [] => .error (.unreadable .offsetHour)

/-- Reads an RFC 3339 text. A leap second stands for the last nanosecond of its minute, which has
to end a month in UTC. The separator of date and time may be any one byte, `bytewise` being the
text with a character outside ASCII as several items. -/
def parseBytes (bytewise : List Char) : Except CalendarError DateTime := do
  let (year, rest) ← fixedDigits 4 .year bytewise
  let (month, rest) ← fixedDigits 2 .month (← literal '-' rest)
  if month = 0 then throw (.unreadable .month)
  let (day, rest) ← fixedDigits 2 .day (← literal '-' rest)
  let rest ← match rest with
    | [] => throw (.unreadable .separator)
    | _ :: rest => pure rest
  let (hour, rest) ← fixedDigits 2 .hour rest
  let (minute, rest) ← fixedDigits 2 .minute (← literal ':' rest)
  let (second, rest) ← fixedDigits 2 .second (← literal ':' rest)
  let (nanosecond, rest) ← readSubsecond rest
  let (offset, rest) ← readOffset rest
  if !rest.isEmpty then throw .trailing
  if month > 12 then throw (.outOfRange .month)
  let some date := Date.of? year month day | throw (.outOfRange .day)
  if hour > 23 then throw (.outOfRange .hour)
  if minute > 59 then throw (.outOfRange .minute)
  let leap := second = 60
  let (second, nanosecond) := if leap then (59, 999999999) else (second, nanosecond)
  let some moment := of? date hour minute second nanosecond offset
    | throw (.outOfRange .second)
  if leap && !moment.isMonthEnd then throw (.outOfRange .second)
  pure moment

def parse (text : String) : Except CalendarError DateTime :=
  parseBytes (text.toUTF8.toList.map fun byte => Char.ofNat byte.toNat)

def dropZeros (ds : List Char) : List Char :=
  (ds.reverse.dropWhile (· == '0')).reverse

def renderOffset (offset : Int) : List Char :=
  if offset = 0 then ['Z']
  else
    let minutes := offset.natAbs / 60
    (if offset < 0 then '-' else '+') :: paddedDigits 2 (minutes / 60) ++
      ':' :: paddedDigits 2 (minutes % 60)

/-- The RFC 3339 text, of years 0 to 9999 and whole-minute offsets below a day. -/
def render (t : DateTime) : Except FormatError String :=
  if t.date.year < 0 ∨ 9999 < t.date.year then .error .year
  else if 24 * 3600 ≤ t.offset.natAbs then .error .offsetHour
  else if t.offset % 60 ≠ 0 then .error .offsetSecond
  else
    let fraction := dropZeros (paddedDigits 9 t.nanosecond)
    .ok (t.date.render ++ String.ofList ('T' :: paddedDigits 2 t.hour ++
      ':' :: paddedDigits 2 t.minute ++ ':' :: paddedDigits 2 t.second ++
      (if t.nanosecond = 0 then [] else '.' :: fraction) ++ renderOffset t.offset))

end DateTime

end StatementGate
