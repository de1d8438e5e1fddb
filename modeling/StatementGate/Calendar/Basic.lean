/-! # Dates and moments

Days of the proleptic Gregorian calendar for the years -9999 to 9999, and local times with their
offset from UTC. -/

namespace StatementGate

def isLeapYear (year : Int) : Bool :=
  year % 4 = 0 && (year % 100 != 0 || year % 400 = 0)

def daysInMonth (year : Int) (month : Nat) : Nat :=
  if month = 2 then if isLeapYear year then 29 else 28
  else if month = 4 ∨ month = 6 ∨ month = 9 ∨ month = 11 then 30
  else 31

structure Date where
  year : Int
  month : Nat
  day : Nat
  year_bounds : -9999 ≤ year ∧ year ≤ 9999
  month_bounds : 1 ≤ month ∧ month ≤ 12
  day_bounds : 1 ≤ day ∧ day ≤ daysInMonth year month
  deriving DecidableEq

/-- A local time and its offset in seconds east of UTC. -/
structure DateTime where
  date : Date
  hour : Nat
  minute : Nat
  second : Nat
  nanosecond : Nat
  offset : Int
  time_bounds : hour < 24 ∧ minute < 60 ∧ second < 60 ∧ nanosecond < 1000000000
  offset_bounds : -93599 ≤ offset ∧ offset ≤ 93599
  deriving DecidableEq

namespace Date

def of? (year : Int) (month day : Nat) : Option Date :=
  if hy : -9999 ≤ year ∧ year ≤ 9999 then
    if hm : 1 ≤ month ∧ month ≤ 12 then
      if hd : 1 ≤ day ∧ day ≤ daysInMonth year month then
        some ⟨year, month, day, hy, hm, hd⟩
      else none
    else none
  else none

def isLastOfMonth (d : Date) : Bool := d.day = daysInMonth d.year d.month

/-- The day before; none before the first year. -/
def pred? (d : Date) : Option Date :=
  if 1 < d.day then of? d.year d.month (d.day - 1)
  else if 1 < d.month then of? d.year (d.month - 1) (daysInMonth d.year (d.month - 1))
  else of? (d.year - 1) 12 31

/-- The day after; none behind the last year. -/
def succ? (d : Date) : Option Date :=
  if d.day < daysInMonth d.year d.month then of? d.year d.month (d.day + 1)
  else if d.month < 12 then of? d.year (d.month + 1) 1
  else of? (d.year + 1) 1 1

end Date

namespace DateTime

def of? (date : Date) (hour minute second nanosecond : Nat) (offset : Int) : Option DateTime :=
  if ht : hour < 24 ∧ minute < 60 ∧ second < 60 ∧ nanosecond < 1000000000 then
    if ho : -93599 ≤ offset ∧ offset ≤ 93599 then
      some ⟨date, hour, minute, second, nanosecond, offset, ht, ho⟩
    else none
  else none

/-- The second of the UTC day, which may lie a day or two off the local one. -/
def utcSecond (t : DateTime) : Int := t.hour * 3600 + t.minute * 60 + t.second - t.offset

/-- Moves a date by whole days. -/
private def shift? (d : Date) (days : Int) : Option Date :=
  if days < 0 then Nat.repeat (· >>= Date.pred?) (-days).toNat (some d)
  else Nat.repeat (· >>= Date.succ?) days.toNat (some d)

/-- Whether the moment lies in the last second of a month in UTC. -/
def isMonthEnd (t : DateTime) : Bool :=
  t.utcSecond.fmod 86400 = 86399 &&
    match shift? t.date (t.utcSecond.fdiv 86400) with
    | some d => d.isLastOfMonth
    | none => false

end DateTime

end StatementGate
