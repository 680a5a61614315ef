import SchemaMill.Calendar.Date
import SchemaMill.Text.Numeral

/-!
# Moments

A moment is a day with a time of day in microseconds and, if it is known, the offset of the clock
from Coordinated Universal Time. Time stamps write the instant of a moment in that time.
-/

namespace SchemaMill

/-- The number of microseconds in a day. -/
def microsecondsPerDay : Nat := 86400000000

/-- A day and a time of day. -/
structure Moment where
  date : Date
  hour : Nat := 0
  minute : Nat := 0
  second : Nat := 0
  microsecond : Nat := 0
  /-- How far the clock is ahead of Coordinated Universal Time, in microseconds. -/
  offset : Option Int := none
  deriving DecidableEq, Repr

namespace Moment

/-- Whether the day is in the calendar, the time on a clock, and the offset shorter than a day. -/
def isValid (m : Moment) : Bool :=
  m.date.isValid && m.hour < 24 && m.minute < 60 && m.second < 60 && m.microsecond < 1000000 &&
    m.offset.all fun o => o.natAbs < microsecondsPerDay

/-- The microseconds since midnight. -/
def timeOfDay (m : Moment) : Nat :=
  ((m.hour * 60 + m.minute) * 60 + m.second) * 1000000 + m.microsecond

/-- The microseconds from the start of year 1 in Coordinated Universal Time. -/
def instant (m : Moment) : Int :=
  (m.date.dayNumber * microsecondsPerDay + m.timeOfDay : Nat) - m.offset.getD 0

/-- The moment in Coordinated Universal Time at an instant of the years 1 to 9999. -/
def ofInstant? (instant : Int) : Option Moment :=
  match instant with
  | .negSucc _ => none
  | .ofNat n =>
    let date := Date.ofDayNumber (n / microsecondsPerDay)
    let time := n % microsecondsPerDay
    let seconds := time / 1000000
    if date.year ≤ 9999 then
      some ⟨date, seconds / 3600, seconds / 60 % 60, seconds % 60, time % 1000000, some 0⟩
    else none

/-- A day as year, month and day with hyphens between them. -/
def dateText (d : Date) : Text :=
  decimalPadded 4 d.year ++ ['-'] ++ decimalPadded 2 d.month ++ ['-'] ++ decimalPadded 2 d.day

/-- Hour, minute and second with colons between them. -/
def clockText (hour minute second : Nat) : Text :=
  decimalPadded 2 hour ++ [':'] ++ decimalPadded 2 minute ++ [':'] ++ decimalPadded 2 second

/-- A point and six digits for microseconds, or nothing for none. -/
def fractionText (microsecond : Nat) : Text :=
  if microsecond == 0 then [] else '.' :: decimalPadded 6 microsecond

/-- The sign, hours and minutes of an offset; seconds and their fraction only if there are any. -/
def offsetText (offset : Int) : Text :=
  let size := offset.natAbs
  let seconds := size / 1000000
  let fraction := size % 1000000
  let shown := decimalPadded 2 (seconds / 3600) ++ [':'] ++ decimalPadded 2 (seconds / 60 % 60) ++
    (if seconds % 60 == 0 && fraction == 0 then [] else ':' :: decimalPadded 2 (seconds % 60)) ++
    fractionText fraction
  (if offset < 0 then '-' else '+') :: shown

/-- The text of a moment in the form of ISO 8601. -/
def isoText (m : Moment) : Text :=
  dateText m.date ++ ['T'] ++ clockText m.hour m.minute m.second ++ fractionText m.microsecond ++
    match m.offset with
    | none => []
    | some o => offsetText o

/-- The time stamp of a moment: Coordinated Universal Time in whole milliseconds. There is none
outside the years 1 to 9999. -/
def timestamp? (m : Moment) : Option Text :=
  (ofInstant? m.instant).map fun u =>
    dateText u.date ++ ['T'] ++ clockText u.hour u.minute u.second ++ ['.'] ++
      decimalPadded 3 (u.microsecond / 1000) ++ ['Z']

end Moment

end SchemaMill
