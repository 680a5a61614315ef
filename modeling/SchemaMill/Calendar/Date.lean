/-!
# Dates

Days of the Gregorian calendar, counted from the first day of year 1, which is a Monday.
-/

namespace SchemaMill

/-- Whether a year has a 29th of February. -/
def isLeapYear (year : Nat) : Bool := year % 4 == 0 && (year % 100 != 0 || year % 400 == 0)

/-- The number of days in a month. -/
def daysInMonth (year month : Nat) : Nat :=
  match month with
  | 2 => if isLeapYear year then 29 else 28
  | 4 | 6 | 9 | 11 => 30
  | _ => 31

/-- The number of days before a year, counted from year 1. -/
def daysBeforeYear (year : Nat) : Nat :=
  let past := year - 1
  past * 365 + past / 4 - past / 100 + past / 400

/-- The number of days in a year before a month. -/
def daysBeforeMonth (leap : Bool) (month : Nat) : Nat :=
  [0, 31, 59, 90, 120, 151, 181, 212, 243, 273, 304, 334].getD (month - 1) 0 +
    if leap && 2 < month then 1 else 0

/-- A day of the calendar. -/
structure Date where
  /-- The year, from 1. -/
  year : Nat
  /-- The month, from 1. -/
  month : Nat
  /-- The day of the month, from 1. -/
  day : Nat
  deriving DecidableEq, Repr

namespace Date

/-- Whether the day is in the calendar of the years 1 to 9999. -/
def isValid (d : Date) : Bool :=
  1 ≤ d.year && d.year ≤ 9999 && 1 ≤ d.month && d.month ≤ 12 && 1 ≤ d.day &&
    d.day ≤ daysInMonth d.year d.month

/-- The number of days before a day. -/
def dayNumber (d : Date) : Nat :=
  daysBeforeYear d.year + daysBeforeMonth (isLeapYear d.year) d.month + (d.day - 1)

/-- The year that a day number lies in: an estimate from the mean length of a year, then a step if
that missed. -/
def yearOf (n : Nat) : Nat :=
  let year := n * 400 / 146097 + 1
  if n < daysBeforeYear year then year - 1
  else if daysBeforeYear (year + 1) ≤ n then year + 1
  else year

/-- The month that a day of a year lies in. -/
def monthOf (leap : Bool) (dayOfYear : Nat) : Nat :=
  ([12, 11, 10, 9, 8, 7, 6, 5, 4, 3, 2].find? (daysBeforeMonth leap · ≤ dayOfYear)).getD 1

/-- The day with a given number of days before it. -/
def ofDayNumber (n : Nat) : Date :=
  let year := yearOf n
  let dayOfYear := n - daysBeforeYear year
  let month := monthOf (isLeapYear year) dayOfYear
  ⟨year, month, dayOfYear - daysBeforeMonth (isLeapYear year) month + 1⟩

/-- The day of the week, Monday being 0. -/
def weekday (d : Date) : Nat := d.dayNumber % 7

/-- The number of days before the Monday of the first week of a year, which is the week that holds
the year's first Thursday. -/
def firstMonday (year : Nat) : Nat :=
  let newYear := daysBeforeYear year
  let weekday := newYear % 7
  if 3 < weekday then newYear + 7 - weekday else newYear - weekday

/-- Whether a year has a 53rd week. -/
def hasLongYear (year : Nat) : Bool :=
  let weekday := daysBeforeYear year % 7
  weekday == 3 || (weekday == 2 && isLeapYear year)

/-- The day of a week of a year. -/
def ofWeek? (year week day : Nat) : Option Date :=
  if 1 ≤ year && year ≤ 9999 && 1 ≤ week && (week ≤ 52 || (week == 53 && hasLongYear year)) &&
      1 ≤ day && day ≤ 7 then
    some (ofDayNumber (firstMonday year + (week - 1) * 7 + (day - 1)))
  else none

end Date

end SchemaMill
