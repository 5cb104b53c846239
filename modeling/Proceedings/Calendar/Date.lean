/-! # Dates

Dates of the Gregorian calendar, in the years 1 to 9999, and the numbering of their days from
1 January of the year 1, which is day 0 and a Monday.
-/

namespace Proceedings

structure Date where
  year : Nat
  month : Nat
  day : Nat
  deriving DecidableEq

namespace Date

/-- Whether 29 February exists in a year. -/
def isLeap (year : Nat) : Bool :=
  year % 4 == 0 && (year % 100 != 0 || year % 400 == 0)

/-- The lengths of the months of a year. -/
def monthLengths (leap : Bool) : List Nat :=
  [31, if leap then 29 else 28, 31, 30, 31, 30, 31, 31, 30, 31, 30, 31]

def daysInMonth (year month : Nat) : Nat :=
  if month = 0 then 0 else (monthLengths (isLeap year)).getD (month - 1) 0

def daysBeforeYear (year : Nat) : Nat :=
  (year - 1) * 365 + (year - 1) / 4 - (year - 1) / 100 + (year - 1) / 400

/-- The number of days before a month of a year. -/
def daysBeforeMonth (leap : Bool) (month : Nat) : Nat :=
  ((monthLengths leap).take (month - 1)).foldl (· + ·) 0

/-- The number of a date's day. -/
def dayNumber (d : Date) : Nat :=
  daysBeforeYear d.year + daysBeforeMonth (isLeap d.year) d.month + (d.day - 1)

/-- The month, counted from `month` on, and the day of the month that a day falls on, given the
lengths of the months to come. -/
def locate : Nat → List Nat → Nat → Nat × Nat
  | month, [], rest => (month, rest + 1)
  | month, length :: lengths, rest =>
    if rest < length then (month, rest + 1) else locate (month + 1) lengths (rest - length)

/-- The date of a day. A cycle of 400 years has four centuries, the last one a day longer, and a
cycle of four years has a leap year at its end. -/
def ofDayNumber (n : Nat) : Date :=
  let centuries := min (n % 146097 / 36524) 3
  let inCentury := n % 146097 - centuries * 36524
  let years := min (inCentury % 1461 / 365) 3
  let inYear := inCentury % 1461 - years * 365
  let year := n / 146097 * 400 + centuries * 100 + inCentury / 1461 * 4 + years + 1
  let (month, day) := locate 1 (monthLengths (isLeap year)) inYear
  ⟨year, month, day⟩

/-- The day of the week, Monday being 0. -/
def weekday (dayNumber : Nat) : Nat :=
  dayNumber % 7

/-- The Monday of the first week of a year: the week that holds the year's first Thursday. -/
def firstMonday (year : Nat) : Nat :=
  let first := daysBeforeYear year
  if weekday first ≤ 3 then first - weekday first else first + 7 - weekday first

/-- A year has 53 weeks if it starts on a Thursday, or on a Wednesday if it is a leap year. -/
def hasLongWeekYear (year : Nat) : Bool :=
  let first := weekday (daysBeforeYear year)
  first == 3 || (first == 2 && isLeap year)

/-- The date of a day of a week, Monday being 1. The year 0 has weeks but no dates: its month is
given as 0. -/
def ofWeek? (year week day : Nat) : Option Date :=
  if year = 0 then
    if 1 ≤ week && week ≤ 52 && 1 ≤ day && day ≤ 7 then some ⟨1, 0, 0⟩ else none
  else if 1 ≤ week && (week ≤ 52 || (week == 53 && hasLongWeekYear year)) &&
      1 ≤ day && day ≤ 7 then
    some (ofDayNumber (firstMonday year + (week - 1) * 7 + (day - 1)))
  else none

end Date

end Proceedings
