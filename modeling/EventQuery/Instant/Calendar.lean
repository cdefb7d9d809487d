/-
**The calendar.**

Dates are those of the Gregorian calendar, extended in both directions, and are counted in days from
1 January 1970.  A year is taken to begin in March, so that the leap day comes last; four hundred
such years have 146097 days.

Main definitions:

* `Calendar.Date` — year, month and day;
* `Calendar.daysOf`, `Calendar.dateOf` — the number of days of a date and back;
* `Calendar.isValid` — the day exists in its month;
* `Calendar.weekday`, `Calendar.ordinal`, `Calendar.isoWeek` — the other views of a day.
-/

set_option relaxedAutoImplicit false
set_option autoImplicit false

namespace EventQuery

namespace Calendar

/-- A year, a month from 1 to 12 and a day from 1. -/
structure Date where
  year : Int
  month : Int
  day : Int
  deriving DecidableEq, Repr

/-! ### Lengths -/

/-- Every fourth year is a leap year, except that of the full centuries only every fourth is. -/
def isLeap (year : Int) : Bool := year % 4 == 0 && (year % 100 != 0 || year % 400 == 0)

/-- The number of days of a month. -/
def monthLength (year month : Int) : Int :=
  if month = 2 then if isLeap year then 29 else 28
  else if month = 4 ∨ month = 6 ∨ month = 9 ∨ month = 11 then 30
  else 31

/-- The day exists. -/
def isValid (d : Date) : Bool :=
  1 ≤ d.month && d.month ≤ 12 && 1 ≤ d.day && d.day ≤ monthLength d.year d.month

/-! ### Days from 1970 -/

/-- The days from 1 January 1970 to a date. -/
def daysOf (d : Date) : Int :=
  let year := if d.month ≤ 2 then d.year - 1 else d.year
  let month := if d.month ≤ 2 then d.month + 9 else d.month - 3
  let era := year / 400
  let yearOfEra := year % 400
  let dayOfYear := (153 * month + 2) / 5 + d.day - 1
  era * 146097 + yearOfEra * 365 + yearOfEra / 4 - yearOfEra / 100 + dayOfYear - 719468

/-- The date that lies a number of days after 1 January 1970. -/
def dateOf (days : Int) : Date :=
  let shifted := days + 719468
  let era := shifted / 146097
  let dayOfEra := shifted % 146097
  let yearOfEra :=
    (dayOfEra - dayOfEra / 1460 + dayOfEra / 36524 - dayOfEra / 146096) / 365
  let dayOfYear := dayOfEra - (365 * yearOfEra + yearOfEra / 4 - yearOfEra / 100)
  let month := (5 * dayOfYear + 2) / 153
  let day := dayOfYear - (153 * month + 2) / 5 + 1
  let year := yearOfEra + era * 400
  if month < 10 then ⟨year, month + 3, day⟩ else ⟨year + 1, month - 9, day⟩

/-! ### Other views of a day -/

/-- The day of the week, Sunday being zero. -/
def weekday (days : Int) : Int := (days + 4) % 7

/-- The day of the year, from one. -/
def ordinal (days : Int) : Int := days - daysOf ⟨(dateOf days).year, 1, 1⟩ + 1

/-- The week of the year: weeks begin on Monday and belong to the year of their Thursday. -/
def isoWeek (days : Int) : Int :=
  let thursday := days - (days + 3) % 7 + 3
  (ordinal thursday - 1) / 7 + 1

/-- The names of the months. -/
def monthNames : List String :=
  ["January", "February", "March", "April", "May", "June", "July", "August", "September",
    "October", "November", "December"]

/-- The names of the days of the week, from Sunday. -/
def weekdayNames : List String :=
  ["Sunday", "Monday", "Tuesday", "Wednesday", "Thursday", "Friday", "Saturday"]

end Calendar

end EventQuery
