/-!
# Calendar dates

Days of the Gregorian calendar, extended to all years. A date is a year, a month and a day of the
month; a day is also known by its number, counted from the first of January 1970.

## Main definitions

* `Date`, `Date.dayNumber`, `Date.ofDayNumber` — dates and the numbers of their days
* `Date.valid` — the dates that exist
* `Date.weekday`, `Date.dayOfYear`, `Date.isoWeek` — other ways to name a day
-/

namespace RecordFlow

/-- A year, a month from 1 to 12 and a day of the month from 1. -/
structure Date where
  year : Int
  month : Nat
  day : Nat
  deriving DecidableEq

namespace Date

/-- Whether a year has a twenty-ninth of February. -/
def isLeap (year : Int) : Bool := year % 4 == 0 && (year % 100 != 0 || year % 400 == 0)

/-- The number of days of February. -/
def februaryLength (year : Int) : Nat := if isLeap year then 29 else 28

/-- The numbers of days of the months of a year. -/
def monthLengths (year : Int) : List Nat :=
  [31, februaryLength year, 31, 30, 31, 30, 31, 31, 30, 31, 30, 31]

/-- The number of days of a month. -/
def monthLength (year : Int) (month : Nat) : Nat := (monthLengths year).getD (month - 1) 0

/-- The number of days of a year. -/
def yearLength (year : Int) : Nat := if isLeap year then 366 else 365

/-- Whether there is such a day. -/
def valid (date : Date) : Bool :=
  1 ≤ date.month && date.month ≤ 12 && 1 ≤ date.day && date.day ≤ monthLength date.year date.month

/-- The number of the first day of a year. -/
def yearStart (year : Int) : Int :=
  365 * (year - 1) + (year - 1) / 4 - (year - 1) / 100 + (year - 1) / 400 - 719162

/-- The number of days of a year before a month. -/
def monthStart (year : Int) (month : Nat) : Nat :=
  ((monthLengths year).take (month - 1)).foldr (· + ·) 0

/-- The day of the year, from 1. -/
def dayOfYear (date : Date) : Nat := monthStart date.year date.month + date.day

/-- The number of a day, 0 for the first of January 1970. -/
def dayNumber (date : Date) : Int := yearStart date.year + date.dayOfYear - 1

/-- The year of a day. An estimate from the mean length of a year is off by one year at most. -/
def yearOfDay (day : Int) : Int :=
  let estimate := day * 400 / 146097 + 1970
  if day < yearStart estimate then estimate - 1
  else if yearStart (estimate + 1) ≤ day then estimate + 1
  else estimate

/-- The month and the day of the month of a day of a year that is counted from 0, given the lengths
of the months from `month` on. -/
def monthAndDay : (lengths : List Nat) → (month day : Nat) → Nat × Nat
  | [], month, day => (month, day + 1)
  | length :: lengths, month, day =>
    if day < length then (month, day + 1) else monthAndDay lengths (month + 1) (day - length)

/-- The date of a day by its number. -/
def ofDayNumber (day : Int) : Date :=
  let year := yearOfDay day
  let (month, dayOfMonth) := monthAndDay (monthLengths year) 1 (day - yearStart year).toNat
  ⟨year, month, dayOfMonth⟩

/-- The date of a day of a year. -/
def ofDayOfYear? (year : Int) (day : Nat) : Option Date :=
  if 1 ≤ day ∧ day ≤ yearLength year then some (ofDayNumber (yearStart year + day - 1)) else none

/-- The first year whose dates are in use. -/
def firstYear : Int := -262143

/-- The last year whose dates are in use. -/
def lastYear : Int := 262142

/-- Whether the dates of a year are in use. -/
def yearInUse (year : Int) : Bool := firstYear ≤ year && year ≤ lastYear

/-- The date of a year, a month and a day, if it exists and is in use. -/
def of? (year : Int) (month day : Nat) : Option Date :=
  let date : Date := ⟨year, month, day⟩
  if date.valid && yearInUse year then some date else none

/-- The day of the week of a day by its number; Monday is 0. -/
def weekdayOf (day : Int) : Nat := ((day + 3) % 7).toNat

/-- The day of the week; Monday is 0. -/
def weekday (date : Date) : Nat := weekdayOf date.dayNumber

/-- The number of the week of the year, where weeks start on the weekday `start` and the days before
the first start are in week 0. -/
def weekFrom (date : Date) (start : Nat) : Nat :=
  (date.dayOfYear + 6 - (date.weekday + 7 - start) % 7) / 7

/-- The year of the week that a day is in, and the number of the week in it. A week belongs
to the year of its Thursday. -/
def isoWeek (date : Date) : Int × Nat :=
  let thursday := ofDayNumber (date.dayNumber - date.weekday + 3)
  (thursday.year, (thursday.dayOfYear - 1) / 7 + 1)

/-- The date of a weekday of a week. A year has 52 or 53 weeks. -/
def ofIsoWeek? (year : Int) (week weekday : Nat) : Option Date :=
  let fourth := yearStart year + 3
  let monday := fourth - weekdayOf fourth + 7 * ((week : Int) - 1)
  let date := ofDayNumber (monday + weekday)
  if date.isoWeek = (year, week) && yearInUse date.year then some date else none

/-- The quarter of the year. -/
def quarter (date : Date) : Nat := (date.month - 1) / 3 + 1

/-- The date some months later or earlier. The day is cut to the length of the month. -/
def addMonths? (date : Date) (months : Int) : Option Date :=
  let total := date.year * 12 + (date.month : Int) - 1 + months
  let year := total / 12
  let month := (total % 12).toNat + 1
  of? year month (min date.day (monthLength year month))

end Date

end RecordFlow
