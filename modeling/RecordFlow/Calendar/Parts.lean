import RecordFlow.Calendar.Timestamp

/-!
# Parts of dates

A text that is read as an instant names parts of it: a year, a weekday, an hour on the dial. Here
the parts are gathered and the day, the time of day and the instant are found that have all of them.

## Main definitions

* `TimeError` — why a text is not an instant
* `DateParts` — the parts that are known, each of which is set at most once
* `DateParts.date`, `DateParts.timeOfDay`, `DateParts.instant` — what the parts determine
-/

namespace RecordFlow

/-- Why a text is not an instant. -/
inductive TimeError where
  | outOfRange
  | impossible
  | notEnough
  | invalid
  | tooShort
  | tooLong
  deriving DecidableEq

/-- The text of an error. -/
def TimeError.message : TimeError → String
  | outOfRange => "input is out of range"
  | impossible => "no possible date and time matching input"
  | notEnough => "input is not enough for unique date and time"
  | invalid => "input contains invalid characters"
  | tooShort => "premature end of input"
  | tooLong => "trailing input"

/-- The parts of an instant that are known. `half` is the half of the day and `dial` the hour in it,
from 0; `offset` is in seconds east of universal time. -/
structure DateParts where
  year : Option Int := none
  century : Option Int := none
  yearOfCentury : Option Int := none
  isoYear : Option Int := none
  isoYearOfCentury : Option Int := none
  quarter : Option Nat := none
  month : Option Nat := none
  sundayWeek : Option Nat := none
  mondayWeek : Option Nat := none
  isoWeek : Option Nat := none
  weekday : Option Nat := none
  dayOfYear : Option Nat := none
  day : Option Nat := none
  half : Option Nat := none
  dial : Option Nat := none
  minute : Option Nat := none
  second : Option Nat := none
  nanosecond : Option Nat := none
  epochSeconds : Option Int := none
  offset : Option Int := none

namespace DateParts

/-- A part that is set to a value: one that has another value already is impossible. -/
def agree {α : Type} [DecidableEq α] (known : Option α) (value : α) : Except TimeError (Option α) :=
  match known with
  | some old => if old = value then .ok known else .error .impossible
  | none => .ok (some value)

/-- A part whose value has to lie in a range. -/
def agreeWithin (low high : Nat) (known : Option Nat) (value : Int) :
    Except TimeError (Option Nat) :=
  if low ≤ value ∧ value ≤ high then agree known value.toNat else .error .outOfRange

/-- A part that is a year, in the range of 32-bit integers. -/
def agreeYear (known : Option Int) (value : Int) : Except TimeError (Option Int) :=
  if -(Nat.pow 2 31) ≤ value ∧ value < Nat.pow 2 31 then agree known value else .error .outOfRange

/-- A part that is a year of a century. -/
def agreeYearOfCentury (known : Option Int) (value : Int) : Except TimeError (Option Int) :=
  if 0 ≤ value ∧ value < 100 then agree known value else .error .outOfRange

/-- Sets the hour of the day. -/
def setHour (parts : DateParts) (value : Int) : Except TimeError DateParts :=
  if 0 ≤ value ∧ value < 24 then do
    let half ← agree parts.half (value.toNat / 12)
    let dial ← agree parts.dial (value.toNat % 12)
    return { parts with half, dial }
  else .error .outOfRange

/-- Sets the hour on the dial, from 1 to 12. -/
def setDialHour (parts : DateParts) (value : Int) : Except TimeError DateParts :=
  if 1 ≤ value ∧ value ≤ 12 then do
    return { parts with dial := ← agree parts.dial (value.toNat % 12) }
  else .error .outOfRange

/-- The year that is meant by a year, a century and a year of a century. A year of a century alone
is taken from 1970 to 2069. -/
def resolveYear : (year century yearOfCentury : Option Int) → Except TimeError (Option Int)
  | year, none, none => .ok year
  | some year, century, ofCentury =>
    if 0 ≤ year ∧ century.getD (year / 100) = year / 100 ∧
      ofCentury.getD (year % 100) = year % 100 then
      .ok (some year)
    else .error .impossible
  | none, some century, some ofCentury => .ok (some (century * 100 + ofCentury))
  | none, none, some ofCentury => .ok (some (ofCentury + if ofCentury < 70 then 2000 else 1900))
  | none, some _, none => .error .notEnough

/-- Whether a part is unknown or has a value. -/
def allows {α : Type} [DecidableEq α] (known : Option α) (value : α) :
    Bool := known.getD value = value

/-- Whether a year, which may be negative, has the given century and year of the century. -/
def allowsYear (year century yearOfCentury : Option Int) (value : Int) : Bool :=
  allows year value && (value ≥ 0 || (century.isNone && yearOfCentury.isNone)) &&
    allows century (value / 100) && allows yearOfCentury (value % 100)

/-- Whether a date has all parts that are known. -/
def matchesDate (parts : DateParts) (date : Date) : Bool :=
  allowsYear parts.year parts.century parts.yearOfCentury date.year &&
    allows parts.month date.month && allows parts.day date.day &&
    allows parts.quarter date.quarter &&
    allowsYear parts.isoYear none parts.isoYearOfCentury date.isoWeek.1 &&
    allows parts.isoWeek date.isoWeek.2 && allows parts.weekday date.weekday &&
    allows parts.dayOfYear date.dayOfYear && allows parts.sundayWeek (date.weekFrom 6) &&
    allows parts.mondayWeek (date.weekFrom 0)

/-- The date of a weekday of a week of a year, where weeks start on the weekday `start`. -/
def dateOfWeek (year : Int) (week weekday start : Nat) : Except TimeError Date :=
  if Date.yearInUse year then
    -- The days in front of the first start of a week are in week zero.
    let first := Date.weekdayOf (Date.yearStart year)
    let firstWeek := 1 + (start + 7 - first) % 7
    let day : Int := firstWeek + ((week : Int) - 1) * 7 + ((weekday + 7 - start) % 7 : Nat)
    if day ≤ 0 then .error .impossible
    else match Date.ofDayOfYear? year day.toNat with
      | some date => .ok date
      | none => .error .impossible
  else .error .outOfRange

/-- What is known to be absent is out of range. -/
def inRange {α : Type} : Option α → Except TimeError α
  | some a => .ok a
  | none => .error .outOfRange

/-- A date of a day of a year in use. -/
def dateOfDay (year : Int) (day : Nat) : Except TimeError Date :=
  if Date.yearInUse year then inRange (Date.ofDayOfYear? year day) else .error .outOfRange

/-- A date that some of the parts determine, by the first of the possible ways. -/
def candidate (parts : DateParts) (year isoYear : Option Int) : Except TimeError Date :=
  match year, parts.month, parts.day, parts.dayOfYear, parts.sundayWeek,
    parts.mondayWeek, parts.weekday with
  | some y, some month, some day, _, _, _, _ => inRange (Date.of? y month day)
  | some y, _, _, some day, _, _, _ => dateOfDay y day
  | some y, _, _, _, some week, _, some weekday => dateOfWeek y week weekday 6
  | some y, _, _, _, _, some week, some weekday => dateOfWeek y week weekday 0
  | _, _, _, _, _, _, some weekday =>
    match isoYear, parts.isoWeek with
    | some y, some week => inRange (Date.ofIsoWeek? y week weekday)
    | _, _ => .error .notEnough
  | _, _, _, _, _, _, none => .error .notEnough

/-- The date of the parts. -/
def date (parts : DateParts) : Except TimeError Date := do
  let year ← resolveYear parts.year parts.century parts.yearOfCentury
  let isoYear ← resolveYear parts.isoYear none parts.isoYearOfCentury
  let date ← candidate parts year isoYear
  if parts.matchesDate date then return date else throw .impossible

/-- What is needed and not known. -/
def needed {α : Type} : Option α → Except TimeError α
  | some a => .ok a
  | none => .error .notEnough

/-- The second of the day and the nanoseconds of the parts. Seconds may be left out; a
fraction goes with a second. -/
def timeOfDay (parts : DateParts) : Except TimeError (Nat × Nat) := do
  let half ← needed parts.half
  let dial ← needed parts.dial
  let minute ← needed parts.minute
  let second := parts.second.getD 0
  let nano ← match parts.nanosecond, parts.second with
    | none, _ => pure 0
    | some nano, some _ => pure nano
    | some _, none => throw .notEnough
  let start := (half * 12 + dial) * 3600 + minute * 60
  -- A leap second goes on counting in the nanoseconds of the second before it.
  if second = 60 then return (start + 59, nanosPerSecond + nano) else return (start + second, nano)

/-- The instant of a date and a time of day. -/
def join (date : Date) (time : Nat × Nat) : Except TimeError Timestamp :=
  inRange (Timestamp.ofDay? date.dayNumber time.1 time.2)

/-- Whether the seconds since the epoch that a text gives are those of an instant. -/
def matchesEpoch (t : Timestamp) (seconds given : Int) : Bool :=
  given = seconds || (t.isLeapSecond && given = seconds + 1)

/-- The instant of the seconds since the epoch, in which the other parts have to agree. -/
def instantOfEpoch (parts : DateParts) (seconds : Int) : Except TimeError Timestamp := do
  let given ← inRange (Timestamp.ofSeconds? seconds 0)
  let (t, second) ←
    if parts.second = some 60 then
      -- A leap second is counted as the second before it or as the one behind it.
      match given.secondOfMinute with
      | 59 => pure (given, parts.second)
      | 0 => do
        let t ← inRange (Timestamp.ofSeconds? (seconds - 1) 0)
        pure (t, parts.second)
      | _ => throw .impossible
    else do
      let second ← agree parts.second given.secondOfMinute
      pure (given, second)
  let year ← agree parts.year t.date.year
  let dayOfYear ← agree parts.dayOfYear t.date.dayOfYear
  let parts ← setHour { parts with second, year, dayOfYear } t.hour
  let minute ← agree parts.minute t.minute
  let parts := { parts with minute }
  join (← parts.date) (← parts.timeOfDay)

/-- Whether something failed for a cause. -/
def failedFor {α : Type} (cause : TimeError) : Except TimeError α → Bool
  | .error error => error == cause
  | .ok _ => false

/-- The instant of the parts in a zone that is `offset` seconds east of universal time, as it is
read on the clocks of the zone. -/
def localInstant (parts : DateParts) (offset : Int) : Except TimeError Timestamp :=
  match parts.date, parts.timeOfDay with
  | .ok date, .ok time => do
    let t ← join date time
    match parts.epochSeconds with
    | some given =>
      if matchesEpoch t (t.seconds - offset) given then return t else throw .impossible
    | none => return t
  | date, time =>
    match parts.epochSeconds with
    -- What the other parts leave open the seconds since the epoch
    -- tell, but they mend no wrong part.
    | some seconds =>
      if failedFor .outOfRange date || failedFor .outOfRange time then .error .outOfRange
      else if failedFor .impossible date || failedFor .impossible time then .error .impossible
      else parts.instantOfEpoch (seconds + offset)
    | none => do
      let _ ← date
      let _ ← time
      throw .notEnough

/-- The instant of parts that include an offset. -/
def instant (parts : DateParts) : Except TimeError Timestamp := do
  let offset ← match parts.offset, parts.epochSeconds with
    | some offset, _ => pure offset
    | none, some _ => pure 0
    | none, none => throw .notEnough
  let t ← parts.localInstant offset
  if offset.natAbs < secondsPerDay then
    match Timestamp.ofSeconds? (t.seconds - offset) t.nano with
    | some moved => return moved
    | none => throw .impossible
  else throw .outOfRange

end DateParts

end RecordFlow
