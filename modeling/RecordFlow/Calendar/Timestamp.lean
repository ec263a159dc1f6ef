import RecordFlow.Calendar.Date

/-!
# Instants

An instant is a day, a second of that day and nanoseconds, in universal time. A leap second shares
the number of the second before it and has a billion nanoseconds more.

## Main definitions

* `Timestamp`, `Timestamp.of?` — instants within the years in use
* `Timestamp.toIso` — the text with milliseconds, `Timestamp.toIsoFull` — the text without loss
* `Timestamp.addSeconds?`, `Timestamp.nanosSince` — moving an instant and measuring a span
-/

namespace RecordFlow

/-- The number of seconds of a day. -/
def secondsPerDay : Nat := 86400

/-- The number of nanoseconds of a second. -/
def nanosPerSecond : Nat := 1000000000

/-- The number of the first day in use. -/
def firstDay : Int := Date.yearStart Date.firstYear

/-- The number of the last day in use. -/
def lastDay : Int := Date.yearStart (Date.lastYear + 1) - 1

/-- An instant. -/
structure Timestamp where
  day : Int
  second : Nat
  nano : Nat
  day_in_use : firstDay ≤ day ∧ day ≤ lastDay
  second_lt : second < secondsPerDay
  nano_lt : nano < 2 * nanosPerSecond
  deriving DecidableEq

namespace Timestamp

/-- The first of January 1970, at midnight. -/
def epoch : Timestamp := ⟨0, 0, 0, by decide, by decide, by decide⟩

instance : Inhabited Timestamp := ⟨epoch⟩

/-- The instant of a second of a day, if the day is in use. -/
def ofDay? (day : Int) (second nano : Nat) : Option Timestamp :=
  if h : (firstDay ≤ day ∧ day ≤ lastDay) ∧ second < secondsPerDay ∧ nano < 2 * nanosPerSecond then
    some ⟨day, second, nano, h.1, h.2.1, h.2.2⟩
  else none

/-- The instant that is some seconds after the epoch. -/
def ofSeconds? (seconds : Int) (nano : Nat) : Option Timestamp :=
  ofDay? (seconds / secondsPerDay) (seconds % secondsPerDay).toNat nano

/-- The instant that is some milliseconds after the epoch. -/
def ofMillis? (millis : Int) : Option Timestamp :=
  ofSeconds? (millis / 1000) ((millis % 1000).toNat * 1000000)

/-- The seconds since the epoch. -/
def seconds (t : Timestamp) : Int := t.day * secondsPerDay + t.second

/-- The date of an instant. -/
def date (t : Timestamp) : Date := Date.ofDayNumber t.day

/-- The hour of the day. -/
def hour (t : Timestamp) : Nat := t.second / 3600

/-- The minute of the hour. -/
def minute (t : Timestamp) : Nat := t.second / 60 % 60

/-- The second of the minute; a leap second has the number of the one before it. -/
def secondOfMinute (t : Timestamp) : Nat := t.second % 60

/-- Whether the instant is in a leap second. -/
def isLeapSecond (t : Timestamp) : Bool := nanosPerSecond ≤ t.nano

/-- The second of the minute, 60 in a leap second. -/
def clockSecond (t : Timestamp) : Nat := t.secondOfMinute + t.nano / nanosPerSecond

/-- The nanosecond of the second. -/
def clockNano (t : Timestamp) : Nat := t.nano % nanosPerSecond

/-- Whether an instant comes before another one. -/
def before (a b : Timestamp) : Bool :=
  a.day < b.day || (a.day == b.day && (a.second < b.second ||
    (a.second == b.second && a.nano < b.nano)))

/-- A number with at least `width` digits. -/
def padded (width n : Nat) : String :=
  let digits := Nat.toDigits 10 n
  String.ofList (List.replicate (width - digits.length) '0' ++ digits)

/-- A year: four digits, or a sign and at least four digits for a year that needs them. -/
def yearText (year : Int) : String :=
  if year < 0 then "-" ++ padded 4 year.natAbs
  else if 9999 < year then "+" ++ padded 4 year.natAbs
  else padded 4 year.natAbs

/-- The date and the time of day up to the second. -/
def clockText (t : Timestamp) : String :=
  let d := t.date
  yearText d.year ++ "-" ++ padded 2 d.month ++ "-" ++ padded 2 d.day ++ "T" ++
    padded 2 t.hour ++ ":" ++ padded 2 t.minute ++ ":" ++ padded 2 t.clockSecond

/-- The fraction of a second without loss: no digits, or three, six or nine of them. -/
def fractionText (nano : Nat) : String :=
  if nano = 0 then ""
  else if nano % 1000000 = 0 then "." ++ padded 3 (nano / 1000000)
  else if nano % 1000 = 0 then "." ++ padded 6 (nano / 1000)
  else "." ++ padded 9 nano

/-- The text with milliseconds. -/
def toIso (t : Timestamp) : String := t.clockText ++ "." ++ padded 3 (t.clockNano / 1000000) ++ "Z"

/-- The text without loss. -/
def toIsoFull (t : Timestamp) : String := t.clockText ++ fractionText t.clockNano ++ "Z"

/-- The instant some seconds later or earlier. A leap second counts
only when it is left backwards. -/
def addSeconds? (t : Timestamp) (n : Int) : Option Timestamp :=
  if n = 0 then some t
  else if t.isLeapSecond then
    if 0 < n then ofSeconds? (t.seconds + n) (t.nano - nanosPerSecond)
    else ofSeconds? (t.seconds + 1 + n) (t.nano - nanosPerSecond)
  else ofSeconds? (t.seconds + n) t.nano

/-- The instant one millisecond earlier. -/
def previousMilli? (t : Timestamp) : Option Timestamp :=
  if 1000000 ≤ t.nano then ofDay? t.day t.second (t.nano - 1000000)
  else ofSeconds? (t.seconds - 1) (t.nano + 999000000)

/-- The instant with the milliseconds of `t` and nothing finer. -/
def truncateToMilli (t : Timestamp) : Timestamp :=
  { t with nano := t.nano / 1000000 * 1000000, nano_lt := by have := t.nano_lt; omega }

/-- The nanoseconds from `a` to `t`. A leap second between the times of day counts. -/
def nanosSince (t a : Timestamp) : Int :=
  let leap : Int :=
    if a.second < t.second && a.isLeapSecond then 1
    else if t.second < a.second && t.isLeapSecond then -1
    else 0
  (t.seconds - a.seconds + leap) * nanosPerSecond + ((t.nano : Int) - a.nano)

end Timestamp

end RecordFlow
