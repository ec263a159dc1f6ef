import RecordFlow.Calendar.Timestamp

/-!
# Calendar units

Moving an instant by whole units, counting the whole units of a span, and the start and the end of
the unit that an instant is in.

## Main definitions

* `DateUnit`, `DateUnit.seconds?` — the units; months and years have no fixed length
* `DateUnit.add?`, `DateUnit.difference` — moving and counting
* `DateUnit.startOf?`, `DateUnit.endOf?` — the bounds of a unit
-/

namespace RecordFlow

/-- A unit of the calendar. -/
inductive DateUnit where
  | day
  | week
  | month
  | year
  | hour
  | minute
  | second
  deriving DecidableEq, Inhabited

namespace DateUnit

/-- The length of a unit in seconds, for the units that have one. -/
def seconds? : DateUnit → Option Nat
  | second => some 1
  | minute => some 60
  | hour => some 3600
  | day => some 86400
  | week => some 604800
  | month => none
  | year => none

/-- The instant some months later or earlier, at the same time of day. -/
def addMonths? (t : Timestamp) (months : Int) : Option Timestamp :=
  if months = 0 then some t
  else (t.date.addMonths? months).bind fun date =>
    Timestamp.ofDay? date.dayNumber t.second t.nano

/-- The instant some units later or earlier. -/
def add? (unit : DateUnit) (t : Timestamp) (amount : Int) : Option Timestamp :=
  match unit with
  | month => addMonths? t amount
  | year => addMonths? t (amount * 12)
  | second => t.addSeconds? amount
  | minute => t.addSeconds? (amount * 60)
  | hour => t.addSeconds? (amount * 3600)
  | day => t.addSeconds? (amount * 86400)
  | week => t.addSeconds? (amount * 604800)

/-- The whole months from `start` to `t`, toward zero. -/
def monthsBetween (t start : Timestamp) : Int :=
  let months := (t.date.year - start.date.year) * 12 + ((t.date.month : Int) - start.date.month)
  match addMonths? start months with
  | some moved =>
    if 0 < months ∧ t.before moved then months - 1
    else if months < 0 ∧ moved.before t then months + 1
    else months
  | none => months

/-- The whole units from `start` to `t`, toward zero. -/
def difference (unit : DateUnit) (t start : Timestamp) : Int :=
  let seconds := (t.nanosSince start).tdiv nanosPerSecond
  match unit with
  | month => monthsBetween t start
  | year => (monthsBetween t start).tdiv 12
  | second => seconds
  | minute => seconds.tdiv 60
  | hour => seconds.tdiv 3600
  | day => seconds.tdiv 86400
  | week => seconds.tdiv 604800

/-- The first instant of the unit that `t` is in. Weeks start on Monday. -/
def startOf? (unit : DateUnit) (t : Timestamp) : Option Timestamp :=
  match unit with
  | second => Timestamp.ofDay? t.day t.second 0
  | minute => Timestamp.ofDay? t.day (t.second / 60 * 60) 0
  | hour => Timestamp.ofDay? t.day (t.second / 3600 * 3600) 0
  | day => Timestamp.ofDay? t.day 0 0
  | week => Timestamp.ofDay? (t.day - Date.weekdayOf t.day) 0 0
  | month => Timestamp.ofDay? (t.day - ((t.date.day : Int) - 1)) 0 0
  | year => Timestamp.ofDay? (Date.yearStart t.date.year) 0 0

/-- The last millisecond of the unit that `t` is in. -/
def endOf? (unit : DateUnit) (t : Timestamp) : Option Timestamp :=
  (unit.startOf? t).bind fun start => (unit.add? start 1).bind Timestamp.previousMilli?

end DateUnit

end RecordFlow
