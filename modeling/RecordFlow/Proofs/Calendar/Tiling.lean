import RecordFlow.Calendar.Unit
import RecordFlow.Proofs.Calendar.Difference

/-!
# Units tile the time

Every unit divides the time into numbered pieces without gap or overlap. An instant is in one of the
pieces up to its own exactly if it is not before its first instant; with that, the start and the end
of a unit are the bounds of the piece that an instant is in. The last millisecond of a piece is
followed by the first instant of the next one, as far as instants of whole milliseconds go.

## Main definitions

* `DateUnit.index` — the number of the piece that an instant is in
* `DateUnit.startSecond` — the second with which a piece starts
* `Timestamp.IsWholeMilli` — an instant of whole milliseconds that is in no leap second

## Main results

* `DateUnit.startSecond_le_iff` — when a piece has started
* `DateUnit.startOf?_eq_some_iff`, `DateUnit.endOf?_eq_some_iff` — the
  bounds of the piece of an instant
* `DateUnit.startOf?_endOf?_tile` — the pieces tile the time
-/

namespace RecordFlow

variable {unit : DateUnit} {t e start stop next r : Timestamp} {k : ℤ}

namespace DateUnit

open Date

/-- The number of the piece of the time that an instant is in. -/
def index (t : Timestamp) : DateUnit → ℤ
  | second => t.seconds
  | minute => t.seconds / 60
  | hour => t.seconds / 3600
  | day => t.day
  | week => (t.day + 3) / 7
  | month => t.date.monthIndex
  | year => t.date.year

/-- The second since the epoch with which a piece starts; weeks start on Monday,
and the epoch was a Thursday. -/
def startSecond (k : ℤ) : DateUnit → ℤ
  | second => k
  | minute => k * 60
  | hour => k * 3600
  | day => k * 86400
  | week => (k * 7 - 3) * 86400
  | month => firstOfMonth k * 86400
  | year => yearStart k * 86400

/-- A piece has started exactly if it is one of those up to the piece of the instant. -/
theorem startSecond_le_iff : unit.startSecond k ≤ t.seconds ↔ k ≤ unit.index t := by
  have := t.second_lt'
  have days (day : ℤ) : day * 86400 ≤ t.seconds ↔ day ≤ t.day := by
    rw [Timestamp.seconds_eq]
    omega
  cases unit with
  | month => exact (days _).trans firstOfMonth_le_iff
  | year => exact (days _).trans yearStart_le_iff
  | day => exact days k
  | week =>
    refine (days _).trans ?_
    rw [index]
    omega
  | second => exact Iff.rfl
  | minute | hour =>
    rw [index, startSecond]
    omega

theorem startSecond_le_startSecond_iff {a b : ℤ} :
    unit.startSecond a ≤ unit.startSecond b ↔ a ≤ b := by
  have months := firstOfMonth_le_firstOfMonth_iff (a := a) (b := b)
  have years := yearStart_le_yearStart_iff (a := a) (b := b)
  cases unit with
  | second => exact Iff.rfl
  | _ =>
    rw [startSecond, startSecond]
    omega

/-- The first instant of a piece is in it. -/
theorem index_eq_of_seconds (h : start.seconds = unit.startSecond k) : unit.index start = k := by
  apply le_antisymm
  · rw [← startSecond_le_startSecond_iff, ← h]
    exact startSecond_le_iff.mpr le_rfl
  · exact startSecond_le_iff.mp h.ge

/-- What comes behind the first instant of a piece is in no earlier one. -/
theorem le_iff_index_le (h : start.seconds = unit.startSecond k) (hnano : start.nano = 0) :
    start ≤ e ↔ k ≤ unit.index e := by
  rw [← startSecond_le_iff, ← h, Timestamp.le_iff, hnano]
  omega

theorem index_le_of_le (h : t ≤ e) : unit.index t ≤ unit.index e :=
  startSecond_le_iff.mp ((startSecond_le_iff.mpr le_rfl).trans (Timestamp.seconds_le_of_le h))

/-! ### The start -/

/-- The start of an instant is the first instant of the piece that it is in. -/
theorem startOf?_eq_some_iff :
    unit.startOf? t = some start ↔
      start.seconds = unit.startSecond (unit.index t) ∧ start.nano = 0 := by
  have := t.second_lt'
  have seconds := t.seconds_eq
  have midnight (day : ℤ) :
      Timestamp.ofDay? day 0 0 = some start ↔ start.seconds = day * 86400 ∧ start.nano = 0 := by
    rw [Timestamp.ofDay?_eq_some_iff_seconds (by decide), Nat.cast_zero, add_zero]
  cases unit with
  | second =>
    rw [startOf?, Timestamp.ofDay?_eq_some_iff_seconds t.second_lt']
    exact Iff.rfl
  | minute | hour =>
    rw [startOf?, Timestamp.ofDay?_eq_some_iff_seconds (by omega), index, startSecond]
    omega
  | day => exact midnight _
  | week =>
    have monday : t.day - (weekdayOf t.day : ℕ) = (t.day + 3) / 7 * 7 - 3 := by
      rw [weekdayOf]
      omega
    rw [startOf?, monday]
    exact midnight _
  | month =>
    have first : t.day - ((t.date.day : ℤ) - 1) = firstOfMonth t.date.monthIndex := by
      have number : t.date.dayNumber = _ := dayNumber_eq (ofDayNumber_spec t.day).1
      rw [Timestamp.date, dayNumber_ofDayNumber] at number
      rw [Timestamp.date]
      omega
    rw [startOf?, first]
    exact midnight _
  | year => exact midnight _

theorem index_eq_of_startOf? (h : unit.startOf? t = some start) : unit.index start = unit.index t :=
  index_eq_of_seconds (startOf?_eq_some_iff.mp h).1

/-- An instant is a start if it is the first instant of a piece. -/
theorem startOf?_self (h : start.seconds = unit.startSecond k) (hnano : start.nano = 0) :
    unit.startOf? start = some start := by
  rw [startOf?_eq_some_iff, index_eq_of_seconds h]
  exact ⟨h, hnano⟩

/-- The start of an instant is that of all instants of its piece. -/
theorem startOf?_eq_some_iff_index (h : unit.startOf? t = some start) :
    unit.startOf? e = some start ↔ unit.index e = unit.index t := by
  constructor
  · intro he
    rw [← index_eq_of_startOf? h, index_eq_of_startOf? he]
  · intro same
    rwa [startOf?_eq_some_iff, same, ← startOf?_eq_some_iff]

/-- Only a week may start in front of the days in use. -/
theorem startOf?_eq_none_iff :
    unit.startOf? t = none ↔ unit = week ∧ t.day - (weekdayOf t.day : ℕ) < firstDay := by
  have inUse := t.day_in_use
  have := t.second_lt'
  have seconds := t.seconds_eq
  have begun : unit.startSecond (unit.index t) ≤ t.seconds := startSecond_le_iff.mpr le_rfl
  have found : (∃ start, unit.startOf? t = some start) ↔
    firstDay ≤ unit.startSecond (unit.index t) / 86400 ∧
      unit.startSecond (unit.index t) / 86400 ≤ lastDay := by
    rw [← @Timestamp.exists_ofSeconds?_iff _ 0 (by decide)]
    simp only [startOf?_eq_some_iff, Timestamp.ofSeconds?_eq_some_iff]
  rw [Option.eq_none_iff_forall_ne_some, ← not_exists, found]
  cases unit with
  | week =>
    rw [startSecond, index] at *
    rw [weekdayOf]
    simp only [true_and]
    omega
  | month =>
    have first : firstDay ≤ firstOfMonth t.date.monthIndex := by
      rw [firstDay, ← firstOfMonth_mul_twelve]
      refine firstOfMonth_le_firstOfMonth_iff.mpr (firstOfMonth_le_iff.mp ?_)
      rw [firstOfMonth_mul_twelve]
      exact inUse.1
    rw [startSecond, index] at *
    simp only [reduceCtorEq, false_and, iff_false, not_not]
    omega
  | year =>
    have first : firstDay ≤ yearStart t.date.year :=
      yearStart_le_yearStart (yearStart_le_iff.mp inUse.1)
    rw [startSecond, index] at *
    simp only [reduceCtorEq, false_and, iff_false, not_not]
    omega
  | _ =>
    rw [startSecond, index] at *
    simp only [reduceCtorEq, false_and, iff_false, not_not]
    omega

/-! ### The next piece -/

/-- Some months from the first day of a month lead to the first day of another one. -/
theorem addMonths?_firstOfMonth {m n : ℤ} (h : t.day = firstOfMonth m) : addMonths? t n = some r ↔
    r.day = firstOfMonth (m + n) ∧ r.second = t.second ∧ r.nano = t.nano := by
  have valid := (ofDayNumber_spec t.day).1
  have index : t.date.monthIndex = m := by rw [Timestamp.date, h, monthIndex_firstOfMonth]
  have first : t.date.day = 1 := by
    have number : t.date.dayNumber = firstOfMonth t.date.monthIndex + t.date.day - 1 :=
      dayNumber_eq valid
    rw [index, ← h, Timestamp.date, dayNumber_ofDayNumber] at number
    rw [Timestamp.date]
    omega
  rw [addMonths?_eq_some_iff, index, first, dayNumber_inMonth_one]

/-- A unit later than the first instant of a piece is the first instant of the next one. -/
theorem add?_one_eq_some_iff (h : start.seconds = unit.startSecond k) (hnano : start.nano = 0) :
    unit.add? start 1 = some next ↔ next.seconds = unit.startSecond (k + 1) ∧ next.nano = 0 := by
  have regular : start.isLeapSecond = false := by
    rw [Timestamp.isLeapSecond_eq_false_iff, hnano]; decide
  have := start.second_lt'
  have := next.second_lt'
  have start_seconds := start.seconds_eq
  have next_seconds := next.seconds_eq
  cases unit with
  | month =>
    rw [startSecond] at h ⊢
    rw [add?, addMonths?_firstOfMonth (m := k) (by omega)]
    omega
  | year =>
    rw [startSecond] at h ⊢
    have twelve : k * 12 + 1 * 12 = (k + 1) * 12 := by ring
    rw [add?, addMonths?_firstOfMonth (m := k * 12) (by rw [firstOfMonth_mul_twelve]; omega),
      twelve, firstOfMonth_mul_twelve]
    omega
  | _ =>
    rw [startSecond] at h ⊢
    rw [add?, Timestamp.addSeconds?_eq_some_iff regular]
    omega

/-- The end of an instant is a millisecond in front of the next piece. -/
theorem endOf?_eq_some_iff (h : unit.startOf? t = some start) : unit.endOf? t = some stop ↔
    ∃ next, unit.add? start 1 = some next ∧ next.later? (-1000000) = some stop := by
  obtain ⟨seconds, nano⟩ := startOf?_eq_some_iff.mp h
  rw [endOf?, h, Option.bind_some, Option.bind_eq_some_iff]
  refine exists_congr fun next => and_congr_right fun hnext => ?_
  rw [Timestamp.previousMilli?_eq]
  rw [Timestamp.isLeapSecond_eq_false_iff, ((add?_one_eq_some_iff seconds nano).mp hnext).2]
  decide

end DateUnit

/-- An instant of whole milliseconds that is in no leap second. -/
def Timestamp.IsWholeMilli (t : Timestamp) : Prop := t.isLeapSecond = false ∧ t.nano % 1000000 = 0

instance : DecidablePred Timestamp.IsWholeMilli := fun _ => inferInstanceAs (Decidable (_ ∧ _))

/-- Of whole milliseconds, those in front of one are the ones up to the one before it. -/
theorem Timestamp.IsWholeMilli.le_iff_lt (ht : t.IsWholeMilli) (hnext : next.IsWholeMilli)
    (h : next.later? (-1000000) = some stop) : t ≤ stop ↔ t < next := by
  obtain ⟨nanos, regular⟩ := later?_eq_some_iff.mp h
  rw [le_iff_nanos ht.1 regular, lt_iff_nanos ht.1 hnext.1, nanos]
  have ht_nanos : t.nanos = t.seconds * 1000000000 + t.nano := rfl
  have hnext_nanos : next.nanos = next.seconds * 1000000000 + next.nano := rfl
  have := ht.2
  have := hnext.2
  omega

namespace DateUnit

open Date

/-- **The units tile the time.** The start of an instant is defined but for a week that begins in
front of the days in use. It does not lie behind the instant, it is its own start, and later
instants have no earlier starts. If the unit has an end, then the end is its own end and does not
lie in front of the instant, a millisecond later is the start of the next unit, and the instants of
whole milliseconds from the start to the end are those with this start. -/
theorem startOf?_endOf?_tile (unit : DateUnit) {d : Timestamp} (hd : d.IsWholeMilli) :
    (unit.startOf? d = none ↔ unit = week ∧ d.day - (weekdayOf d.day : ℕ) < firstDay) ∧
    ∀ start, unit.startOf? d = some start →
      start ≤ d ∧ unit.startOf? start = some start ∧
      (∀ e eStart, unit.startOf? e = some eStart → d ≤ e → start ≤ eStart) ∧
      ∀ stop, unit.endOf? d = some stop →
        d ≤ stop ∧ unit.endOf? stop = some stop ∧
        (∃ next, stop.later? 1000000 = some next ∧ unit.startOf? next = some next ∧
          unit.add? start 1 = some next) ∧
        ∀ e, e.IsWholeMilli → (unit.startOf? e = some start ↔ start ≤ e ∧ e ≤ stop) := by
  refine ⟨startOf?_eq_none_iff, fun start hstart => ?_⟩
  obtain ⟨start_seconds, start_nano⟩ := startOf?_eq_some_iff.mp hstart
  have own : unit.startOf? start = some start :=
    (startOf?_eq_some_iff_index hstart).mpr (index_eq_of_startOf? hstart)
  have start_le (e : Timestamp) : start ≤ e ↔ unit.index d ≤ unit.index e :=
    le_iff_index_le start_seconds start_nano
  refine ⟨(start_le d).mpr le_rfl, own, fun e eStart heStart later => ?_, fun stop hstop => ?_⟩
  · rw [start_le, index_eq_of_startOf? heStart]
    exact index_le_of_le later
  obtain ⟨next, hnext, before_next⟩ := (endOf?_eq_some_iff hstart).mp hstop
  obtain ⟨next_seconds, next_nano⟩ := (add?_one_eq_some_iff start_seconds start_nano).mp hnext
  have next_le (e : Timestamp) : next ≤ e ↔ unit.index d + 1 ≤ unit.index e :=
    le_iff_index_le next_seconds next_nano
  have next_whole : next.IsWholeMilli := by
    rw [Timestamp.IsWholeMilli, Timestamp.isLeapSecond_eq_false_iff, next_nano]
    decide
  obtain ⟨stop_nanos, stop_regular⟩ := Timestamp.later?_eq_some_iff.mp before_next
  have stop_whole : stop.IsWholeMilli := by
    have nanos : stop.nanos = stop.seconds * 1000000000 + stop.nano := rfl
    have nanos' : next.nanos = next.seconds * 1000000000 + next.nano := rfl
    exact ⟨stop_regular, by omega⟩
  -- Up to the end are the instants of whole milliseconds that are in no later piece.
  have le_stop {e : Timestamp} (he : e.IsWholeMilli) : e ≤ stop ↔ unit.index e ≤ unit.index d := by
    rw [he.le_iff_lt next_whole before_next, ← not_le, next_le]
    omega
  have same {e : Timestamp} (he : e.IsWholeMilli) :
      unit.startOf? e = some start ↔ start ≤ e ∧ e ≤ stop := by
    rw [startOf?_eq_some_iff_index hstart, start_le, le_stop he]
    omega
  have stop_start : unit.startOf? stop = some start := by
    have start_le_stop := ((start_le d).mpr le_rfl).trans ((le_stop hd).mpr le_rfl)
    exact (same stop_whole).mpr ⟨start_le_stop, le_rfl⟩
  refine ⟨(le_stop hd).mpr le_rfl, (endOf?_eq_some_iff stop_start).mpr ⟨next, hnext, before_next⟩,
    ⟨next, ?_, startOf?_self next_seconds next_nano, hnext⟩, fun e => same⟩
  rw [Timestamp.later?_eq_some_iff]
  exact ⟨by omega, next_whole.1⟩

/-- The first and the last millisecond of the week of the twenty-ninth of February 2024. -/
def leapWeek : Timestamp × Timestamp :=
  ((Timestamp.ofDay? 19779 0 0).getD .epoch, (Timestamp.ofDay? 19785 86399 999000000).getD .epoch)

/-- The week of the twenty-ninth of February 2024 goes from Monday, the
twenty-sixth, to the third of March. -/
theorem startOf?_endOf?_tile_leapWeek : (februaryEnd false).IsWholeMilli ∧
    week.startOf? (februaryEnd false) = some leapWeek.1 ∧
    week.endOf? (februaryEnd false) = some leapWeek.2 ∧
    ∀ e : Timestamp, e.IsWholeMilli →
      (week.startOf? e = some leapWeek.1 ↔ leapWeek.1 ≤ e ∧ e ≤ leapWeek.2) := by
  have whole : (februaryEnd false).IsWholeMilli := by decide
  have monday : week.startOf? (februaryEnd false) = some leapWeek.1 := by decide +kernel
  have sunday : week.endOf? (februaryEnd false) = some leapWeek.2 := by decide +kernel
  obtain ⟨-, -, -, tiled⟩ := (startOf?_endOf?_tile week whole).2 _ monday
  exact ⟨whole, monday, sunday, (tiled _ sunday).2.2.2⟩

end DateUnit

end RecordFlow
