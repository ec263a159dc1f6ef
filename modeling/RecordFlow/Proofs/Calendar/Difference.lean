import RecordFlow.Calendar.Unit
import RecordFlow.Proofs.Calendar.Date
import RecordFlow.Proofs.Calendar.Order
import Mathlib.Tactic.Linarith

/-!
# Counting whole units

The difference of two instants in a unit is the number of whole units that lead from the one
toward the other without passing it. All units are multiples of two, the second and the month:
what holds for the steps of these holds for every so many of them. A month is added to the number
of the month, and the day is cut to its length, so that the count goes by the months and is one
too many, at times, for the days.

## Main definitions

* `IsWalk` — steps that lead to ever later instants
* `IsTruncated` — a number of steps that lead toward an instant without passing it

## Main results

* `IsWalk.every`, `IsTruncated.every` — every so many steps are steps,
  too, and are counted by division
* `DateUnit.difference_truncates` — the difference in a unit is truncated,
  and it undoes moving by the unit
-/

namespace RecordFlow

variable {move : ℤ → Option Timestamp} {start t r : Timestamp} {n k : ℤ}

/-! ### Steps and their number -/

/-- Steps from an instant, backward for negative numbers: more steps lead to a later instant, and
the numbers of steps that can be taken have no gaps. -/
structure IsWalk (move : ℤ → Option Timestamp) (start : Timestamp) : Prop where
  zero : move 0 = some start
  lt {m n : ℤ} {a b : Timestamp} : m < n → move m = some a → move n = some b → a < b
  between {m n p : ℤ} {a b : Timestamp} :
    m ≤ n → n ≤ p → move m = some a → move p = some b → ∃ c, move n = some c

/-- A number of steps from `start` that lead toward `t` and not past it, while one more would lead
past it or cannot be taken at all. -/
structure IsTruncated (move : ℤ → Option Timestamp) (start t : Timestamp) (n : ℤ) : Prop where
  forward : start ≤ t → 0 ≤ n ∧ (∃ r, move n = some r ∧ r ≤ t) ∧
    ∀ next, move (n + 1) = some next → t < next
  backward : t < start → n ≤ 0 ∧ (∃ r, move n = some r ∧ t ≤ r) ∧
    ∀ next, move (n - 1) = some next → next < t

namespace IsWalk

theorem le (walk : IsWalk move start) {m n : ℤ} {a b : Timestamp} (h : m ≤ n) (ha : move m = some a)
    (hb : move n = some b) : a ≤ b := by
  rcases h.eq_or_lt with rfl | less
  · exact (Option.some_inj.mp (ha.symm.trans hb)).le
  · exact (walk.lt less ha hb).le

theorem every (walk : IsWalk move start) (pos : 0 < k) : IsWalk (fun n => move (n * k)) start where
  zero := by simpa using walk.zero
  lt less := walk.lt (mul_lt_mul_of_pos_right less pos)
  between low high :=
    walk.between (mul_le_mul_of_nonneg_right low pos.le) (mul_le_mul_of_nonneg_right high pos.le)

/-- The steps to an instant are as many as are counted. -/
theorem eq_of_isTruncated (walk : IsWalk move start) {m : ℤ} (h : IsTruncated move start t n)
    (reached : move m = some t) : n = m := by
  rcases le_or_gt start t with after | before
  · obtain ⟨-, ⟨r, hr, le⟩, past⟩ := h.forward after
    rcases lt_trichotomy n m with few | same | many
    · obtain ⟨next, hnext⟩ := walk.between (Int.le_add_one le_rfl) few hr reached
      exact absurd (walk.le few hnext reached) (not_le.mpr (past next hnext))
    · exact same
    · exact absurd (walk.lt many reached hr) (not_lt.mpr le)
  · obtain ⟨-, ⟨r, hr, le⟩, past⟩ := h.backward before
    rcases lt_trichotomy n m with few | same | many
    · exact absurd (walk.lt few hr reached) (not_lt.mpr le)
    · exact same
    · obtain ⟨next, hnext⟩ :=
        walk.between (Int.le_sub_one_of_lt many) (Int.sub_le_self n (by decide)) reached hr
      exact absurd (walk.le (Int.le_sub_one_of_lt many) reached hnext)
        (not_le.mpr (past next hnext))

end IsWalk

/-- Every `k` steps are counted by division. -/
theorem IsTruncated.every (walk : IsWalk move start) (h : IsTruncated move start t n)
    (pos : 0 < k) : IsTruncated (fun n => move (n * k)) start t (n.tdiv k) where
  forward after := by
    obtain ⟨nonneg, ⟨r, hr, le⟩, past⟩ := h.forward after
    rw [Int.tdiv_eq_ediv_of_nonneg nonneg]
    have quotient_nonneg : 0 ≤ n / k := Int.ediv_nonneg nonneg pos.le
    have low : n / k * k ≤ n := Int.ediv_mul_le n pos.ne'
    have high : n + 1 ≤ (n / k + 1) * k := Int.lt_ediv_add_one_mul_self n pos
    obtain ⟨c, hc⟩ := walk.between (mul_nonneg quotient_nonneg pos.le) low walk.zero hr
    refine ⟨quotient_nonneg, ⟨c, hc, (walk.le low hc hr).trans le⟩, fun next hnext => ?_⟩
    obtain ⟨m, hm⟩ := walk.between (Int.le_add_one le_rfl) high hr hnext
    exact (past m hm).trans_le (walk.le high hm hnext)
  backward before := by
    obtain ⟨nonpos, ⟨r, hr, le⟩, past⟩ := h.backward before
    have quotient : n.tdiv k = -(-n / k) := by
      rw [← Int.tdiv_eq_ediv_of_nonneg (neg_nonneg.mpr nonpos), Int.neg_tdiv, neg_neg]
    have quotient_nonneg : 0 ≤ -n / k := Int.ediv_nonneg (neg_nonneg.mpr nonpos) pos.le
    have low : n ≤ -(-n / k) * k := by
      have := Int.ediv_mul_le (-n) pos.ne'
      rw [neg_mul]
      omega
    have high : (-(-n / k) - 1) * k ≤ n - 1 := by
      have := Int.lt_ediv_add_one_mul_self (-n) pos
      rw [← neg_add', neg_mul]
      omega
    rw [quotient]
    have toZero : -(-n / k) * k ≤ 0 :=
      mul_nonpos_of_nonpos_of_nonneg (neg_nonpos.mpr quotient_nonneg) pos.le
    obtain ⟨c, hc⟩ := walk.between low toZero hr walk.zero
    refine ⟨neg_nonpos.mpr quotient_nonneg, ⟨c, hc, le.trans (walk.le low hr hc)⟩,
      fun next hnext => ?_⟩
    obtain ⟨m, hm⟩ := walk.between high (Int.sub_le_self n (by decide)) hnext hr
    exact (walk.le high hnext hm).trans_lt (past m hm)

/-! ### Seconds -/

theorem Timestamp.exists_addSeconds?_iff (hstart : start.isLeapSecond = false) :
    (∃ r, start.addSeconds? n = some r) ↔
      firstDay ≤ (start.seconds + n) / 86400 ∧ (start.seconds + n) / 86400 ≤ lastDay := by
  rw [← exists_ofSeconds?_iff start.nano_lt]
  simp only [addSeconds?_eq_some_iff hstart, ofSeconds?_eq_some_iff]

theorem Timestamp.exists_addSeconds? (hstart : start.isLeapSecond = false) {a b : Timestamp}
    (low : a.seconds ≤ start.seconds + n) (high : start.seconds + n ≤ b.seconds) :
    ∃ r, start.addSeconds? n = some r := by
  have first := a.day_in_use.1
  have last := b.day_in_use.2
  rw [← day_eq] at first last
  rw [exists_addSeconds?_iff hstart]
  omega

theorem Timestamp.isWalk_addSeconds? (hstart : start.isLeapSecond = false) :
    IsWalk start.addSeconds? start where
  zero := rfl
  lt less ha hb := by
    rw [addSeconds?_eq_some_iff hstart] at ha hb
    rw [lt_iff]
    omega
  between {_ _ _ a b} low high ha hb := by
    rw [addSeconds?_eq_some_iff hstart] at ha hb
    exact exists_addSeconds? hstart (a := a) (b := b) (by omega) (by omega)

theorem Timestamp.isTruncated_addSeconds? (hstart : start.isLeapSecond = false)
    (ht : t.isLeapSecond = false) :
    IsTruncated start.addSeconds? start t ((t.nanosSince start).tdiv nanosPerSecond) := by
  have reached {n : ℤ} {r : Timestamp} (hr : start.addSeconds? n = some r) :
      r.isLeapSecond = false ∧ r.nanos = start.nanos + n * 1000000000 := by
    obtain ⟨hseconds, hnano⟩ := (addSeconds?_eq_some_iff hstart).mp hr
    rw [isLeapSecond_eq_false_iff] at hstart ⊢
    rw [nanos, nanos]
    omega
  have below := isLeapSecond_eq_false_iff.mp hstart
  have below' := isLeapSecond_eq_false_iff.mp ht
  have start_nanos : start.nanos = start.seconds * 1000000000 + start.nano := rfl
  have t_nanos : t.nanos = t.seconds * 1000000000 + t.nano := rfl
  rw [nanosSince_eq ht hstart, nanosPerSecond]
  constructor
  · intro after
    rw [le_iff_nanos hstart ht] at after
    rw [Int.tdiv_eq_ediv_of_nonneg (by omega)]
    obtain ⟨r, hr⟩ := exists_addSeconds? hstart (n := (t.nanos - start.nanos) / 1000000000)
      (a := start) (b := t) (by omega) (by omega)
    refine ⟨by omega, ⟨r, hr, ?_⟩, fun next hnext => ?_⟩
    · rw [le_iff_nanos (reached hr).1 ht, (reached hr).2]
      omega
    · rw [lt_iff_nanos ht (reached hnext).1, (reached hnext).2]
      omega
  · intro before
    rw [lt_iff_nanos ht hstart] at before
    have quotient : (t.nanos - start.nanos).tdiv (1000000000 : ℕ) =
        -((start.nanos - t.nanos) / 1000000000) := by
      rw [← Int.neg_sub, Int.neg_tdiv, Int.tdiv_eq_ediv_of_nonneg (by omega)]
      rfl
    rw [quotient]
    obtain ⟨r, hr⟩ := exists_addSeconds? hstart (n := -((start.nanos - t.nanos) / 1000000000))
      (a := t) (b := start) (by omega) (by omega)
    refine ⟨by omega, ⟨r, hr, ?_⟩, fun next hnext => ?_⟩
    · rw [le_iff_nanos ht (reached hr).1, (reached hr).2]
      omega
    · rw [lt_iff_nanos (reached hnext).1 ht, (reached hnext).2]
      omega

/-! ### Months -/

namespace DateUnit

open Date

/-- The instant some months later: the day is cut to the length of the month. -/
theorem addMonths?_eq_some_iff : addMonths? t n = some r ↔
    r.day = (inMonth (t.date.monthIndex + n) t.date.day).dayNumber ∧
      r.second = t.second ∧ r.nano = t.nano := by
  obtain ⟨valid, number, -⟩ := ofDayNumber_spec t.day
  have day_pos : 1 ≤ t.date.day := (day_le_lengthOfMonth valid).1
  rw [addMonths?]
  split
  next zero =>
    have same : inMonth t.date.monthIndex t.date.day = t.date := inMonth_monthIndex valid
    have here : Timestamp.ofDay? t.day t.second t.nano = some t :=
      Timestamp.ofDay?_eq_some_iff.mpr ⟨rfl, rfl, rfl⟩
    have number : t.date.dayNumber = t.day := number
    rw [zero, Int.add_zero, same, number, ← here, Timestamp.ofDay?_eq_some_iff]
  next =>
    rw [Date.addMonths?_eq day_pos]
    split
    next inUse => exact Timestamp.ofDay?_eq_some_iff
    next notInUse =>
      refine ⟨nofun, fun made => absurd (yearInUse_iff.mpr r.day_in_use) ?_⟩
      rwa [made.1, year_ofDayNumber (valid_inMonth _ day_pos)]

theorem monthIndex_of_addMonths? (h : addMonths? t n = some r) :
    r.date.monthIndex = t.date.monthIndex + n := by
  have day_pos : 1 ≤ t.date.day := (day_le_lengthOfMonth (ofDayNumber_spec t.day).1).1
  rw [Timestamp.date, (addMonths?_eq_some_iff.mp h).1,
    monthIndex_ofDayNumber (valid_inMonth _ day_pos), monthIndex_inMonth]

/-- There is an instant some months later if the year of that month is in use. -/
theorem exists_addMonths?_iff :
    (∃ r, addMonths? t n = some r) ↔ yearInUse ((t.date.monthIndex + n) / 12) = true := by
  have day_pos : 1 ≤ t.date.day := (day_le_lengthOfMonth (ofDayNumber_spec t.day).1).1
  have year := year_ofDayNumber (valid_inMonth (t.date.monthIndex + n) day_pos)
  change _ = (t.date.monthIndex + n) / 12 at year
  rw [← year, yearInUse_iff]
  simp only [addMonths?_eq_some_iff]
  constructor
  · rintro ⟨r, day, -⟩
    exact day ▸ r.day_in_use
  · intro inUse
    exact ⟨⟨_, t.second, t.nano, inUse, t.second_lt, t.nano_lt⟩, rfl, rfl, rfl⟩

theorem exists_addMonths? {a b : Timestamp} (low : a.date.monthIndex ≤ t.date.monthIndex + n)
    (high : t.date.monthIndex + n ≤ b.date.monthIndex) : ∃ r, addMonths? t n = some r := by
  have year (t : Timestamp) : t.date.monthIndex / 12 = t.date.year :=
    (year_and_month (ofDayNumber_spec t.day).1).1
  have first : yearInUse a.date.year = true := yearInUse_iff.mpr a.day_in_use
  have last : yearInUse b.date.year = true := yearInUse_iff.mpr b.day_in_use
  rw [exists_addMonths?_iff]
  rw [yearInUse, Bool.and_eq_true, decide_eq_true_iff, decide_eq_true_iff] at first last ⊢
  rw [← year] at first last
  omega

/-- What is in a later month is later. -/
theorem lt_of_monthIndex_lt {a b : Timestamp} (h : a.date.monthIndex < b.date.monthIndex) :
    a < b := by
  have begun : firstOfMonth b.date.monthIndex ≤ b.day := firstOfMonth_le_iff.mpr le_rfl
  have notBegun : ¬firstOfMonth b.date.monthIndex ≤ a.day :=
    fun begun => not_le.mpr h (firstOfMonth_le_iff.mp begun)
  have := a.second_lt'
  rw [Timestamp.lt_iff, Timestamp.seconds_eq, Timestamp.seconds_eq]
  omega

theorem isWalk_addMonths? (start : Timestamp) : IsWalk (addMonths? start) start where
  zero := rfl
  lt less ha hb := by
    have := monthIndex_of_addMonths? ha
    have := monthIndex_of_addMonths? hb
    exact lt_of_monthIndex_lt (by omega)
  between {_ _ _ a b} low high ha hb := by
    have := monthIndex_of_addMonths? ha
    have := monthIndex_of_addMonths? hb
    exact exists_addMonths? (a := a) (b := b) (by omega) (by omega)

theorem isTruncated_monthsBetween (start t : Timestamp) :
    IsTruncated (addMonths? start) start t (monthsBetween t start) := by
  have walk := isWalk_addMonths? start
  have count : (t.date.year - start.date.year) * 12 + ((t.date.month : ℤ) - start.date.month) =
      t.date.monthIndex - start.date.monthIndex := by
    rw [monthIndex, monthIndex]
    omega
  generalize hmonths : t.date.monthIndex - start.date.monthIndex = months at count
  obtain ⟨moved, hmoved⟩ :=
    exists_addMonths? (t := start) (n := months) (a := t) (b := t) (by omega) (by omega)
  -- So many months lead to the month of `t`, more to a later month and less to an earlier one.
  have later {n : ℤ} {r : Timestamp} (h : months < n) (hr : addMonths? start n = some r) :
      t < r := by
    have := monthIndex_of_addMonths? hr
    exact lt_of_monthIndex_lt (by omega)
  have earlier {n : ℤ} {r : Timestamp} (h : n < months) (hr : addMonths? start n = some r) :
      r < t := by
    have := monthIndex_of_addMonths? hr
    exact lt_of_monthIndex_lt (by omega)
  have nonneg (after : start ≤ t) : 0 ≤ months :=
    not_lt.mp fun h => not_lt.mpr after (later h walk.zero)
  have nonpos (before : t < start) : months ≤ 0 :=
    not_lt.mp fun h => lt_asymm before (earlier h walk.zero)
  delta monthsBetween
  simp only [count, hmoved, Timestamp.before_iff_lt]
  split
  next past =>
    obtain ⟨pos, past⟩ := past
    refine ⟨fun _ => ⟨by omega, ?_, fun next hnext => ?_⟩,
      fun before => absurd (nonpos before) (not_le.mpr pos)⟩
    · have fewer : months - 1 ≤ months := Int.sub_le_self months (by decide)
      obtain ⟨r, hr⟩ := walk.between (show 0 ≤ months - 1 by omega) fewer walk.zero hmoved
      exact ⟨r, hr, (earlier (Int.sub_one_lt_of_le le_rfl) hr).le⟩
    · rw [Int.sub_add_cancel, hmoved, Option.some_inj] at hnext
      exact hnext ▸ past
  next notPast =>
    split
    next short =>
      obtain ⟨neg, short⟩ := short
      refine ⟨fun after => absurd (nonneg after) (not_le.mpr neg),
        fun _ => ⟨by omega, ?_, fun next hnext => ?_⟩⟩
      · obtain ⟨r, hr⟩ :=
          walk.between (Int.le_add_one le_rfl) (show months + 1 ≤ 0 by omega) hmoved walk.zero
        exact ⟨r, hr, (later (Int.lt_add_one_of_le le_rfl) hr).le⟩
      · rw [Int.add_sub_cancel, hmoved, Option.some_inj] at hnext
        exact hnext ▸ short
    next notShort =>
      have stays (zero : months = 0) : moved = start := by
        rw [zero, walk.zero, Option.some_inj] at hmoved
        exact hmoved.symm
      refine ⟨fun after => ⟨nonneg after, ⟨moved, hmoved, ?_⟩,
        fun next => later (Int.lt_add_one_of_le le_rfl)⟩,
          fun before => ⟨nonpos before, ⟨moved, hmoved, ?_⟩,
            fun next => earlier (Int.sub_one_lt_of_le le_rfl)⟩⟩
      · rcases (nonneg after).eq_or_lt with zero | pos
        · exact (stays zero.symm).trans_le after
        · exact not_lt.mp fun past => notPast ⟨pos, past⟩
      · rcases (nonpos before).eq_or_lt with zero | neg
        · exact before.le.trans_eq (stays zero).symm
        · exact not_lt.mp fun short => notShort ⟨neg, short⟩

/-! ### All units -/

variable {unit : DateUnit}

theorem isWalk_add? (hstart : start.isLeapSecond = false) : IsWalk (unit.add? start) start := by
  have seconds := Timestamp.isWalk_addSeconds? hstart
  have months := isWalk_addMonths? start
  cases unit with
  | second => exact seconds
  | minute => exact seconds.every (k := 60) (by decide)
  | hour => exact seconds.every (k := 3600) (by decide)
  | day => exact seconds.every (k := 86400) (by decide)
  | week => exact seconds.every (k := 604800) (by decide)
  | month => exact months
  | year => exact months.every (k := 12) (by decide)

theorem isTruncated_difference (hstart : start.isLeapSecond = false) (ht : t.isLeapSecond = false) :
    IsTruncated (unit.add? start) start t (unit.difference t start) := by
  have walk := Timestamp.isWalk_addSeconds? hstart
  have seconds := Timestamp.isTruncated_addSeconds? hstart ht
  have months := isTruncated_monthsBetween start t
  cases unit with
  | second => exact seconds
  | minute => exact seconds.every walk (k := 60) (by decide)
  | hour => exact seconds.every walk (k := 3600) (by decide)
  | day => exact seconds.every walk (k := 86400) (by decide)
  | week => exact seconds.every walk (k := 604800) (by decide)
  | month => exact months
  | year => exact months.every (isWalk_addMonths? start) (k := 12) (by decide)

theorem nano_of_add? (hstart : start.isLeapSecond = false) (h : unit.add? start n = some r) :
    r.nano = start.nano := by
  cases unit with
  | month | year => exact (addMonths?_eq_some_iff.mp h).2.2
  | _ => exact ((Timestamp.addSeconds?_eq_some_iff hstart).mp h).2

/-- So many units from an instant lead out of the years in use. -/
def LeadsOut (start : Timestamp) (n : ℤ) : DateUnit → Prop
  | month => yearInUse ((start.date.monthIndex + n) / 12) = false
  | year => yearInUse (start.date.year + n) = false
  | unit =>
    ¬(firstDay ≤ (start.seconds + n * unit.seconds?.getD 0) / 86400 ∧
      (start.seconds + n * unit.seconds?.getD 0) / 86400 ≤ lastDay)

theorem add?_eq_none_iff (hstart : start.isLeapSecond = false) :
    unit.add? start n = none ↔ unit.LeadsOut start n := by
  have undefined {α : Type} (o : Option α) : o = none ↔ ¬∃ a, o = some a := by
    rw [Option.eq_none_iff_forall_ne_some, not_exists]
  have seconds (length : ℤ) := not_congr (Timestamp.exists_addSeconds?_iff hstart (n := n * length))
  rw [undefined]
  cases unit with
  | month => rw [LeadsOut, ← Bool.not_eq_true, ← exists_addMonths?_iff, add?]
  | year =>
    have year : start.date.monthIndex / 12 = start.date.year :=
      (year_and_month (ofDayNumber_spec start.day).1).1
    have years : (start.date.monthIndex + n * 12) / 12 = start.date.year + n := by omega
    rw [LeadsOut, ← Bool.not_eq_true, ← years, ← exists_addMonths?_iff, add?]
  | second => simpa [LeadsOut, seconds?, add?] using seconds 1
  | _ => exact seconds _

/-- **The difference in a unit is truncated toward zero, and it undoes moving by the unit.** Outside
of leap seconds, moving `start` by the difference leads toward `t` and not past it, and moving by
one unit more leads past it or out of the years in use. The difference from an instant that is
reached by some units is their number. -/
theorem difference_truncates (unit : DateUnit) (hstart : start.isLeapSecond = false) :
    (∀ t : Timestamp, t.isLeapSecond = false →
      IsTruncated (unit.add? start) start t (unit.difference t start)) ∧
      (∀ (n : ℤ) (moved : Timestamp), unit.add? start n = some moved →
        unit.difference moved start = n) ∧
      ∀ n : ℤ, unit.add? start n = none ↔ unit.LeadsOut start n := by
  refine ⟨fun t ht => isTruncated_difference hstart ht, fun n moved hmoved => ?_,
    fun n => add?_eq_none_iff hstart⟩
  have hmoved_leap : moved.isLeapSecond = false := by
    rw [Timestamp.isLeapSecond_eq_false_iff] at hstart ⊢
    rwa [nano_of_add? (Timestamp.isLeapSecond_eq_false_iff.mpr hstart) hmoved]
  exact (isWalk_add? hstart).eq_of_isTruncated (isTruncated_difference hstart hmoved_leap) hmoved

/-- The last of January 2024, at six in the evening. -/
def januaryEnd : Timestamp := (Timestamp.ofDay? 19753 64800 0).getD .epoch

/-- The last of February 2024, at noon and at six in the evening. -/
def februaryEnd (evening : Bool) : Timestamp :=
  (Timestamp.ofDay? 19782 (if evening then 64800 else 43200) 0).getD .epoch

/-- A month from the last of January leads to the last of February, and what is six hours
short of it is no month away. -/
theorem difference_truncates_februaryEnd : januaryEnd.isLeapSecond = false ∧
    month.add? januaryEnd 1 = some (februaryEnd true) ∧
      month.difference (februaryEnd true) januaryEnd = 1 ∧
    IsTruncated (month.add? januaryEnd) januaryEnd (februaryEnd false) 0 := by
  have regular : januaryEnd.isLeapSecond = false := by decide
  have reached : month.add? januaryEnd 1 = some (februaryEnd true) := by decide +kernel
  have short : month.difference (februaryEnd false) januaryEnd = 0 := by decide +kernel
  obtain ⟨truncated, undone, -⟩ := difference_truncates month regular
  exact ⟨regular, reached, undone 1 _ reached, short ▸ truncated (februaryEnd false) (by decide)⟩

end DateUnit

end RecordFlow
