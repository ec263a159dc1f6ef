import RecordFlow.Calendar.Timestamp
import Mathlib.Order.SuccPred.IntervalSucc
import Mathlib.Order.Monotone.Basic
import Mathlib.Data.Int.Order.Basic
import Mathlib.Tactic.IntervalCases
import Mathlib.Tactic.Ring

/-!
# Days and their dates

A day has a date, and the number of that date is the number of the day. The days in use have dates
in the years in use. Months are numbered through all years. A month begins where the one before it
ends, so that a day is one of the months up to its own exactly if it is not before their first days.

## Main definitions

* `Date.monthIndex` — the number of the month of a date
* `Date.firstOfMonth` — the first day of a month
* `Date.inMonth` — a day of a month, cut to the length of the month

## Main results

* `Date.dayNumber_ofDayNumber` — the date of a day has its number
* `Date.of?_ofDayNumber` — the date of a day in use exists
* `Date.firstOfMonth_le_iff`, `Date.yearStart_le_iff` — where the days of months and years begin
* `Date.addMonths?_eq` — months are added to the number of the month
-/

namespace RecordFlow

namespace Date

/-! ### Years -/

/-- A year begins where the one before it ends. -/
theorem yearStart_succ (year : Int) : yearStart (year + 1) = yearStart year + yearLength year := by
  have length : (yearLength year : Int) = 365 + (if year % 4 = 0 then 1 else 0) -
      (if year % 100 = 0 then 1 else 0) + (if year % 400 = 0 then 1 else 0) := by
    simp only [yearLength, isLeap, Bool.and_eq_true, Bool.or_eq_true, beq_iff_eq, bne_iff_ne]
    split_ifs <;> omega
  rw [length, yearStart, yearStart]
  omega

/-- Later years begin later. -/
theorem yearStart_le_yearStart {a b : Int} (h : a ≤ b) : yearStart a ≤ yearStart b := by
  rcases h.eq_or_lt with rfl | h
  · exact le_rfl
  · rw [yearStart, yearStart]
    omega

/-- A day is one of its year. -/
theorem yearStart_yearOfDay (day : Int) :
    yearStart (yearOfDay day) ≤ day ∧ day < yearStart (yearOfDay day + 1) := by
  rw [yearOfDay]
  generalize hestimate : day * 400 / 146097 + 1970 = estimate
  -- The estimate is off by one year at most.
  have low : yearStart (estimate - 1) ≤ day := by
    rw [yearStart]
    omega
  have high : day < yearStart (estimate + 1 + 1) := by
    rw [yearStart]
    omega
  split
  next before => exact ⟨low, by rwa [Int.sub_add_cancel]⟩
  next notBefore =>
    split
    next after => exact ⟨after, high⟩
    next notAfter => exact ⟨not_lt.mp notBefore, not_le.mp notAfter⟩

/-- The days in use are days of the years in use. -/
theorem yearInUse_yearOfDay {day : Int} (h : firstDay ≤ day ∧ day ≤ lastDay) :
    yearInUse (yearOfDay day) = true := by
  obtain ⟨from_start, to_end⟩ := yearStart_yearOfDay day
  rw [yearInUse, Bool.and_eq_true, decide_eq_true_iff, decide_eq_true_iff]
  constructor
  · by_contra early
    have := yearStart_le_yearStart (show yearOfDay day + 1 ≤ firstYear by omega)
    have first := h.1
    rw [firstDay] at first
    omega
  · by_contra late
    have := yearStart_le_yearStart (show lastYear + 1 ≤ yearOfDay day by omega)
    have last := h.2
    rw [lastDay] at last
    omega

/-! ### Months -/

/-- A day that is counted from the first of some months is in one of them. -/
theorem monthAndDay_spec (lengths : List Nat) (month day : Nat)
    (h : day < lengths.foldr (· + ·) 0) :
    ∃ k, k < lengths.length ∧ (monthAndDay lengths month day).1 = month + k ∧
      (lengths.take k).foldr (· + ·) 0 + (monthAndDay lengths month day).2 = day + 1 ∧
      1 ≤ (monthAndDay lengths month day).2 ∧
        (monthAndDay lengths month day).2 ≤ lengths.getD k 0 := by
  induction lengths generalizing month day with
  | nil => exact absurd h (Nat.not_lt_zero day)
  | cons length lengths ih =>
    rw [monthAndDay]
    split
    next inside => exact ⟨0, Nat.zero_lt_succ _, rfl, by simp, by simp, inside⟩
    next behind =>
      -- In the months that follow, the day is counted from the end of this one.
      rw [List.foldr_cons] at h
      obtain ⟨k, hk, hmonth, total, pos, le⟩ := ih (month + 1) (day - length) (by omega)
      refine ⟨k + 1, Nat.succ_lt_succ hk, by omega, ?_, pos, le⟩
      rw [List.take_succ_cons, List.foldr_cons]
      omega

theorem foldr_monthLengths (year : Int) :
    (monthLengths year).foldr (· + ·) 0 = yearLength year := by
  simp only [monthLengths, februaryLength, yearLength]
  cases isLeap year <;> rfl

theorem monthLength_le (year : Int) (month : Nat) : monthLength year month ≤ 31 := by
  have each : ∀ length ∈ monthLengths year, length ≤ 31 := by
    simp only [monthLengths, februaryLength]
    cases isLeap year <;> decide
  rw [monthLength, List.getD_eq_getElem?_getD]
  cases found : (monthLengths year)[month - 1]? with
  | none => exact Nat.zero_le _
  | some length => exact each length (List.mem_of_getElem? found)

/-! ### Days -/

/-- The date of a day exists, and it is the date of this day. -/
theorem ofDayNumber_spec (day : Int) : (ofDayNumber day).valid = true ∧
    (ofDayNumber day).dayNumber = day ∧ (ofDayNumber day).year = yearOfDay day := by
  obtain ⟨from_start, to_end⟩ := yearStart_yearOfDay day
  rw [yearStart_succ] at to_end
  obtain ⟨k, hk, month, total, pos, le⟩ := monthAndDay_spec (monthLengths (yearOfDay day)) 1
    (day - yearStart (yearOfDay day)).toNat (by rw [foldr_monthLengths]; omega)
  have twelve : (monthLengths (yearOfDay day)).length = 12 := rfl
  have before : 1 + k - 1 = k := Nat.add_sub_cancel_left 1 k
  refine ⟨?_, ?_, rfl⟩
  · simp only [valid, ofDayNumber, month, monthLength, before, Bool.and_eq_true, decide_eq_true_iff]
    omega
  · simp only [dayNumber, dayOfYear, monthStart, ofDayNumber, month, before]
    omega

theorem dayNumber_ofDayNumber (day : Int) : (ofDayNumber day).dayNumber = day :=
  (ofDayNumber_spec day).2.1

/-- The date of a day in use exists and is in use. -/
theorem of?_ofDayNumber {day : Int} (h : firstDay ≤ day ∧ day ≤ lastDay) :
    of? (ofDayNumber day).year (ofDayNumber day).month (ofDayNumber day).day =
      some (ofDayNumber day) := by
  obtain ⟨valid, -, year⟩ := ofDayNumber_spec day
  rw [of?, if_pos]
  rw [Bool.and_eq_true, year]
  exact ⟨valid, yearInUse_yearOfDay h⟩

/-! ### Months in order -/

variable {date : Date}

/-- The number of the month of a date, 0 for January of the year zero. -/
def monthIndex (date : Date) : Int := date.year * 12 + date.month - 1

/-- The number of the first day of a month. -/
def firstOfMonth (k : Int) : Int := yearStart (k / 12) + monthStart (k / 12) ((k % 12).toNat + 1)

/-- The length of a month by its number. -/
def lengthOfMonth (k : Int) : Nat := monthLength (k / 12) ((k % 12).toNat + 1)

/-! ### The months of a year -/

theorem monthStart_succ (year : Int) {month : Nat} (low : 1 ≤ month) (high : month ≤ 12) :
    monthStart year (month + 1) = monthStart year month + monthLength year month := by
  simp only [monthStart, monthLength, monthLengths]
  interval_cases month <;> simp <;> omega

/-- A year is as long as its months. -/
theorem monthStart_thirteen (year : Int) :
    monthStart year 13 = yearLength year := foldr_monthLengths year

theorem one_le_monthLength (year : Int) {month : Nat} (low : 1 ≤ month) (high : month ≤ 12) :
    1 ≤ monthLength year month := by
  simp only [monthLength, monthLengths, februaryLength]
  cases isLeap year <;> interval_cases month <;> decide

/-! ### The months of all years -/

/-- A month begins where the one before it ends. -/
theorem firstOfMonth_succ (k : Int) : firstOfMonth (k + 1) = firstOfMonth k + lengthOfMonth k := by
  rw [firstOfMonth, firstOfMonth, lengthOfMonth]
  have low : 1 ≤ (k % 12).toNat + 1 := Nat.le_add_left 1 _
  have high : (k % 12).toNat + 1 ≤ 12 := by omega
  have within := monthStart_succ (k / 12) low high
  generalize hmonth : (k % 12).toNat + 1 = month at *
  rcases high.eq_or_lt with rfl | before
  · have year : (k + 1) / 12 = k / 12 + 1 := by omega
    have january : ((k + 1) % 12).toNat + 1 = 1 := by omega
    have start : monthStart (k / 12 + 1) 1 = 0 := rfl
    rw [monthStart_thirteen] at within
    rw [year, january, start, yearStart_succ]
    omega
  · have year : (k + 1) / 12 = k / 12 := by omega
    have month : ((k + 1) % 12).toNat + 1 = month + 1 := by omega
    rw [year, month, within]
    omega

theorem one_le_lengthOfMonth (k : Int) : 1 ≤ lengthOfMonth k :=
  one_le_monthLength _ (by omega) (by omega)

theorem firstOfMonth_le_firstOfMonth_iff {a b : Int} : firstOfMonth a ≤ firstOfMonth b ↔ a ≤ b := by
  refine (strictMono_int_of_lt_succ fun k => ?_).le_iff_le
  have := one_le_lengthOfMonth k
  rw [firstOfMonth_succ]
  omega

theorem valid_iff : date.valid = true ↔ (1 ≤ date.month ∧ date.month ≤ 12) ∧ 1 ≤ date.day ∧
    date.day ≤ monthLength date.year date.month := by
  simp only [valid, Bool.and_eq_true, decide_eq_true_iff]
  tauto

/-- The year and the month of a date by the number of its month. -/
theorem year_and_month (h : date.valid = true) :
    date.monthIndex / 12 = date.year ∧ (date.monthIndex % 12).toNat + 1 = date.month := by
  have := (valid_iff.mp h).1
  rw [monthIndex]
  omega

theorem dayNumber_eq (h : date.valid = true) :
    date.dayNumber = firstOfMonth date.monthIndex + date.day - 1 := by
  obtain ⟨year, month⟩ := year_and_month h
  rw [firstOfMonth, year, month, dayNumber, dayOfYear]
  omega

theorem day_le_lengthOfMonth (h : date.valid = true) :
    1 ≤ date.day ∧ date.day ≤ lengthOfMonth date.monthIndex := by
  obtain ⟨year, month⟩ := year_and_month h
  rw [lengthOfMonth, year, month]
  exact (valid_iff.mp h).2

/-- The months up to the one of a date are those that do not begin after it. -/
theorem firstOfMonth_le_dayNumber_iff (h : date.valid = true) {k : Int} :
    firstOfMonth k ≤ date.dayNumber ↔ k ≤ date.monthIndex := by
  have := day_le_lengthOfMonth h
  have next := firstOfMonth_succ date.monthIndex
  rw [dayNumber_eq h]
  constructor
  · intro begun
    by_contra later
    have := firstOfMonth_le_firstOfMonth_iff.mpr (show date.monthIndex + 1 ≤ k by omega)
    omega
  · intro le
    have := firstOfMonth_le_firstOfMonth_iff.mpr le
    omega

theorem firstOfMonth_le_iff {k day : Int} :
    firstOfMonth k ≤ day ↔ k ≤ (ofDayNumber day).monthIndex := by
  obtain ⟨valid, number, -⟩ := ofDayNumber_spec day
  rw [← firstOfMonth_le_dayNumber_iff valid, number]

theorem monthIndex_ofDayNumber (h : date.valid = true) :
    (ofDayNumber date.dayNumber).monthIndex = date.monthIndex := by
  have same (k : Int) := firstOfMonth_le_iff.symm.trans (firstOfMonth_le_dayNumber_iff h (k := k))
  exact le_antisymm ((same _).mp le_rfl) ((same _).mpr le_rfl)

theorem year_ofDayNumber (h : date.valid = true) :
    (ofDayNumber date.dayNumber).year = date.year := by
  rw [← (year_and_month h).1, ← monthIndex_ofDayNumber h, (year_and_month (ofDayNumber_spec _).1).1]

theorem yearStart_le_iff {year day : Int} :
    yearStart year ≤ day ↔ year ≤ (ofDayNumber day).year := by
  obtain ⟨begun, notOver⟩ := yearStart_yearOfDay day
  rw [(ofDayNumber_spec day).2.2]
  constructor
  · intro hyear
    by_contra later
    have := yearStart_le_yearStart (show yearOfDay day + 1 ≤ year by omega)
    omega
  · intro le
    exact (yearStart_le_yearStart le).trans begun

theorem monthIndex_firstOfMonth (k : Int) : (ofDayNumber (firstOfMonth k)).monthIndex = k := by
  refine le_antisymm ?_ (firstOfMonth_le_iff.mp le_rfl)
  exact firstOfMonth_le_firstOfMonth_iff.mp (firstOfMonth_le_iff.mpr le_rfl)

theorem yearStart_le_yearStart_iff {a b : Int} : yearStart a ≤ yearStart b ↔ a ≤ b := by
  refine (strictMono_int_of_lt_succ fun year => ?_).le_iff_le
  rw [yearStart_succ, yearLength]
  split <;> omega

/-- A year begins with its first month. -/
theorem firstOfMonth_mul_twelve (year : Int) : firstOfMonth (year * 12) = yearStart year := by
  have quotient : year * 12 / 12 = year := Int.mul_ediv_cancel year (by decide)
  have january : (year * 12 % 12).toNat + 1 = 1 := by omega
  have start : monthStart year 1 = 0 := rfl
  rw [firstOfMonth, quotient, january, start, Nat.cast_zero, add_zero]

/-! ### Adding months -/

/-- A day of a month by the number of the month, cut to its length. -/
def inMonth (k : Int) (day : Nat) : Date := ⟨k / 12, (k % 12).toNat + 1, min day (lengthOfMonth k)⟩

theorem monthIndex_inMonth (k : Int) (day : Nat) : (inMonth k day).monthIndex = k := by
  change k / 12 * 12 + ((k % 12).toNat + 1 : Nat) - 1 = k
  omega

theorem inMonth_monthIndex (h : date.valid = true) : inMonth date.monthIndex date.day = date := by
  obtain ⟨year, month⟩ := year_and_month h
  rw [inMonth, Nat.min_eq_left (day_le_lengthOfMonth h).2, year, month]

theorem inMonth_one (k : Int) : inMonth k 1 = ⟨k / 12, (k % 12).toNat + 1, 1⟩ := by
  rw [inMonth, Nat.min_eq_left (one_le_lengthOfMonth k)]

theorem valid_inMonth (k : Int) {day : Nat} (h : 1 ≤ day) : (inMonth k day).valid = true := by
  have := one_le_lengthOfMonth k
  refine valid_iff.mpr ⟨⟨Nat.le_add_left 1 _, ?_⟩, ?_, Nat.min_le_right _ _⟩
  · change (k % 12).toNat + 1 ≤ 12
    omega
  · change 1 ≤ min day (lengthOfMonth k)
    omega

theorem dayNumber_inMonth_one (k : Int) : (inMonth k 1).dayNumber = firstOfMonth k := by
  rw [dayNumber_eq (valid_inMonth k le_rfl), monthIndex_inMonth, inMonth_one]
  exact Int.add_sub_cancel _ 1

/-- Months are added to the number of the month. -/
theorem addMonths?_eq (h : 1 ≤ date.day) (months : Int) : date.addMonths? months =
    if yearInUse ((date.monthIndex + months) / 12) then some
    (inMonth (date.monthIndex + months) date.day) else none := by
  have total : date.year * 12 + (date.month : Int) - 1 + months = date.monthIndex + months := rfl
  rw [addMonths?, total, of?]
  have valid := valid_inMonth (date.monthIndex + months) h
  change (if ((inMonth (date.monthIndex + months) date.day).valid && _) = true then _ else _) = _
  rw [valid, Bool.true_and]
  rfl

/-- The days in use are those of the years in use. -/
theorem yearInUse_iff {day : Int} :
    yearInUse (ofDayNumber day).year = true ↔ firstDay ≤ day ∧ day ≤ lastDay := by
  have first : firstDay ≤ day ↔ _ := yearStart_le_iff
  have last : yearStart (lastYear + 1) ≤ day ↔ _ := yearStart_le_iff
  rw [yearInUse, Bool.and_eq_true, decide_eq_true_iff, decide_eq_true_iff, first, lastDay]
  omega

end Date

end RecordFlow
