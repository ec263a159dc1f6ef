import RecordFlow.Calendar.Reading
import RecordFlow.Proofs.Calendar.Date
import Mathlib.Data.Nat.Digits.Defs

/-!
# Instants that are written and read again

An instant is read again from its text without loss, unless it is in a leap second that is
not the last second of a minute.

## Main results

* `number_append` — digits are read up to what is no digit
* `Timestamp.parseLoosely_toIsoFull` — an instant is read again
-/

namespace RecordFlow

open Text (digitsValue decimalValue isBlank)

/-! ### Digits -/

theorem digitsValue_eq (digits : List Char) :
    digitsValue digits = Nat.ofDigitChars 10 digits 0 := by
  rw [Nat.ofDigitChars_eq_foldl, digitsValue]
  simp only [decimalValue, Nat.mul_comm]

namespace Timestamp

theorem toList_padded (width n : Nat) : (padded width n).toList =
    List.replicate (width - (Nat.toDigits 10 n).length) '0' ++ Nat.toDigits 10 n := by
  rw [padded, String.toList_ofList]

theorem isDigit_of_mem_padded {width n : Nat} {c : Char} (h : c ∈ (padded width n).toList) :
    c.isDigit = true := by
  rw [toList_padded, List.mem_append] at h
  rcases h with zero | digit
  · rw [List.eq_of_mem_replicate zero]
    rfl
  · exact Nat.isDigit_of_mem_toDigits (by decide) (by decide) digit

theorem digitsValue_padded (width n : Nat) : digitsValue (padded width n).toList = n := by
  rw [digitsValue_eq, toList_padded, Nat.ofDigitChars_append, Nat.ofDigitChars_replicate_zero,
    Nat.mul_zero, Nat.ofDigitChars_ten_toDigits]

theorem length_padded {width n : Nat} (pos : 0 < width) (h : n < 10 ^ width) :
    (padded width n).toList.length = width := by
  have le := (Nat.length_toDigits_le_iff (b := 10) (by decide) pos).mpr h
  rw [toList_padded, List.length_append, List.length_replicate]
  omega

theorem length_padded_pos (width n : Nat) : 0 < (padded width n).toList.length := by
  rw [toList_padded, List.length_append]
  exact Nat.add_pos_right _ Nat.length_toDigits_pos

end Timestamp

/-! ### Parts of a text -/

theorem DateParts.agreeWithin_none {low high n : Nat} (hlow : low ≤ n) (hhigh : n ≤ high) :
    DateParts.agreeWithin low high none (n : Int) = .ok (some n) := by
  rw [agreeWithin, if_pos (by omega)]
  rfl

namespace Reading

/-- Digits are read up to what is no digit. -/
theorem number_append {low high : Nat} {digits : List Char} {c : Char} (rest : List Char)
    (areDigits : ∀ c ∈ digits, c.isDigit = true) (hlow : low ≤ digits.length)
    (hhigh : digits.length ≤ high) (small : digitsValue digits < Nat.pow 2 63)
    (stop : c.isDigit = false) :
    number low high (digits ++ c :: rest) = .ok (digitsValue digits, c :: rest) := by
  have taken : ((digits ++ c :: rest).take high).takeWhile Char.isDigit = digits := by
    obtain ⟨more, rfl⟩ := Nat.exists_eq_add_of_le hhigh
    rw [List.take_length_add_append, List.takeWhile_append_of_pos areDigits]
    cases more with
    | zero => simp
    | succ more => simp [stop]
  have enough : ¬ (digits ++ c :: rest).length < low := by
    rw [List.length_append]
    omega
  rw [number]
  simp only [taken]
  rw [if_neg enough, if_neg (Nat.not_le_of_lt small), if_neg (Nat.not_lt_of_le hlow),
    List.drop_left]

/-- A padded number is read. -/
theorem number_padded {low high width n : Nat} {c : Char} (rest : List Char) (hlow : low ≤ width)
    (hhigh : width ≤ high) (pos : 0 < width) (h : n < 10 ^ width) (small : n < Nat.pow 2 63)
    (stop : c.isDigit = false) :
    number low high ((Timestamp.padded width n).toList ++ c :: rest) = .ok (n, c :: rest) := by
  have length := Timestamp.length_padded pos h
  have value := Timestamp.digitsValue_padded width n
  have read := number_append rest (fun _ => Timestamp.isDigit_of_mem_padded)
    (hlow.trans_eq length.symm) (length.trans_le hhigh) (value.trans_lt small) stop
  rwa [value] at read

theorem isBlank_of_isDigit {c : Char} (h : c.isDigit = true) : isBlank c = false := by
  obtain ⟨low, high⟩ := Char.isDigit_iff_toNat.mp h
  have none : ∀ code < 58, 48 ≤ code → Text.blankCodes.contains code = false := by decide
  exact none c.toNat (Nat.lt_succ_of_le high) low

/-- No blanks stand in front of a padded number. -/
theorem skipBlanks_padded (width n : Nat) (rest : List Char) :
    skipBlanks ((Timestamp.padded width n).toList ++ rest) =
      (Timestamp.padded width n).toList ++ rest := by
  obtain ⟨c, digits, h⟩ := List.exists_cons_of_length_pos (Timestamp.length_padded_pos width n)
  have digit : c.isDigit = true := Timestamp.isDigit_of_mem_padded (h ▸ List.mem_cons_self)
  rw [h, skipBlanks, List.cons_append,
    List.dropWhile_cons_of_neg (by simp [isBlank_of_isDigit digit])]

/-- A year is read from its text. -/
theorem year_yearText {y : Int} (small : y.natAbs < Nat.pow 2 63) {c : Char} (rest : List Char)
    (stop : c.isDigit = false) :
    year ((Timestamp.yearText y).toList ++ c :: rest) = .ok (y, c :: rest) := by
  -- A year of more than four digits or below zero has a sign, and only
  -- behind a sign are more digits read.
  have areDigits : ∀ c ∈ (Timestamp.padded 4 y.natAbs).toList, c.isDigit = true :=
    fun _ => Timestamp.isDigit_of_mem_padded
  have value := Timestamp.digitsValue_padded 4 y.natAbs
  have pos := Timestamp.length_padded_pos 4 y.natAbs
  have read (high : Nat) (hhigh : (Timestamp.padded 4 y.natAbs).toList.length ≤ high) :
      number 1 high ((Timestamp.padded 4 y.natAbs).toList ++ c :: rest) =
      .ok (y.natAbs, c :: rest) := by
    have read := number_append rest areDigits pos hhigh (value.trans_lt small) stop
    rwa [value] at read
  rw [Timestamp.yearText]
  split
  next negative =>
    rw [String.toList_append, show "-".toList = ['-'] from rfl, List.cons_append, List.nil_append,
      List.cons_append]
    rw [year, read _ (by simp; omega)]
    simp only [Except.map, Except.ok.injEq, Prod.mk.injEq, and_true]
    omega
  next notNegative =>
    split
    next large =>
      rw [String.toList_append, show "+".toList = ['+'] from rfl, List.cons_append, List.nil_append,
        List.cons_append]
      rw [year, read _ (by simp; omega)]
      simp only [Except.ok.injEq, Prod.mk.injEq, and_true]
      omega
    next notLarge =>
      have four := read 4 (Timestamp.length_padded (by decide) (by omega)).le
      obtain ⟨d, digits, h⟩ := List.exists_cons_of_length_pos pos
      have digit : d.isDigit = true := areDigits d (h ▸ List.mem_cons_self)
      rw [h, List.cons_append] at four ⊢
      rw [year, four]
      · simp only [Except.ok.injEq, Prod.mk.injEq, and_true]
        omega
      -- A digit is none of the signs.
      all_goals
        intro more same
        obtain ⟨rfl, -⟩ := List.cons.inj same
        exact absurd digit (by decide)

/-- A part of two digits is read. -/
theorem readNumber_padded {part : NumberPart} (plain : numberFor part = number 1 2) {n : Nat}
    (h : n < 100) {c : Char} (rest : List Char) (stop : c.isDigit = false)
    {parts parts' : DateParts} (set : setNumber parts part n = .ok parts') :
    readNumber part ((Timestamp.padded 2 n).toList ++ c :: rest) parts =
      .ok (c :: rest, parts') := by
  have read := number_padded rest (show 1 ≤ 2 by decide) (Nat.le_refl 2) (by decide) h
    (h.trans (by decide)) stop
  rw [readNumber, skipBlanks_padded, plain, read]
  simp only [bind, Except.bind, set]
  rfl

/-- A part of two digits that has to lie in a range is read if it is not known yet. -/
theorem readNumber_within (part : NumberPart) (parts : DateParts) (put : Option Nat → DateParts)
    {low high n : Nat} (plain : numberFor part = number 1 2)
    (sets : setNumber parts part n = (DateParts.agreeWithin low high none n).bind fun value =>
      .ok (put value))
    (range : low ≤ n ∧ n ≤ high) (h : n < 100) {c : Char} (rest : List Char)
    (stop : c.isDigit = false) :
    readNumber part ((Timestamp.padded 2 n).toList ++ c :: rest) parts =
      .ok (c :: rest, put (some n)) := by
  refine readNumber_padded plain h rest stop ?_
  rw [sets, DateParts.agreeWithin_none range.1 range.2]
  rfl

/-- No blanks stand in front of a year. -/
theorem skipBlanks_yearText (y : Int) (rest : List Char) :
    skipBlanks ((Timestamp.yearText y).toList ++ rest) = (Timestamp.yearText y).toList ++ rest := by
  rw [Timestamp.yearText]
  split
  next =>
    rw [String.toList_append]
    rfl
  next =>
    split
    next =>
      rw [String.toList_append]
      rfl
    next => exact skipBlanks_padded 4 _ rest

theorem readNumber_yearText {y : Int} (small : y.natAbs < Nat.pow 2 31)
    {c : Char} (rest : List Char) (stop : c.isDigit = false) (parts : DateParts)
    (unknown : parts.year = none) :
    readNumber .year ((Timestamp.yearText y).toList ++ c :: rest) parts =
      .ok (c :: rest, { parts with year := some y }) := by
  have large : Nat.pow 2 31 < Nat.pow 2 63 := by decide
  have range : -(Nat.pow 2 31 : Int) ≤ y ∧ y < (Nat.pow 2 31 : Int) := by omega
  rw [readNumber, skipBlanks_yearText, numberFor, year_yearText (small.trans large) rest stop]
  simp only [bind, Except.bind, setNumber, DateParts.agreeYear, unknown]
  rw [if_pos range]
  rfl

/-- The digits of a fraction are read as nanoseconds. -/
theorem fraction_padded {width n : Nat} (pos : 0 < width) (hwidth : width ≤ 9)
    (h : n < 10 ^ width) (c : Char) (rest : List Char) (stop : c.isDigit = false) :
    fraction ((Timestamp.padded width n).toList ++ c :: rest) =
      .ok ((n * 10 ^ (9 - width) : Nat), c :: rest) := by
  have small : n < Nat.pow 2 63 :=
    h.trans_le ((Nat.pow_le_pow_right (by decide) hwidth).trans (by decide))
  have read := number_padded rest pos hwidth pos h small stop
  have length := Timestamp.length_padded pos h
  rw [fraction, read]
  simp only [bind, Except.bind, List.length_append, length, Nat.add_sub_cancel, pure, Except.pure,
    List.dropWhile_cons, stop, Nat.cast_mul]
  rfl

theorem readFraction_padded {width n nano : Nat} (pos : 0 < width)
    (hwidth : width ≤ 9) (h : n < 10 ^ width) (same : n * 10 ^ (9 - width) = nano)
    (below : nano < nanosPerSecond) (parts : DateParts) (unknown : parts.nanosecond = none)
    (c : Char) (rest : List Char) (stop : c.isDigit = false) :
    readFraction fraction ('.' :: ((Timestamp.padded width n).toList ++ c :: rest)) parts =
      .ok (c :: rest, { parts with nanosecond := some nano }) := by
  rw [nanosPerSecond] at below
  rw [readFraction, fraction_padded pos hwidth h c rest stop, same]
  simp only [bind, Except.bind, setNumber, DateParts.agreeWithin, unknown]
  rw [if_pos (by omega)]
  rfl

/-- The fraction of a second is read from its text. -/
theorem readFraction_fractionText {nano : Nat} (h : nano < nanosPerSecond) (parts : DateParts)
    (unknown : parts.nanosecond = none) (c : Char) (rest : List Char) (stop : c.isDigit = false)
    (noPoint : c ≠ '.') :
    readFraction fraction ((Timestamp.fractionText nano).toList ++ c :: rest) parts =
      .ok (c :: rest, { parts with nanosecond := if nano = 0 then none else some nano }) := by
  have point (text : String) :
      ("." ++ text).toList ++ c :: rest = '.' :: (text.toList ++ c :: rest) := by
    rw [String.toList_append]
    rfl
  have below := h
  rw [nanosPerSecond] at h
  rw [Timestamp.fractionText]
  split
  next zero =>
    -- Nothing is written, and as no point follows, nothing is read.
    rw [← unknown]
    change readFraction fraction (c :: rest) parts = _
    rw [readFraction]
    exact fun more same => noPoint (List.cons.inj same).1
  next some =>
    split
    next millis =>
      rw [point]
      exact readFraction_padded (by decide) (by decide) (by omega)
        (Nat.div_mul_cancel (Nat.dvd_of_mod_eq_zero millis)) below parts unknown c rest stop
    next =>
      split
      next micros =>
        rw [point]
        exact readFraction_padded (by decide) (by decide) (by omega)
          (Nat.div_mul_cancel (Nat.dvd_of_mod_eq_zero micros)) below parts unknown c rest stop
      next =>
        rw [point]
        exact readFraction_padded (by decide) (by decide) h
          (Nat.mul_one nano) below parts unknown c rest stop

end Reading

/-! ### Instants -/

theorem DateParts.setHour_of_none {parts : DateParts} (half : parts.half = none)
    (dial : parts.dial = none) {n : Nat} (h : n < 24) :
    parts.setHour n = .ok { parts with half := some (n / 12), dial := some (n % 12) } := by
  rw [setHour, if_pos (by omega), half, dial]
  rfl

namespace Timestamp

/-- A leap second is the last second of a minute. -/
def IsRegular (t : Timestamp) : Prop := t.isLeapSecond = true → t.secondOfMinute = 59

/-- The parts of an instant that stand in its text. -/
def textParts (t : Timestamp) : DateParts where
  year := some t.date.year
  month := some t.date.month
  day := some t.date.day
  half := some (t.hour / 12)
  dial := some (t.hour % 12)
  minute := some t.minute
  second := some t.clockSecond
  nanosecond := if t.clockNano = 0 then none else some t.clockNano
  offset := some 0

theorem toList_toIsoFull (t : Timestamp) : t.toIsoFull.toList = (yearText t.date.year).toList ++
    '-' :: ((padded 2 t.date.month).toList ++ '-' :: ((padded 2 t.date.day).toList ++
    'T' :: ((padded 2 t.hour).toList ++ ':' :: ((padded 2 t.minute).toList ++
      ':' :: ((padded 2 t.clockSecond).toList ++
        ((fractionText t.clockNano).toList ++ ['Z'])))))) := by
  rw [toIsoFull, clockText]
  simp only [String.toList_append, List.append_assoc, show "-".toList = ['-'] from rfl,
    show "T".toList = ['T'] from rfl, show ":".toList = [':'] from rfl,
    show "Z".toList = ['Z'] from rfl, List.cons_append, List.nil_append]

/-- No digit stands behind the seconds. -/
theorem exists_cons_fractionText (nano : Nat) (rest : List Char) : ∃ c more,
    (fractionText nano).toList ++ 'Z' :: rest = c :: more ∧ c.isDigit = false := by
  have point (text : String) : ∃ c more,
      ("." ++ text).toList ++ 'Z' :: rest = c :: more ∧ c.isDigit = false := by
    rw [String.toList_append]
    exact ⟨'.', _, rfl, rfl⟩
  rw [fractionText]
  split
  next => exact ⟨'Z', rest, rfl, rfl⟩
  next =>
    split
    next => exact point _
    next =>
      split
      next => exact point _
      next => exact point _

/-- Where the numbers of an instant lie. -/
theorem ranges (t : Timestamp) :
    t.date.year.natAbs < Nat.pow 2 31 ∧ (1 ≤ t.date.month ∧ t.date.month ≤ 12) ∧
      (1 ≤ t.date.day ∧ t.date.day ≤ 31) ∧ t.hour < 24 ∧ t.minute ≤ 59 ∧ t.clockSecond ≤ 60 := by
  obtain ⟨valid, -, year⟩ := Date.ofDayNumber_spec t.day
  have inUse := Date.yearInUse_yearOfDay t.day_in_use
  rw [← year, ← date, Date.yearInUse, Bool.and_eq_true, decide_eq_true_iff, decide_eq_true_iff,
    Date.firstYear, Date.lastYear] at inUse
  rw [← date] at valid
  simp only [Date.valid, Bool.and_eq_true, decide_eq_true_iff] at valid
  have days := Date.monthLength_le t.date.year t.date.month
  have small : Nat.pow 2 31 = 2147483648 := rfl
  have second_lt := t.second_lt
  have nano_lt := t.nano_lt
  rw [secondsPerDay] at second_lt
  rw [nanosPerSecond] at nano_lt
  refine ⟨by omega, ⟨by omega, by omega⟩, ⟨by omega, by omega⟩, ?_, ?_, ?_⟩
  · rw [hour]
    omega
  · rw [minute]
    omega
  · rw [clockSecond, secondOfMinute, nanosPerSecond]
    omega

/-- The text of an instant is read to its end. -/
theorem looseInstant_toIsoFull (t : Timestamp) :
    Reading.looseInstant t.toIsoFull.toList {} = .ok ([], t.textParts) := by
  obtain ⟨hyear, hmonth, hday, hhour, hminute, hsecond⟩ := t.ranges
  obtain ⟨c, more, behind, stop⟩ := exists_cons_fractionText t.clockNano []
  -- Each part is read in front of whatever follows, once nothing is known of it.
  have dash (rest : List Char) :
      Reading.expect '-' (Reading.skipBlanks ('-' :: rest)) = .ok rest := rfl
  have colon (rest : List Char) :
      Reading.expect ':' (Reading.skipBlanks (':' :: rest)) = .ok rest := rfl
  have year (rest : List Char) :=
    Reading.readNumber_yearText hyear rest (show '-'.isDigit = false by decide) {} rfl
  have month (rest : List Char) (parts : DateParts) (unknown : parts.month = none) :=
    Reading.readNumber_within .month parts (fun month => { parts with month }) rfl
      (by rw [← unknown]; rfl) hmonth (by omega) rest (show '-'.isDigit = false by decide)
  have day (rest : List Char) (parts : DateParts) (unknown : parts.day = none) :=
    Reading.readNumber_within .day parts (fun day => { parts with day }) rfl
      (by rw [← unknown]; rfl) hday (by omega) rest (show 'T'.isDigit = false by decide)
  have hour (rest : List Char) (parts : DateParts) (half : parts.half = none)
      (dial : parts.dial = none) :=
    Reading.readNumber_padded (show Reading.numberFor .hour = Reading.number 1 2 from rfl)
      (by omega) rest
      (show ':'.isDigit = false by decide) (DateParts.setHour_of_none half dial hhour)
  have minute (rest : List Char) (parts : DateParts) (unknown : parts.minute = none) :=
    Reading.readNumber_within .minute parts (fun minute => { parts with minute }) rfl
      (by rw [← unknown]; rfl)
      ⟨Nat.zero_le _, hminute⟩ (by omega) rest (show ':'.isDigit = false by decide)
  have second (parts : DateParts) (unknown : parts.second = none) :=
    Reading.readNumber_within .second parts (fun second => { parts with second }) rfl
      (by rw [← unknown]; rfl) ⟨Nat.zero_le _, hsecond⟩ (by omega) more stop
  have clockNano_lt : t.clockNano < nanosPerSecond := Nat.mod_lt _ (by decide)
  have fraction (parts : DateParts) (unknown : parts.nanosecond = none) :
      Reading.readFraction Reading.fraction (c :: more) parts =
        .ok (['Z'], { parts with nanosecond := if t.clockNano =
            0 then none else some t.clockNano }) := by
    rw [← behind]
    exact Reading.readFraction_fractionText clockNano_lt parts unknown 'Z'
      [] (by decide) (by decide)
  rw [toList_toIsoFull, behind, Reading.looseInstant]
  simp only [bind, Except.bind, year, dash, month, day, hour, colon, minute, second, fraction]
  rfl

/-- The parts name the date. -/
theorem date_textParts (t : Timestamp) : t.textParts.date = .ok t.date := by
  have candidate : t.textParts.candidate (some t.date.year) none = .ok t.date := by
    have exists_date : Date.of? t.date.year t.date.month t.date.day = some t.date :=
      Date.of?_ofDayNumber t.day_in_use
    change DateParts.inRange (Date.of? t.date.year t.date.month t.date.day) = _
    rw [exists_date, DateParts.inRange]
  have matched : t.textParts.matchesDate t.date = true := by
    simp [DateParts.matchesDate, DateParts.allowsYear, DateParts.allows, textParts]
  have year : DateParts.resolveYear t.textParts.year t.textParts.century t.textParts.yearOfCentury =
      .ok (some t.date.year) := rfl
  have isoYear : DateParts.resolveYear t.textParts.isoYear none t.textParts.isoYearOfCentury =
    .ok none := rfl
  rw [DateParts.date, year, isoYear]
  simp only [bind, Except.bind, candidate, matched, if_true]
  rfl

/-- The parts name the time of the day. A second of 60 is read as a leap second behind a second of
59, so it stands for no other one. -/
theorem timeOfDay_textParts {t : Timestamp} (regular : t.IsRegular) :
    t.textParts.timeOfDay = .ok (t.second, t.nano) := by
  generalize hstart : (t.hour / 12 * 12 + t.hour % 12) * 3600 + t.minute * 60 = start
  have course : t.textParts.timeOfDay =
      if t.clockSecond = 60 then .ok (start + 59, nanosPerSecond + t.clockNano)
      else .ok (start + t.clockSecond, t.clockNano) := by
    rw [DateParts.timeOfDay]
    -- A fraction of zero is not written, but it is also what is taken
    -- for a fraction that is not there.
    by_cases whole : t.clockNano = 0
    · simp only [textParts, whole, if_true, DateParts.needed, bind, Except.bind, pure, Except.pure,
        Option.getD_some, hstart]
    · simp only [textParts, if_neg whole, DateParts.needed, bind, Except.bind, pure, Except.pure,
        Option.getD_some, hstart]
  have second_lt := t.second_lt
  have nano_lt := t.nano_lt
  simp only [IsRegular, isLeapSecond, decide_eq_true_iff, secondOfMinute] at regular
  rw [hour, minute] at hstart
  rw [nanosPerSecond] at nano_lt regular
  rw [course, clockSecond, secondOfMinute, clockNano, nanosPerSecond]
  split
  next leap =>
    -- The clock shows 60 in a leap second only, and that is one behind a second of 59.
    have second : start + 59 = t.second := by omega
    have nano : 1000000000 + t.nano % 1000000000 = t.nano := by omega
    rw [second, nano]
  next notLeap =>
    have second : start + (t.second % 60 + t.nano / 1000000000) = t.second := by omega
    have nano : t.nano % 1000000000 = t.nano := by omega
    rw [second, nano]

theorem ofDay?_self (t : Timestamp) : ofDay? t.day t.second t.nano = some t := by
  rw [ofDay?, dif_pos ⟨t.day_in_use, t.second_lt, t.nano_lt⟩]

theorem ofSeconds?_seconds (t : Timestamp) : ofSeconds? t.seconds t.nano = some t := by
  have second_lt := t.second_lt
  rw [secondsPerDay] at second_lt
  have day : t.seconds / (secondsPerDay : Int) = t.day := by
    rw [seconds, secondsPerDay]
    omega
  have second : (t.seconds % (secondsPerDay : Int)).toNat = t.second := by
    rw [seconds, secondsPerDay]
    omega
  rw [ofSeconds?, day, second, ofDay?_self]

/-- Parts in universal time that name the day and the time of an instant determine it. -/
theorem instant_eq_ok {t : Timestamp} {parts : DateParts} (hdate : parts.date = .ok t.date)
    (htime : parts.timeOfDay = .ok (t.second, t.nano)) (universal : parts.offset = some 0)
    (noEpoch : parts.epochSeconds = none) : parts.instant = .ok t := by
  have joined : DateParts.join t.date (t.second, t.nano) = .ok t := by
    rw [DateParts.join, date, Date.dayNumber_ofDayNumber, ofDay?_self]
    rfl
  have here : parts.localInstant 0 = .ok t := by
    rw [DateParts.localInstant, hdate, htime]
    simp only [joined, noEpoch]
    rfl
  rw [DateParts.instant]
  simp only [universal, pure, Except.pure, bind, Except.bind, here,
    Int.sub_zero, ofSeconds?_seconds]
  rfl

/-- The parts of an instant determine it. -/
theorem instant_textParts {t : Timestamp} (regular : t.IsRegular) : t.textParts.instant = .ok t :=
  instant_eq_ok (date_textParts t) (timeOfDay_textParts regular) rfl rfl

/-- **An instant is read again from its text**, unless it is in a leap second that is not
the last second of a minute. -/
theorem parseLoosely_toIsoFull {t : Timestamp} (regular : t.IsRegular) :
    parseLoosely t.toIsoFull = .ok t := by
  rw [parseLoosely, looseInstant_toIsoFull t]
  exact instant_textParts regular

end Timestamp

end RecordFlow
