import RecordFlow.Proofs.Calendar.Regularity
import Mathlib.Data.List.TakeWhile

/-!
# Instants with milliseconds that are read again

The text of an instant with milliseconds is an internet date as long as the year has four digits.
Then it is read again, up to the milliseconds. A year with a sign is no such date, and the other
forms of an instant, which would read the year, do not read the `Z` that ends the text.

## Main definitions

* `Timestamp.isoParts` — the parts of an instant that stand in its text
* `Timestamp.HasFourDigitYear` — the year has four digits and no sign

## Main results

* `Reading.strictInstant_toIso` — the text of an instant with a year of
  four digits is read to its end
* `Reading.byTemplate_leavesZ` — a template of numbers and signs reads no text with a `Z`
* `Timestamp.parse?_toIso` — which instants are read again
-/

namespace RecordFlow

open Text (isBlank)

namespace Reading

variable {parts : DateParts} {s : List Char}

/-! ### Internet dates -/

/-- A number of a fixed width is read in front of whatever is no digit. -/
theorem field_padded {width n : ℕ} {part : NumberPart} {parts' : DateParts}
    (set : setNumber parts part n = .ok parts') (pos : 0 < width) (hwidth : width ≤ 4)
    (h : n < 10 ^ width) {c : Char} (rest : List Char) (stop : c.isDigit = false) :
    field width part ((Timestamp.padded width n).toList ++ c :: rest) parts =
      .ok (c :: rest, parts') := by
  have small : n < Nat.pow 2 63 :=
    h.trans_le ((Nat.pow_le_pow_right (by decide) hwidth).trans (by decide))
  rw [field, number_padded rest le_rfl le_rfl pos h small stop]
  simp only [bind, Except.bind, set]
  rfl

/-- A part that has to lie in a range is read if it is not known yet. -/
theorem field_within (part : NumberPart) (parts : DateParts) (put : Option ℕ → DateParts)
    {low high n : ℕ} (sets : setNumber parts part n = (DateParts.agreeWithin low high none n).bind
      fun value => .ok (put value))
    (range : low ≤ n ∧ n ≤ high) (h : n < 100) {c : Char} (rest : List Char)
    (stop : c.isDigit = false) :
    field 2 part ((Timestamp.padded 2 n).toList ++ c :: rest) parts =
      .ok (c :: rest, put (some n)) := by
  refine field_padded ?_ (by decide) (by decide) h rest stop
  rw [sets, DateParts.agreeWithin_none range.1 range.2]
  rfl

end Reading

namespace Timestamp

variable {t : Timestamp}

/-- The parts of an instant that stand in its text with milliseconds. -/
def isoParts (t : Timestamp) : DateParts :=
  { t.textParts with nanosecond := some (t.clockNano / 1000000 * 1000000) }

theorem toList_toIso (t : Timestamp) : t.toIso.toList = (yearText t.date.year).toList ++
    '-' :: ((padded 2 t.date.month).toList ++ '-' :: ((padded 2 t.date.day).toList ++
    'T' :: ((padded 2 t.hour).toList ++ ':' :: ((padded 2 t.minute).toList ++
      ':' :: ((padded 2 t.clockSecond).toList ++
        '.' :: ((padded 3 (t.clockNano / 1000000)).toList ++ ['Z'])))))) := by
  rw [toIso, clockText]
  simp only [String.toList_append, List.append_assoc, show "-".toList = ['-'] from rfl,
    show "T".toList = ['T'] from rfl, show ":".toList = [':'] from rfl,
    show ".".toList = ['.'] from rfl, show "Z".toList = ['Z'] from rfl,
    List.cons_append, List.nil_append]

end Timestamp

namespace Reading

variable {parts : DateParts} {s : List Char}

/-- The text of an instant with a year of four digits is read to its end. -/
theorem strictInstant_toIso {t : Timestamp} (nonneg : 0 ≤ t.date.year) (four : t.date.year ≤ 9999) :
    strictInstant t.toIso.toList = .ok t.isoParts := by
  obtain ⟨hyear, hmonth, hday, hhour, hminute, hsecond⟩ := t.ranges
  have yearText : Timestamp.yearText t.date.year = Timestamp.padded 4 t.date.year.natAbs := by
    rw [Timestamp.yearText, if_neg (by omega), if_neg (by omega)]
  have dash (rest : List Char) : expect '-' ('-' :: rest) = .ok rest := rfl
  have colon (rest : List Char) : expect ':' (':' :: rest) = .ok rest := rfl
  have year (rest : List Char) :
      field 4 .year ((Timestamp.padded 4 t.date.year.natAbs).toList ++ '-' :: rest) {} =
      .ok ('-' :: rest, { year := some t.date.year }) := by
    refine field_padded ?_ (by decide) (by decide) (by omega) rest (by decide)
    have range : -(Nat.pow 2 31 : ℤ) ≤ t.date.year ∧ t.date.year < (Nat.pow 2 31 : ℤ) := by omega
    rw [Int.natAbs_of_nonneg nonneg, setNumber, DateParts.agreeYear, if_pos range]
    rfl
  have month (rest : List Char) (parts : DateParts) (unknown : parts.month = none) :=
    field_within .month parts (fun month => { parts with month }) (by rw [← unknown]; rfl) hmonth
      (by omega) rest (show '-'.isDigit = false by decide)
  have day (rest : List Char) (parts : DateParts) (unknown : parts.day = none) :=
    field_within .day parts (fun day => { parts with day }) (by rw [← unknown]; rfl) hday
      (by omega) rest (show 'T'.isDigit = false by decide)
  have hour (rest : List Char) (parts : DateParts) (half : parts.half = none)
      (dial : parts.dial = none) :
      field 2 .hour ((Timestamp.padded 2 t.hour).toList ++ ':' :: rest) parts =
        .ok (':' :: rest, { parts with half := some (t.hour / 12), dial := some (t.hour % 12) }) :=
    field_padded (show setNumber parts .hour t.hour =
      _ from DateParts.setHour_of_none half dial hhour) (by decide)
      (by decide) (by omega) rest (by decide)
  have minute (rest : List Char) (parts : DateParts) (unknown : parts.minute = none) :=
    field_within .minute parts (fun minute => { parts with minute }) (by rw [← unknown]; rfl)
      ⟨Nat.zero_le _, hminute⟩ (by omega) rest (show ':'.isDigit = false by decide)
  have second (rest : List Char) (parts : DateParts) (unknown : parts.second = none) :=
    field_within .second parts (fun second => { parts with second }) (by rw [← unknown]; rfl)
      ⟨Nat.zero_le _, hsecond⟩ (by omega) rest (show '.'.isDigit = false by decide)
  have clockNano_lt : t.clockNano < nanosPerSecond := Nat.mod_lt _ (by decide)
  rw [nanosPerSecond] at clockNano_lt
  have fraction (parts : DateParts) (unknown : parts.nanosecond = none) :
      readFraction fraction
      ('.' :: ((Timestamp.padded 3 (t.clockNano / 1000000)).toList ++ ['Z'])) parts =
        .ok (['Z'], { parts with nanosecond := some (t.clockNano / 1000000 * 1000000) }) :=
    readFraction_padded (by decide) (by decide) (by omega) rfl
      (by rw [nanosPerSecond]; omega) parts unknown 'Z' [] (by decide)
  rw [Timestamp.toList_toIso, yearText, strictInstant_eq]
  simp only [bind, Except.bind, year, dash, month, day, hour, colon, minute, second, fraction]
  rfl

/-! ### Other forms -/

/-- A number is read from digits. -/
theorem number_ensures (low high : ℕ) (s : List Char) : Ensures (number low high s) fun result =>
    ∃ digits, s = digits ++ result.2 ∧ low ≤ digits.length ∧ ∀ c ∈ digits, c.isDigit = true := by
  rw [number]
  generalize hdigits : (s.take high).takeWhile Char.isDigit = digits
  have front : digits <+: s := hdigits ▸ (List.takeWhile_prefix _).trans (List.take_prefix _ _)
  have areDigits : ∀ c ∈ digits, c.isDigit = true :=
    fun c hc => List.mem_takeWhile_imp (hdigits ▸ hc)
  split
  · exact .error _
  · split
    · exact .error _
    · split
      · exact .error _
      next enough => exact .ok ⟨digits, (List.prefix_iff_eq_append.mp front).symm,
        not_lt.mp enough, areDigits⟩

/-- An internet date does not start with a sign. -/
theorem strictInstant_of_sign {c : Char} (sign : c.isDigit = false) (rest : List Char) :
    Ensures (strictInstant (c :: rest)) fun _ => False := by
  rw [strictInstant_eq]
  have year : Ensures (field 4 .year (c :: rest) {}) fun _ => False := by
    refine (number_ensures 4 4 _).bind fun result read => ?_
    obtain ⟨digits, same, enough, areDigits⟩ := read
    obtain ⟨d, more, rfl⟩ := List.exists_cons_of_length_pos (Nat.lt_of_lt_of_le (by decide) enough)
    obtain ⟨rfl, -⟩ := List.cons.inj same
    exact absurd (areDigits c List.mem_cons_self) (by simp [sign])
  exact year.bind fun _ absurd => absurd.elim

/-- The letter `Z` is left by a reader that meets it. -/
abbrev LeavesZ {α : Type} (s : List Char) (rest : α → List Char)
    (reader : Except TimeError α) : Prop :=
  Ensures reader fun result => 'Z' ∈ s → 'Z' ∈ rest result

theorem number_leavesZ (low high : ℕ) (s : List Char) : LeavesZ s Prod.snd (number low high s) := by
  refine (number_ensures low high s).imp fun result read hs => ?_
  obtain ⟨digits, same, -, areDigits⟩ := read
  rcases List.mem_append.mp (same ▸ hs) with digit | left
  · exact absurd (areDigits 'Z' digit) (by decide)
  · exact left

theorem dropWhile_leavesZ {p : Char → Bool} (h : p 'Z' = false) (hs : 'Z' ∈ s) :
    'Z' ∈ s.dropWhile p := by
  rw [← List.takeWhile_append_dropWhile (p := p) (l := s), List.mem_append] at hs
  rcases hs with taken | left
  · exact absurd (List.mem_takeWhile_imp taken) (by simp [h])
  · exact left

theorem year_leavesZ (s : List Char) : LeavesZ s Prod.snd (year s) := by
  rw [year.eq_def]
  split
  next rest =>
    exact .map ((number_leavesZ _ _ rest).imp fun _ left hs =>
      left (List.mem_of_ne_of_mem (by decide) hs))
  next rest => exact (number_leavesZ _ _ rest).imp fun _ left
      hs => left (List.mem_of_ne_of_mem (by decide) hs)
  next => exact number_leavesZ _ _ _

theorem fraction_leavesZ (s : List Char) : LeavesZ s Prod.snd (fraction s) :=
  (number_leavesZ 1 9 s).bind fun _ left => .ok fun hs => dropWhile_leavesZ (by decide) (left hs)

/-- Whether an item is a number, a sign, blanks or a fraction. -/
def readsNoZ : TemplateItem → Bool
  | .literal text => !text.contains 'Z'
  | .blanks _ => true
  | .number _ _ => true
  | .fraction => true
  | _ => false

theorem item_leavesZ {i : TemplateItem} (h : readsNoZ i = true)
    (s : List Char) (parts : DateParts) : LeavesZ s Prod.fst (item s parts i) := by
  cases i with
  | literal text =>
    rw [item]
    split
    next front =>
      refine .ok fun hs => ?_
      rw [← List.take_append_drop text.length s, front, List.mem_append] at hs
      exact hs.resolve_left (by simpa [readsNoZ] using h)
    next => exact .error _
  | blanks text => exact .ok (dropWhile_leavesZ (by decide))
  | number part padding =>
    have read : LeavesZ (skipBlanks s) Prod.snd (numberFor part (skipBlanks s)) := by
      cases part with
      | year | isoYear => exact year_leavesZ _
      | _ => exact number_leavesZ _ _ _
    refine read.bindPair fun n rest left => .skip fun parts => .ok
      fun hs => left (dropWhile_leavesZ (by decide) hs)
  | fraction =>
    rw [item, readFraction.eq_def]
    split
    next rest =>
      exact (fraction_leavesZ rest).bind fun _ left => .skip fun parts =>
        .ok fun hs => left (List.mem_of_ne_of_mem (by decide) hs)
    next => exact .ok id
  | _ => cases h

/-- A template of such items reads no text with a `Z` to its end. -/
theorem byTemplate_leavesZ {items : List TemplateItem} (h : items.all readsNoZ = true)
    (hs : 'Z' ∈ s) : Ensures (byTemplate items s parts) fun _ => False := by
  induction items generalizing s parts with
  | nil =>
    cases s with
    | nil => cases hs
    | cons => exact .error _
  | cons i items ih =>
    obtain ⟨hi, hitems⟩ := Bool.and_eq_true_iff.mp (List.all_cons.symm.trans h)
    exact (item_leavesZ hi s parts).bindPair fun s parts left => ih hitems (left hs)

end Reading

/-! ### Which instants are read again -/

namespace Timestamp

variable {t : Timestamp}

/-- The year has four digits and no sign. -/
def HasFourDigitYear (t : Timestamp) : Prop := 0 ≤ t.date.year ∧ t.date.year ≤ 9999

instance : DecidablePred HasFourDigitYear := fun _ => inferInstanceAs (Decidable (_ ∧ _))

/-- No white space stands around a text with something else at both ends. -/
theorem trim_eq_self {c d : Char} {middle : List Char} {text : String}
    (h : text.toList = c :: (middle ++ [d])) (hc : isBlank c = false) (hd : isBlank d = false) :
    Text.trim text = text := by
  have back : (c :: (middle ++ [d])).reverse = d :: (c :: middle).reverse := by
    rw [← List.cons_append, List.reverse_append]
    rfl
  rw [Text.trim, Text.trimChars, h, List.dropWhile_cons_of_neg (by simp [hc]), back,
    List.dropWhile_cons_of_neg (by simp [hd]), ← back, List.reverse_reverse,
    ← h, String.ofList_toList]

/-- The text of an instant starts with a digit, or with a sign if the year has not four digits. -/
theorem toList_toIso_eq_cons (t : Timestamp) : ∃ c rest, t.toIso.toList = c :: (rest ++ ['Z']) ∧
    isBlank c = false ∧ (¬t.HasFourDigitYear → c.isDigit = false) := by
  obtain ⟨more, hmore⟩ :
      (yearText t.date.year).toList <+:
      (t.clockText ++ "." ++ padded 3 (t.clockNano / 1000000)).toList := by
    rw [clockText]
    simp only [String.toList_append, List.append_assoc]
    exact List.prefix_append _ _
  have text : t.toIso.toList = (yearText t.date.year).toList ++ (more ++ ['Z']) := by
    rw [toIso, String.toList_append, ← hmore, List.append_assoc]
    rfl
  rw [text, yearText]
  split
  · exact ⟨'-', _, by rw [String.toList_append, ← List.append_assoc]; rfl, by decide,
      fun _ => by decide⟩
  · split
    · exact ⟨'+', _, by rw [String.toList_append, ← List.append_assoc]; rfl, by decide,
        fun _ => by decide⟩
    · obtain ⟨c, digits, h⟩ :=
        List.exists_cons_of_length_pos (length_padded_pos 4 t.date.year.natAbs)
      have digit : c.isDigit = true := isDigit_of_mem_padded (h ▸ List.mem_cons_self)
      rw [h]
      have four : t.HasFourDigitYear := ⟨by omega, by omega⟩
      exact ⟨c, _, by rw [← List.append_assoc]; rfl, Reading.isBlank_of_isDigit digit,
        fun many => absurd four many⟩

/-- A fraction of zero is as good as none. -/
theorem timeOfDay_of_zero {parts : DateParts} (second : parts.second.isSome = true)
    (unknown : parts.nanosecond = none) :
    ({ parts with nanosecond := some 0 } : DateParts).timeOfDay = parts.timeOfDay := by
  obtain ⟨second, known⟩ := Option.isSome_iff_exists.mp second
  rw [DateParts.timeOfDay, DateParts.timeOfDay]
  simp only [unknown, known]

/-- The parts in the text are those of the instant without what is finer. -/
theorem timeOfDay_isoParts (regular : t.IsRegular) :
    t.isoParts.timeOfDay = .ok (t.truncateToMilli.second, t.truncateToMilli.nano) := by
  generalize hu : t.truncateToMilli = u
  have second : u.second = t.second := hu ▸ rfl
  have nano : u.nano = t.nano / 1000000 * 1000000 := hu ▸ rfl
  have still : u.IsRegular := by
    rw [isRegular_iff] at regular ⊢
    rw [u.seconds_eq]
    rw [t.seconds_eq] at regular
    omega
  have clockSecond : u.clockSecond = t.clockSecond := by
    rw [Timestamp.clockSecond, Timestamp.clockSecond, secondOfMinute,
      secondOfMinute, nanosPerSecond]
    omega
  have clockNano : u.clockNano = t.clockNano / 1000000 * 1000000 := by
    rw [Timestamp.clockNano, Timestamp.clockNano, nanosPerSecond]
    omega
  have parts : t.isoParts = { u.textParts with nanosecond := some u.clockNano } := by
    rw [isoParts, textParts, textParts, clockNano, clockSecond]
    subst hu
    rfl
  rw [parts, ← timeOfDay_textParts still]
  -- Here a fraction of zero is written, too.
  by_cases whole : u.clockNano = 0
  · rw [whole]
    exact timeOfDay_of_zero rfl (if_pos whole)
  · rw [textParts, if_neg whole]

theorem instant_isoParts (regular : t.IsRegular) : t.isoParts.instant = .ok t.truncateToMilli :=
  instant_eq_ok (date_textParts t) (timeOfDay_isoParts regular) rfl rfl

/-- **An instant is read again from its text with milliseconds**, without what is finer, exactly
if its year has four digits. -/
theorem parse?_toIso (regular : t.IsRegular) : parse? t.toIso =
    if t.HasFourDigitYear then some t.truncateToMilli else none := by
  obtain ⟨c, rest, text, notBlank, sign⟩ := t.toList_toIso_eq_cons
  have trim : Text.trim t.toIso = t.toIso := trim_eq_self text notBlank (by decide)
  rw [parse?_eq, trim]
  split
  next four =>
    rw [parseStrictly?, Reading.strictInstant_toIso four.1 four.2]
    simp only [Except.toOption, Option.bind_some, instant_isoParts regular, Option.some_or]
  next notFour =>
    -- A sign stands in front, which ends the first form, and a letter
    -- behind, which ends the others.
    have hZ : 'Z' ∈ t.toIso.toList := by simp [text]
    have strict : parseStrictly? t.toIso = none := by
      rw [parseStrictly?, text, (Reading.strictInstant_of_sign (sign notFour) _).toOption_eq_none,
        Option.bind_none]
    have other {items : List TemplateItem} (h : items.all Reading.readsNoZ = true) :
        (Reading.byTemplate items t.toIso.toList {}).toOption = none :=
      (Reading.byTemplate_leavesZ h hZ).toOption_eq_none
    rw [strict, inUniversalTime?, inUniversalTime?, atMidnight?,
      other (by decide), other (by decide), other (by decide)]
    rfl

end Timestamp

end RecordFlow
