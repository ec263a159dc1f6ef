import RecordFlow.Proofs.Calendar.Rereading
import RecordFlow.Proofs.Calendar.Tiling

/-!
# Leap seconds end minutes

Whatever instant is read from a text, its leap second, if it is in one, is the last second of a
minute: a text gives a second of 60 only by its number, fractions are less than a second, and
offsets are whole minutes. Moving an instant and taking the bounds of a unit leave it so.

## Main definitions

* `Ensures` — whatever a reader yields has a property
* `DateParts.HasProperFraction` — the fraction of the parts is less than a second

## Main results

* `Reading.byTemplate_ensures`, `Reading.strictInstant_ensures` — what is read has a proper fraction
* `DateParts.localInstant_ensures`, `DateParts.instant_ensures` — such
  parts determine a regular instant
* `Timestamp.isRegular_of_parse?`, `Timestamp.isRegular_of_parseWith?` — what is read is regular
* `DateUnit.isRegular_of_add?`, `DateUnit.isRegular_of_startOf?`, `DateUnit.isRegular_of_endOf?` —
  so is what is reached from there
-/

namespace RecordFlow

/-! ### What readers yield -/

/-- Whatever a reader yields, if it yields anything, has a property. -/
def Ensures {α : Type} (reader : Except TimeError α) (property : α → Prop) : Prop :=
  ∀ a, reader = .ok a → property a

namespace Ensures

variable {α β γ : Type} {P : α → Prop} {Q : β → Prop} {reader : Except TimeError α}
    {next : α → Except TimeError β}

theorem ok {a : α} (h : P a) : Ensures (.ok a) P := fun _ same => Except.ok.inj same ▸ h

theorem error (cause : TimeError) : Ensures (.error cause) P := nofun

theorem bind (h : Ensures reader P) (hnext : ∀ a, P a → Ensures (next a) Q) :
    Ensures (reader >>= next) Q := by
  cases reader with
  | error cause => exact error cause
  | ok a => exact hnext a (h a rfl)

theorem map {f : α → β} (h : Ensures reader fun a => Q (f a)) : Ensures (reader.map f) Q := by
  cases reader with
  | error cause => exact error cause
  | ok a => exact ok (h a rfl)

theorem imp {P' : α → Prop} (h : Ensures reader P) (himp : ∀ a, P a → P' a) : Ensures reader P' :=
  fun a same => himp a (h a same)

/-- What the first reader yields does not matter. -/
theorem skip (hnext : ∀ a, Ensures (next a) Q) : Ensures (reader >>= next) Q :=
  bind (P := fun _ => True) (fun _ _ => trivial) fun a _ => hnext a

/-- A pair goes on as its two parts. -/
theorem bindPair {reader : Except TimeError (α × γ)} {R : α × γ → Prop}
    {next : α × γ → Except TimeError β} (h : Ensures reader R)
    (hnext : ∀ a c, R (a, c) → Ensures (next (a, c)) Q) : Ensures (reader >>= next) Q :=
  h.bind fun pair => hnext pair.1 pair.2

theorem skipPair {reader : Except TimeError (α × γ)} {next : α × γ → Except TimeError β}
    (hnext : ∀ a c, Ensures (next (a, c)) Q) : Ensures (reader >>= next) Q :=
  skip fun pair => hnext pair.1 pair.2

theorem toOption (h : Ensures reader P) {a : α} (found : reader.toOption = some a) : P a := by
  cases reader with
  | error => cases found
  | ok b => exact h a (congrArg Except.ok (Option.some_inj.mp found))

theorem toOption_eq_none (h : Ensures reader fun _ => False) : reader.toOption = none :=
  Option.eq_none_iff_forall_ne_some.mpr fun _ found => h.toOption found

end Ensures

namespace DateParts

variable {parts : DateParts} {n : ℤ}

/-- The fraction of a second, if there is one, is less than a second. -/
def HasProperFraction (parts : DateParts) : Prop :=
  ∀ nano, parts.nanosecond = some nano → nano < nanosPerSecond

theorem hasProperFraction_empty : ({} : DateParts).HasProperFraction := nofun

theorem agree_ensures {α : Type} [DecidableEq α] (known : Option α) (value : α) :
    Ensures (agree known value) (· = some value) := by
  intro result h
  cases known with
  | none => exact (Except.ok.inj h).symm
  | some old =>
    rw [agree] at h
    split at h
    next same => rw [← Except.ok.inj h, same]
    next => cases h

theorem agreeWithin_ensures (low high : ℕ) (known : Option ℕ) (n : ℤ) :
    Ensures (agreeWithin low high known n) fun result => ∃ value, result = some value ∧
      low ≤ value ∧ value ≤ high := by
  rw [agreeWithin]
  split
  next range => exact fun result h => ⟨n.toNat, agree_ensures _ _ _ h, by omega, by omega⟩
  next => exact .error _

theorem setHour_ensures (h : parts.HasProperFraction) (n : ℤ) :
    Ensures (parts.setHour n) HasProperFraction := by
  rw [setHour]
  split
  · exact .skip fun half => .skip fun dial => .ok h
  · exact .error _

end DateParts

namespace Reading

open DateParts

variable {parts : DateParts} {s : List Char} {n : ℤ}

/-- The parts that a reader yields beside the rest of the text have a proper fraction. -/
abbrev KeepsFraction (reader : Except TimeError (List Char × DateParts)) : Prop :=
  Ensures reader fun result => result.2.HasProperFraction

theorem setNumber_ensures (h : parts.HasProperFraction) (part : NumberPart) (n : ℤ) :
    Ensures (setNumber parts part n) HasProperFraction := by
  cases part with
  | nanosecond =>
    refine (agreeWithin_ensures 0 999999999 parts.nanosecond n).bind fun result within => .ok ?_
    obtain ⟨value, same, -, high⟩ := within
    intro nano found
    rw [← Option.some_inj.mp (same.symm.trans found), nanosPerSecond]
    exact Nat.lt_succ_of_le high
  | hour => exact setHour_ensures h n
  | halfDayHour =>
    rw [setNumber, setDialHour]
    split
    · exact .skip fun dial => .ok h
    · exact .error _
  | weekdayFromZero =>
    rw [setNumber]
    split
    · exact .skip fun weekday => .ok h
    · exact .error _
  -- The other parts leave the fraction alone.
  | _ => exact .skip fun value => .ok h

theorem setOffset_ensures (h : parts.HasProperFraction) (seconds : ℤ) :
    Ensures (setOffset parts seconds) fun result => result.HasProperFraction ∧
      result.offset = some seconds :=
  (agree_ensures parts.offset seconds).bind fun _ same => .ok ⟨h, same⟩

theorem readNumber_keepsFraction (h : parts.HasProperFraction) (part : NumberPart) (s : List Char) :
    KeepsFraction (readNumber part s parts) :=
  .skipPair fun n _ => (setNumber_ensures h part n).bind fun _ h => .ok h

theorem readFraction_keepsFraction (h : parts.HasProperFraction)
    (digits : List Char → Except TimeError (ℤ × List Char)) (s : List Char) :
    KeepsFraction (readFraction digits s parts) := by
  rw [readFraction.eq_def]
  split
  · exact .skipPair fun n _ => (setNumber_ensures h .nanosecond n).bind fun _ h => .ok h
  · exact .ok h

theorem looseInstant_keepsFraction (h : parts.HasProperFraction) (s : List Char) :
    KeepsFraction (looseInstant s parts) := by
  rw [looseInstant]
  refine (readNumber_keepsFraction h .year _).bindPair fun s parts h => .skip fun s => ?_
  refine (readNumber_keepsFraction h .month _).bindPair fun s parts h => .skip fun s => ?_
  refine (readNumber_keepsFraction h .day _).bindPair fun s parts h => ?_
  dsimp only
  split
  all_goals
    refine .skip fun s => (readNumber_keepsFraction h .hour _).bindPair
      fun s parts h => .skip fun s => ?_
    refine (readNumber_keepsFraction h .minute _).bindPair fun s parts h => .skip fun s => ?_
    refine (readNumber_keepsFraction h .second _).bindPair fun s parts h => ?_
    refine (readFraction_keepsFraction h fraction _).bindPair fun s parts h => ?_
    dsimp only
    split
    all_goals exact .skipPair fun seconds s => (setOffset_ensures h seconds).bind fun _ h => .ok h.1

theorem item_keepsFraction (h : parts.HasProperFraction) (i : TemplateItem) (s : List Char) :
    KeepsFraction (item s parts i) := by
  cases i with
  | literal text =>
    rw [item]
    split
    · exact .ok h
    · exact .error _
  | blanks => exact .ok h
  | number part => exact readNumber_keepsFraction h part s
  | monthName => exact .skipPair fun index _ => (setNumber_ensures h .month _).bind fun _ h => .ok h
  | weekdayName => exact .skipPair fun index _ =>
    (setNumber_ensures h .weekdayFromOne _).bind fun _ h => .ok h
  | halfOfDay => exact .skipPair fun half _ => .skip fun _ => .ok h
  | fraction => exact readFraction_keepsFraction h _ s
  | fixedFraction digits point =>
    cases point with
    | true => exact readFraction_keepsFraction h _ s
    | false => exact .skipPair fun n _ => (setNumber_ensures h .nanosecond n).bind fun _ h => .ok h
  | zoneName => exact .ok h
  | offset => exact .skipPair fun seconds _ => (setOffset_ensures h seconds).bind fun _ h => .ok h.1
  | looseOffset => exact .skipPair fun seconds _ =>
    (setOffset_ensures h seconds).bind fun _ h => .ok h.1
  | fullInstant => exact looseInstant_keepsFraction h s

/-- What is read by a template has a proper fraction. -/
theorem byTemplate_ensures (h : parts.HasProperFraction) (items : List TemplateItem)
    (s : List Char) : Ensures (byTemplate items s parts) HasProperFraction := by
  induction items generalizing s parts with
  | nil =>
    cases s with
    | nil => exact .ok h
    | cons => exact .error _
  | cons i items ih => exact (item_keepsFraction h i s).bindPair fun s parts h => ih h s

/-- Offsets are whole minutes. -/
theorem offset_ensures (form : OffsetForm) (s : List Char) :
    Ensures (offset form s) fun result => result.1 % 60 = 0 := by
  rw [offset.eq_def]
  extract_lets signed
  have signed_ensures (negative : Bool) (s : List Char) :
      Ensures (signed negative s) fun result => result.1 % 60 = 0 := by
    simp only [signed]
    split
    · exact .error _
    · split
      · split
        · refine .skip fun s => .skip fun minutes => .ok ?_
          dsimp only
          split
          · omega
          · omega
        · exact .error _
      · exact .error _
  split
  · exact .error _
  · split
    · exact .ok rfl
    · split
      · exact signed_ensures false _
      · split
        · exact signed_ensures true _
        · exact .error _

/-- A number of a fixed width for a part. -/
def field (width : ℕ) (part : NumberPart) (s : List Char) (parts : DateParts) :
    Except TimeError (List Char × DateParts) := do
  let (n, rest) ← number width width s
  return (rest, ← setNumber parts part n)

theorem strictInstant_eq (s : List Char) : strictInstant s = (do
    let (s, parts) ← field 4 .year s {}
    let (s, parts) ← field 2 .month (← expect '-' s) parts
    let (s, parts) ← field 2 .day (← expect '-' s) parts
    let s ← match s with
      | 'T' :: rest | 't' :: rest | ' ' :: rest => .ok rest
      | [] => .error .tooShort
      | _ => .error .invalid
    let (s, parts) ← field 2 .hour s parts
    let (s, parts) ← field 2 .minute (← expect ':' s) parts
    let (s, parts) ← field 2 .second (← expect ':' s) parts
    let (s, parts) ← readFraction fraction s parts
    let (seconds, s) ← offset ⟨true, false, expect ':'⟩ s
    if seconds.natAbs ≥ secondsPerDay then throw TimeError.outOfRange
    if s.isEmpty then setOffset parts seconds else throw TimeError.tooLong) :=
  rfl

theorem field_keepsFraction (h : parts.HasProperFraction) (width : ℕ)
    (part : NumberPart) (s : List Char) : KeepsFraction (field width part s parts) :=
  .skipPair fun n _ => (setNumber_ensures h part n).bind fun _ h => .ok h

/-- What is read of an internet date has a proper fraction and an offset of whole minutes. -/
theorem strictInstant_ensures (s : List Char) : Ensures (strictInstant s) fun parts =>
    parts.HasProperFraction ∧ ∀ offset, parts.offset = some offset → offset % 60 = 0 := by
  rw [strictInstant_eq]
  refine (field_keepsFraction hasProperFraction_empty 4 .year s).bindPair fun s parts h =>
    .skip fun s => ?_
  refine (field_keepsFraction h 2 .month s).bindPair fun s parts h => .skip fun s => ?_
  refine (field_keepsFraction h 2 .day s).bindPair fun s parts h => ?_
  dsimp only
  split
  all_goals
    refine .skip fun s => (field_keepsFraction h 2 .hour s).bindPair
      fun s parts h => .skip fun s => ?_
    refine (field_keepsFraction h 2 .minute s).bindPair fun s parts h => .skip fun s => ?_
    refine (field_keepsFraction h 2 .second s).bindPair fun s parts h => ?_
    refine (readFraction_keepsFraction h fraction s).bindPair fun s parts h => ?_
    refine (offset_ensures _ s).bindPair fun seconds s minutes => ?_
    dsimp only
    split
    · exact .error _
    · split
      · refine (setOffset_ensures h seconds).imp fun parts set => ⟨set.1, fun offset found => ?_⟩
        rwa [← Option.some_inj.mp (set.2.symm.trans found)]
      · exact .error _

end Reading

/-! ### What the parts determine -/

namespace Timestamp

variable {t a b : Timestamp}

theorem isRegular_iff : t.IsRegular ↔ (1000000000 ≤ t.nano → t.seconds % 60 = 59) := by
  have := t.seconds_eq
  rw [IsRegular, isLeapSecond, decide_eq_true_iff, nanosPerSecond, secondOfMinute]
  omega

/-- Whole minutes do not matter. -/
theorem IsRegular.of_seconds (h : a.IsRegular) (minutes : (b.seconds - a.seconds) % 60 = 0)
    (nano : b.nano = a.nano) : b.IsRegular := by
  rw [isRegular_iff] at h ⊢
  omega

theorem isRegular_of_nano (h : t.nano < 1000000000) : t.IsRegular := by
  rw [isRegular_iff]
  omega

end Timestamp

namespace DateParts

variable {parts : DateParts}

/-- A time of day in a leap second is at the end of a minute. -/
theorem timeOfDay_ensures (h : parts.HasProperFraction) :
    Ensures parts.timeOfDay fun time => 1000000000 ≤ time.2 → time.1 % 60 = 59 := by
  refine .skip fun half => .skip fun dial => .skip fun minute => ?_
  dsimp only
  have fraction {reader : Except TimeError ℕ} (below : Ensures reader (· < 1000000000)) :
      Ensures (do
        let nano ← reader
        if parts.second.getD 0 = 60 then
          return ((half * 12 + dial) * 3600 + minute * 60 + 59, nanosPerSecond + nano)
        else return ((half * 12 + dial) * 3600 + minute * 60 + parts.second.getD 0, nano))
      fun time => 1000000000 ≤ time.2 → time.1 % 60 = 59 := by
    refine below.bind fun nano below => ?_
    split
    · refine .ok fun _ => ?_
      dsimp only
      omega
    -- Only a second of 60 makes more than a second of the fraction.
    · refine .ok fun leap => ?_
      dsimp only at leap
      omega
  split
  · exact fraction (.ok (by decide))
  next nano second known _ =>
    exact fraction (.ok (h nano known))
  · exact fraction (.error _)

theorem join_ensures {time : ℕ × ℕ} (h : 1000000000 ≤ time.2 → time.1 % 60 = 59) (date : Date) :
    Ensures (join date time) Timestamp.IsRegular := by
  rw [join]
  cases made : Timestamp.ofDay? date.dayNumber time.1 time.2 with
  | none => exact .error _
  | some t =>
    obtain ⟨-, second, nano⟩ := Timestamp.ofDay?_eq_some_iff.mp made
    refine .ok (Timestamp.isRegular_iff.mpr fun leap => ?_)
    rw [Timestamp.seconds_eq]
    have := h (nano ▸ leap)
    omega

theorem instantOfEpoch_ensures (h : parts.HasProperFraction) (seconds : ℤ) :
    Ensures (parts.instantOfEpoch seconds) Timestamp.IsRegular := by
  rw [instantOfEpoch]
  refine .skip fun given => ?_
  -- What the seconds since the epoch tell is filled in, and the parts are taken as they are then.
  extract_lets rest
  have rest_ensures (known : Timestamp × Option ℕ) : Ensures (rest known) Timestamp.IsRegular := by
    refine .skip fun year => .skip fun dayOfYear => (setHour_ensures ?_ _).bind fun parts h => ?_
    · exact h
    refine .skip fun minute => .skip fun date => (timeOfDay_ensures ?_).bind
      fun time leap => join_ensures leap date
    exact h
  clear_value rest
  split
  · split
    · exact .skip rest_ensures
    · exact .skip fun t => .skip rest_ensures
    · exact .error _
  · exact .skip fun second => .skip rest_ensures

theorem localInstant_ensures (h : parts.HasProperFraction) (offset : ℤ) :
    Ensures (parts.localInstant offset) Timestamp.IsRegular := by
  rw [localInstant]
  split
  next date time hdate htime =>
    refine (join_ensures (timeOfDay_ensures h _ htime) date).bind fun t regular => ?_
    split
    · split
      · exact .ok regular
      · exact .error _
    · exact .ok regular
  · split
    · split
      · exact .error _
      · split
        · exact .error _
        · exact instantOfEpoch_ensures h _
    · exact .skip fun _ => .skip fun _ => .error _

theorem instant_ensures (h : parts.HasProperFraction)
    (minutes : ∀ offset, parts.offset = some offset → offset % 60 = 0) :
    Ensures parts.instant Timestamp.IsRegular := by
  -- Rewriting would put what follows the offset in place of its name.
  delta instant
  extract_lets rest
  have rest_ensures {offset : ℤ} (whole : offset % 60 = 0) :
      Ensures (rest offset) Timestamp.IsRegular := by
    refine (localInstant_ensures h offset).bind fun t regular => ?_
    split
    · split
      -- To move by whole minutes leaves an instant regular.
      next moved hmoved =>
        obtain ⟨seconds, nano⟩ := Timestamp.ofSeconds?_eq_some_iff.mp hmoved
        exact .ok (regular.of_seconds (by omega) nano)
      · exact .error _
    · exact .error _
  clear_value rest
  split
  next offset known => exact .bind (P := (· % 60 = 0)) (.ok (minutes offset known)) fun _ =>
    rest_ensures
  · exact .bind (P := (· % 60 = 0)) (.ok (by decide)) fun _ => rest_ensures
  · exact .error _

end DateParts

/-! ### What is read and reached -/

namespace Timestamp

variable {t r : Timestamp}

theorem isRegular_of_midnight {day : ℤ} (h : ofDay? day 0 0 = some t) : t.IsRegular := by
  obtain ⟨-, -, nano⟩ := ofDay?_eq_some_iff.mp h
  exact isRegular_of_nano (by omega)

theorem isRegular_of_ofMillis? {millis : ℤ} (h : ofMillis? millis = some t) : t.IsRegular := by
  obtain ⟨-, nano⟩ := ofSeconds?_eq_some_iff.mp h
  exact isRegular_of_nano (by omega)

theorem isRegular_of_parseWith? {text template : String} (h : parseWith? text template = some t) :
    t.IsRegular := by
  obtain ⟨items, -, hitems⟩ := Option.bind_eq_some_iff.mp h
  have read := Reading.byTemplate_ensures DateParts.hasProperFraction_empty items text.toList
  rw [readItems?] at hitems
  split at hitems
  next => cases hitems
  next parts hparts =>
    split at hitems
    next found =>
      obtain rfl := Option.some_inj.mp hitems
      exact DateParts.localInstant_ensures (read parts hparts) 0 _ found
    next =>
      obtain ⟨date, -, midnight⟩ := Option.bind_eq_some_iff.mp hitems
      exact isRegular_of_midnight midnight

/-- A date and a time of day in universal time, by a template. -/
def inUniversalTime? (items : List TemplateItem) (text : String) : Option Timestamp :=
  (Reading.byTemplate items text.toList {}).toOption.bind fun parts =>
    (parts.localInstant 0).toOption

/-- A date by a template, at midnight. -/
def atMidnight? (items : List TemplateItem) (text : String) : Option Timestamp :=
  (Reading.byTemplate items text.toList {}).toOption.bind fun parts =>
    parts.date.toOption.bind fun date => ofDay? date.dayNumber 0 0

/-- The forms of an instant, in the order in which they are tried. -/
theorem parse?_eq (text : String) : parse? text =
    ((parseStrictly? (Text.trim text)).or <|
      (inUniversalTime? (dateAndTime (.literal ['T'])) (Text.trim text)).or <|
      (inUniversalTime? (dateAndTime (.blanks [' '])) (Text.trim text)).or <|
      atMidnight? ((Template.letterItems 'F').getD []) (Text.trim text)) := by
  rw [parse?]
  simp only [Option.orElse_eq_orElse, Option.orElse_eq_or]
  rfl

theorem isRegular_of_inUniversalTime? {items : List TemplateItem} {text : String}
    (h : inUniversalTime? items text = some t) : t.IsRegular := by
  obtain ⟨parts, hparts, hinstant⟩ := Option.bind_eq_some_iff.mp h
  have proper :=
    (Reading.byTemplate_ensures DateParts.hasProperFraction_empty items text.toList).toOption hparts
  exact (DateParts.localInstant_ensures proper 0).toOption hinstant

theorem isRegular_of_parse? {text : String} (h : parse? text = some t) : t.IsRegular := by
  rw [parse?_eq, Option.or_eq_some_iff, Option.or_eq_some_iff, Option.or_eq_some_iff] at h
  rcases h with strict | ⟨-, letter | ⟨-, blanks | ⟨-, date⟩⟩⟩
  · obtain ⟨parts, hparts, hinstant⟩ := Option.bind_eq_some_iff.mp strict
    obtain ⟨proper, minutes⟩ := (Reading.strictInstant_ensures _).toOption hparts
    exact (DateParts.instant_ensures proper minutes).toOption hinstant
  · exact isRegular_of_inUniversalTime? letter
  · exact isRegular_of_inUniversalTime? blanks
  · obtain ⟨parts, -, hdate⟩ := Option.bind_eq_some_iff.mp date
    obtain ⟨date, -, midnight⟩ := Option.bind_eq_some_iff.mp hdate
    exact isRegular_of_midnight midnight

theorem isRegular_of_addSeconds? {n : ℤ} (ht : t.IsRegular) (h : t.addSeconds? n = some r) :
    r.IsRegular := by
  have nano_lt := t.nano_lt
  rw [nanosPerSecond] at nano_lt
  rw [addSeconds?] at h
  split at h
  next => exact Option.some_inj.mp h ▸ ht
  next =>
    split at h
    next leap =>
      -- A leap second is left.
      have left {seconds : ℤ} (h : ofSeconds? seconds (t.nano - nanosPerSecond) = some r) :
          r.IsRegular := by
        obtain ⟨-, nano⟩ := ofSeconds?_eq_some_iff.mp h
        rw [nanosPerSecond] at nano
        exact isRegular_of_nano (by omega)
      split at h
      · exact left h
      · exact left h
    next noLeap =>
      obtain ⟨-, nano⟩ := ofSeconds?_eq_some_iff.mp h
      rw [Bool.not_eq_true, isLeapSecond_eq_false_iff] at noLeap
      exact isRegular_of_nano (nano ▸ noLeap)

end Timestamp

namespace DateUnit

variable {unit : DateUnit} {t r : Timestamp}

theorem isRegular_of_add? {amount : ℤ} (ht : t.IsRegular) (h : unit.add? t amount = some r) :
    r.IsRegular := by
  have months {n : ℤ} (h : addMonths? t n = some r) : r.IsRegular := by
    obtain ⟨-, second, nano⟩ := addMonths?_eq_some_iff.mp h
    refine ht.of_seconds ?_ nano
    rw [r.seconds_eq, t.seconds_eq]
    omega
  cases unit with
  | month | year => exact months h
  | _ => exact Timestamp.isRegular_of_addSeconds? ht h

theorem isRegular_of_startOf? (h : unit.startOf? t = some r) : r.IsRegular :=
  Timestamp.isRegular_of_nano ((startOf?_eq_some_iff.mp h).2.trans_lt (by decide))

theorem isRegular_of_endOf? (h : unit.endOf? t = some r) : r.IsRegular := by
  obtain ⟨start, hstart, -⟩ := Option.bind_eq_some_iff.mp h
  obtain ⟨next, -, later⟩ := (endOf?_eq_some_iff hstart).mp h
  exact Timestamp.isRegular_of_nano
    (Timestamp.isLeapSecond_eq_false_iff.mp (Timestamp.later?_eq_some_iff.mp later).2)

end DateUnit

end RecordFlow
