import RecordFlow.Calendar.Parts
import RecordFlow.Calendar.Template
import RecordFlow.Text.Digits
import RecordFlow.Text.Utf8

/-!
# Reading instants

Instants are read from texts by a template, or in the internet date format, either strictly or with
some freedom in widths and blanks.

## Main definitions

* `Reading.byTemplate` — the parts that a text gives by a template
* `Timestamp.parseWith?` — a text by a template; without a time of day it is midnight
* `Timestamp.parse?` — an internet date, a date and time without a zone, or a date
* `Timestamp.parseLoosely` — an internet date with its error
-/

namespace RecordFlow

namespace Reading

open Text (isBlank byteCount digitsValue)

/-- A text without the blanks in front. -/
def skipBlanks (s : List Char) : List Char := s.dropWhile isBlank

/-- A number of `low` to `high` digits, and the text behind it. -/
def number (low high : Nat) (s : List Char) : Except TimeError (Int × List Char) :=
  let digits := (s.take high).takeWhile Char.isDigit
  let value := digitsValue digits
  if s.length < low then .error .tooShort
  else if value ≥ Nat.pow 2 63 then .error .outOfRange
  else if digits.length < low then .error .invalid
  else .ok (value, s.drop digits.length)

/-- A year: with a sign it may have any number of digits, without one four at most. -/
def year (s : List Char) : Except TimeError (Int × List Char) :=
  match s with
  | '-' :: rest => (number 1 rest.length.succ rest).map fun (n, rest) => (-n, rest)
  | '+' :: rest => number 1 rest.length.succ rest
  | _ => number 1 4 s

/-- The digits of a fraction, in nanoseconds. Digits after the ninth are skipped. -/
def fraction (s : List Char) : Except TimeError (Int × List Char) := do
  let (n, rest) ← number 1 9 s
  return (n * Nat.pow 10 (9 - (s.length - rest.length)), rest.dropWhile Char.isDigit)

/-- A fraction of a fixed number of digits, in nanoseconds. -/
def fixedFraction (digits : Nat) (s : List Char) : Except TimeError (Int × List Char) := do
  let (n, rest) ← number digits digits s
  return (n * Nat.pow 10 (9 - digits), rest)

/-- Takes a character. -/
def expect (c : Char) : List Char → Except TimeError (List Char)
  | [] => .error .tooShort
  | d :: rest => if d = c then .ok rest else .error .invalid

/-- The text behind a word in any case of its letters, if it stands in front. -/
def dropWord? (word : List Char) (s : List Char) : Option (List Char) :=
  if (s.take word.length).map Char.toLower =
    word.map Char.toLower then some (s.drop word.length) else none

/-- The place in a list of the name that stands in front, by its first three letters. With `long`
the other letters are taken too when they are there. -/
def name (names : List String) (long : Bool) (s : List Char) : Except TimeError (Nat × List Char) :=
  if s.length < 3 then .error .tooShort
  else
    match names.findIdx? fun word => (dropWord? (word.toList.take 3) s).isSome with
    | some index =>
      let rest := s.drop 3
      let more := (names.getD index "").toList.drop 3
      .ok (index, if long then (dropWord? more rest).getD rest else rest)
    | none => .error .invalid

/-- The half of the day. -/
def halfOfDay (s : List Char) : Except TimeError (Nat × List Char) :=
  match dropWord? ['a', 'm'] s, dropWord? ['p', 'm'] s with
  | some rest, _ => .ok (0, rest)
  | _, some rest => .ok (1, rest)
  | none, none => .error (if s.length < 2 then .tooShort else .invalid)

/-- Which forms of an offset from universal time are read. -/
structure OffsetForm where
  zulu : Bool
  minutesOptional : Bool
  separator : List Char → Except TimeError (List Char)

/-- Colons and blanks. -/
def colonsAndBlanks (s : List Char) : Except TimeError (List Char) :=
  .ok (s.dropWhile fun c => c == ':' || isBlank c)

/-- The forms that templates read. -/
def OffsetForm.template : OffsetForm := ⟨false, false, colonsAndBlanks⟩

/-- The minutes of an offset, from the text behind the hours. -/
def offsetMinutes (form : OffsetForm) (s : List Char) : Except TimeError (Nat × List Char) :=
  match s with
  | a :: b :: rest =>
    if a.isDigit ∧ b.isDigit then
      let minutes := digitsValue [a, b]
      if minutes < 60 then .ok (minutes, rest) else .error .outOfRange
    else .error .invalid
  -- Two bytes are asked for, and a single character may have them.
  | [c] =>
    if 1 < c.utf8Size then .error .invalid else .error .tooShort
  | [] => if form.minutesOptional then .ok (0, []) else .error .tooShort

/-- An offset from universal time, in seconds to the east. A minus sign is as good as a hyphen. -/
def offset (form : OffsetForm) (s : List Char) : Except TimeError (Int × List Char) :=
  let signed (negative : Bool) (s : List Char) : Except TimeError (Int × List Char) :=
    if byteCount s < 2 then .error .tooShort
    else
      match s with
      | a :: b :: rest =>
        if a.isDigit ∧ b.isDigit then do
          let hours := digitsValue [a, b]
          let (minutes, rest) ← offsetMinutes form (← form.separator rest)
          let seconds : Int := hours * 3600 + minutes * 60
          return (if negative then -seconds else seconds, rest)
        else .error .invalid
      | _ => .error .invalid
  match s with
  | [] => .error .tooShort
  | c :: rest =>
    if form.zulu ∧ (c = 'Z' ∨ c = 'z') then .ok (0, rest)
    else if c = '+' then signed false rest
    else if c = '-' ∨ c = '−' then signed true rest
    else .error .invalid

/-- The number that is read for a part, by the width of the part. -/
def numberFor (part : NumberPart) (s : List Char) : Except TimeError (Int × List Char) :=
  match part with
  | .year | .isoYear => year s
  | .quarter | .weekdayFromZero | .weekdayFromOne => number 1 1 s
  | .dayOfYear => number 1 3 s
  | .nanosecond => number 1 9 s
  | .epochSeconds => number 1 s.length.succ s
  | _ => number 1 2 s

/-- Sets a part to a number. -/
def setNumber (parts : DateParts) (part : NumberPart) (n : Int) : Except TimeError DateParts := do
  match part with
  | .year => return { parts with year := ← DateParts.agreeYear parts.year n }
  | .century => return { parts with century := ← DateParts.agreeYear parts.century n }
  | .yearOfCentury =>
    return { parts with yearOfCentury := ← DateParts.agreeYearOfCentury parts.yearOfCentury n }
  | .isoYear => return { parts with isoYear := ← DateParts.agreeYear parts.isoYear n }
  | .isoYearOfCentury =>
    return { parts with isoYearOfCentury :=
      ← DateParts.agreeYearOfCentury parts.isoYearOfCentury n }
  | .quarter => return { parts with quarter := ← DateParts.agreeWithin 1 4 parts.quarter n }
  | .month => return { parts with month := ← DateParts.agreeWithin 1 12 parts.month n }
  | .day => return { parts with day := ← DateParts.agreeWithin 1 31 parts.day n }
  | .sundayWeek =>
    return { parts with sundayWeek := ← DateParts.agreeWithin 0 53 parts.sundayWeek n }
  | .mondayWeek =>
    return { parts with mondayWeek := ← DateParts.agreeWithin 0 53 parts.mondayWeek n }
  | .isoWeek => return { parts with isoWeek := ← DateParts.agreeWithin 1 53 parts.isoWeek n }
  | .weekdayFromZero =>
    if n ≤ 6 then
      return { parts with weekday := ← DateParts.agree parts.weekday ((n.toNat + 6) % 7) }
    else throw .outOfRange
  | .weekdayFromOne =>
    return { parts with weekday := ← DateParts.agreeWithin 0 6 parts.weekday (n - 1) }
  | .dayOfYear => return { parts with dayOfYear := ← DateParts.agreeWithin 1 366 parts.dayOfYear n }
  | .hour => parts.setHour n
  | .halfDayHour => parts.setDialHour n
  | .minute => return { parts with minute := ← DateParts.agreeWithin 0 59 parts.minute n }
  | .second => return { parts with second := ← DateParts.agreeWithin 0 60 parts.second n }
  | .nanosecond =>
    return { parts with nanosecond := ← DateParts.agreeWithin 0 999999999 parts.nanosecond n }
  | .epochSeconds => return { parts with epochSeconds := ← DateParts.agree parts.epochSeconds n }

/-- A number for a part, with blanks in front. -/
def readNumber (part : NumberPart) (s : List Char) (parts : DateParts) :
    Except TimeError (List Char × DateParts) := do
  let (n, rest) ← numberFor part (skipBlanks s)
  return (rest, ← setNumber parts part n)

/-- A fraction behind a point, if there is a point. -/
def readFraction (digits : List Char → Except TimeError (Int × List Char)) (s : List Char)
    (parts : DateParts) : Except TimeError (List Char × DateParts) :=
  match s with
  | '.' :: rest => do
    let (n, rest) ← digits rest
    return (rest, ← setNumber parts .nanosecond n)
  | _ => .ok (s, parts)

/-- Sets the offset. -/
def setOffset (parts : DateParts) (seconds : Int) : Except TimeError DateParts := do
  return { parts with offset := ← DateParts.agree parts.offset seconds }

/-- A date and a time of day with a letter or a blank in between and an offset behind; numbers may
be short, and blanks may stand around them. -/
def looseInstant (s : List Char) (parts : DateParts) :
    Except TimeError (List Char × DateParts) := do
  let (s, parts) ← readNumber .year s parts
  let (s, parts) ← readNumber .month (← expect '-' (skipBlanks s)) parts
  let (s, parts) ← readNumber .day (← expect '-' (skipBlanks s)) parts
  let s ← match s with
    | 'T' :: rest | 't' :: rest | ' ' :: rest => .ok rest
    | [] => .error .tooShort
    | _ => .error .invalid
  let (s, parts) ← readNumber .hour s parts
  let (s, parts) ← readNumber .minute (← expect ':' (skipBlanks s)) parts
  let (s, parts) ← readNumber .second (← expect ':' (skipBlanks s)) parts
  let (s, parts) ← readFraction fraction s parts
  let s := skipBlanks s
  let (seconds, s) ← match dropWord? ['u', 't', 'c'] s with
    | some rest => .ok (0, rest)
    | none => offset ⟨true, false, colonsAndBlanks⟩ s
  return (s, ← setOffset parts seconds)

/-- What an item of a template reads. -/
def item (s : List Char) (parts : DateParts) : TemplateItem →
    Except TimeError (List Char × DateParts)
  | .literal text =>
    if s.take text.length = text then .ok (s.drop text.length, parts)
    else .error (if byteCount s < byteCount text then .tooShort else .invalid)
  | .blanks _ => .ok (skipBlanks s, parts)
  | .number part _ => readNumber part s parts
  | .monthName long => do
    let (index, rest) ← name Template.monthNames long s
    return (rest, ← setNumber parts .month (index + 1))
  | .weekdayName long => do
    let (index, rest) ← name Template.weekdayNames long s
    return (rest, ← setNumber parts .weekdayFromOne (index + 1))
  | .halfOfDay _ => do
    let (half, rest) ← halfOfDay s
    return (rest, { parts with half := ← DateParts.agree parts.half half })
  | .fraction => readFraction fraction s parts
  | .fixedFraction digits true => readFraction (fixedFraction digits) s parts
  | .fixedFraction digits false => do
    let (n, rest) ← fixedFraction digits s
    return (rest, ← setNumber parts .nanosecond n)
  | .zoneName => .ok (s.dropWhile (!isBlank ·), parts)
  | .offset _ => do
    let (seconds, rest) ← offset .template (skipBlanks s)
    return (rest, ← setOffset parts seconds)
  | .looseOffset => do
    let (seconds, rest) ← offset ⟨true, true, colonsAndBlanks⟩ (skipBlanks s)
    return (rest, ← setOffset parts seconds)
  | .fullInstant => looseInstant s parts

/-- The parts that a text gives by a template. -/
def byTemplate : List TemplateItem → List Char → DateParts → Except TimeError DateParts
  | [], [], parts => .ok parts
  | [], _ :: _, _ => .error .tooLong
  | i :: items, s, parts => do
    let (rest, parts) ← item s parts i
    byTemplate items rest parts

/-- An internet date: all numbers have their full widths and nothing stands in between. -/
def strictInstant (s : List Char) : Except TimeError DateParts := do
  let field (width : Nat) (part : NumberPart) (s : List Char) (parts : DateParts) := do
    let (n, rest) ← number width width s
    return (rest, ← setNumber parts part n)
  let (s, parts) ← field 4 .year s {}
  let (s, parts) ← field 2 .month (← expect '-' s) parts
  let (s, parts) ← field 2 .day (← expect '-' s) parts
  let s ← match s with
    | 'T' :: rest | 't' :: rest | ' ' :: rest => .ok rest
    | [] => .error .tooShort
    | _ => .error .invalid
  let (s, parts) ← field 2 .hour s parts
  let (s, parts) ← field 2 .minute (← expect ':' s) parts
  let (s, parts) ← field 2 .second (← expect ':' s) parts
  let (s, parts) ← readFraction fraction s parts
  let (seconds, s) ← offset ⟨true, false, expect ':'⟩ s
  if seconds.natAbs ≥ secondsPerDay then throw .outOfRange
  if s.isEmpty then setOffset parts seconds else throw .tooLong

end Reading

namespace Timestamp

/-- The instant of a text by a template. A text that gives no time of day is at midnight. -/
def readItems? (items : List TemplateItem) (text : String) : Option Timestamp :=
  match Reading.byTemplate items text.toList {} with
  | .error _ => none
  | .ok parts =>
    match parts.localInstant 0 with
    | .ok t => some t
    -- The parts may still make a date.
    | .error _ => parts.date.toOption.bind fun date => ofDay? date.dayNumber 0 0

/-- The instant of a text by a template text. -/
def parseWith? (text template : String) : Option Timestamp :=
  (Template.parse? template).bind fun items => readItems? items text

/-- An internet date in its strict form. -/
def parseStrictly? (text : String) : Option Timestamp :=
  (Reading.strictInstant text.toList).toOption.bind fun parts => parts.instant.toOption

/-- A date and a time of day with the given items in between, in universal time. -/
def dateAndTime (between : TemplateItem) : List TemplateItem :=
  (Template.letterItems 'F').getD [] ++ between :: Template.clock ++ [.fraction]

/-- An instant of a text: an internet date, a date and a time in universal time, or a date.
Blanks at both ends do not count. -/
def parse? (text : String) : Option Timestamp :=
  let text := Text.trim text
  let naive (items : List TemplateItem) : Option Timestamp :=
    (Reading.byTemplate items text.toList {}).toOption.bind fun parts =>
      (parts.localInstant 0).toOption
  parseStrictly? text <|> naive (dateAndTime (.literal ['T'])) <|>
    naive (dateAndTime (.blanks [' '])) <|>
    ((Reading.byTemplate ((Template.letterItems 'F').getD []) text.toList {}).toOption.bind
      fun parts => parts.date.toOption.bind fun date => ofDay? date.dayNumber 0 0)

/-- An internet date in its loose form. -/
def parseLoosely (text : String) : Except TimeError Timestamp := do
  let (rest, parts) ← Reading.looseInstant text.toList {}
  if (Reading.skipBlanks rest).isEmpty then parts.instant else throw .tooLong

end Timestamp

end RecordFlow
