import RecordFlow.Calendar.Timestamp
import RecordFlow.Text.Blank

/-!
# Date templates

A template says how an instant is written: text with specifiers such as `%Y` in between. The same
template is used for writing and for reading.

## Main definitions

* `NumberPart`, `Padding`, `TemplateItem` — what a template consists of
* `Template.parse?` — the items of a template text; `none` for a specifier that does not exist
* `Template.write?` — the text of an instant
-/

namespace RecordFlow

/-- A part of an instant that is written as a number. -/
inductive NumberPart where
  | year
  | century
  | yearOfCentury
  | isoYear
  | isoYearOfCentury
  | quarter
  | month
  | day
  | sundayWeek
  | mondayWeek
  | isoWeek
  | weekdayFromZero
  | weekdayFromOne
  | dayOfYear
  | hour
  | halfDayHour
  | minute
  | second
  | nanosecond
  | epochSeconds
  deriving DecidableEq

/-- What fills a number up to its width. -/
inductive Padding where
  | none
  | zero
  | space
  deriving DecidableEq

/-- How much of an offset from universal time is written. -/
inductive OffsetStyle where
  | plain
  | colon
  | seconds
  | hours
  deriving DecidableEq

/-- An item of a template. -/
inductive TemplateItem where
  | literal (text : List Char)
  | blanks (text : List Char)
  | number (part : NumberPart) (padding : Padding)
  | monthName (long : Bool)
  | weekdayName (long : Bool)
  | halfOfDay (upper : Bool)
  | fraction
  | fixedFraction (digits : Nat) (point : Bool)
  | zoneName
  | offset (style : OffsetStyle)
  | looseOffset
  | fullInstant
  deriving DecidableEq

namespace Template

/-- The names of the months. -/
def monthNames : List String :=
  ["January", "February", "March", "April", "May", "June", "July", "August", "September", "October",
    "November", "December"]

/-- The names of the days of the week. -/
def weekdayNames : List String :=
  ["Monday", "Tuesday", "Wednesday", "Thursday", "Friday", "Saturday", "Sunday"]

/-- Date, month first, with slashes. -/
def slashedDate : List TemplateItem :=
  [.number .month .zero, .literal ['/'], .number .day .zero, .literal ['/'],
    .number .yearOfCentury .zero]

/-- Time of day with colons. -/
def clock : List TemplateItem :=
  [.number .hour .zero, .literal [':'], .number .minute .zero,
    .literal [':'], .number .second .zero]

/-- The items of a specifier that is one letter. -/
def letterItems : Char → Option (List TemplateItem)
  | 'A' => some [.weekdayName true]
  | 'B' => some [.monthName true]
  | 'C' => some [.number .century .zero]
  | 'D' => some slashedDate
  | 'F' => some [.number .year .zero, .literal ['-'], .number .month .zero,
    .literal ['-'], .number .day .zero]
  | 'G' => some [.number .isoYear .zero]
  | 'H' => some [.number .hour .zero]
  | 'I' => some [.number .halfDayHour .zero]
  | 'M' => some [.number .minute .zero]
  | 'P' => some [.halfOfDay false]
  | 'R' => some [.number .hour .zero, .literal [':'], .number .minute .zero]
  | 'S' => some [.number .second .zero]
  | 'T' => some clock
  | 'U' => some [.number .sundayWeek .zero]
  | 'V' => some [.number .isoWeek .zero]
  | 'W' => some [.number .mondayWeek .zero]
  | 'X' => some clock
  | 'Y' => some [.number .year .zero]
  | 'Z' => some [.zoneName]
  | 'a' => some [.weekdayName false]
  | 'b' => some [.monthName false]
  | 'c' => some ([.weekdayName false, .blanks [' '], .monthName false,
      .blanks [' '], .number .day .space, .blanks [' ']] ++ clock ++
        [.blanks [' '], .number .year .zero])
  | 'd' => some [.number .day .zero]
  | 'e' => some [.number .day .space]
  | 'f' => some [.number .nanosecond .zero]
  | 'g' => some [.number .isoYearOfCentury .zero]
  | 'h' => some [.monthName false]
  | 'j' => some [.number .dayOfYear .zero]
  | 'k' => some [.number .hour .space]
  | 'l' => some [.number .halfDayHour .space]
  | 'm' => some [.number .month .zero]
  | 'n' => some [.blanks ['\n']]
  | 'p' => some [.halfOfDay true]
  | 'q' => some [.number .quarter .none]
  | 'r' => some ([.number .halfDayHour .zero, .literal [':'], .number .minute .zero, .literal [':'],
      .number .second .zero, .blanks [' '], .halfOfDay true])
  | 's' => some [.number .epochSeconds .none]
  | 't' => some [.blanks ['\t']]
  | 'u' => some [.number .weekdayFromOne .none]
  | 'v' => some [.number .day .space, .literal ['-'], .monthName false,
    .literal ['-'], .number .year .zero]
  | 'w' => some [.number .weekdayFromZero .none]
  | 'x' => some slashedDate
  | 'y' => some [.number .yearOfCentury .zero]
  | 'z' => some [.offset .plain]
  | '+' => some [.fullInstant]
  | '%' => some [.literal ['%']]
  | _ => none

/-- A number of digits that a fraction can be cut to. -/
def fractionDigits? : Char → Option Nat
  | '3' => some 3
  | '6' => some 6
  | '9' => some 9
  | _ => none

/-- The items of a specifier, without its percent sign, and the text behind it. -/
def specifier? : List Char → Option (List TemplateItem × List Char)
  | ':' :: ':' :: ':' :: 'z' :: rest => some ([.offset .hours], rest)
  | ':' :: ':' :: 'z' :: rest => some ([.offset .seconds], rest)
  | ':' :: 'z' :: rest => some ([.offset .colon], rest)
  | '.' :: 'f' :: rest => some ([.fraction], rest)
  | '.' :: n :: 'f' :: rest => (fractionDigits? n).map fun digits =>
    ([.fixedFraction digits true], rest)
  | c :: rest =>
    match letterItems c with
    | some items => some (items, rest)
    | none =>
      match fractionDigits? c, rest with
      | some digits, 'f' :: rest => some ([.fixedFraction digits false], rest)
      | _, _ => none
  | [] => none

/-- The padding that a sign in front of a specifier stands for. -/
def paddingOf? : Char → Option Padding
  | '-' => some .none
  | '0' => some .zero
  | '_' => some .space
  | _ => none

/-- The items of a specifier with its signs. A padding goes with a specifier for one number only,
and the number sign with `z` only. -/
def signedSpecifier? : List Char → Option (List TemplateItem × List Char)
  | '#' :: 'z' :: rest => some ([.looseOffset], rest)
  | '#' :: _ => none
  | c :: rest =>
    match paddingOf? c with
    | some padding =>
      match specifier? rest with
      | some ([.number part _], rest) => some ([.number part padding], rest)
      | _ => none
    | none => specifier? (c :: rest)
  | [] => none

/-- The items of a text. Every step takes at least one character, so that `fuel` of the
length of the text is enough. -/
def itemsOf? : (fuel : Nat) → List Char → Option (List TemplateItem)
  | _, [] => some []
  | 0, _ :: _ => none
  | fuel + 1, '%' :: rest =>
    (signedSpecifier? rest).bind fun (items, rest) => (itemsOf? fuel rest).map (items ++ ·)
  | fuel + 1, c :: rest =>
    let same (d : Char) : Bool :=
      if Text.isBlank c then Text.isBlank d else !Text.isBlank d && d != '%'
    let run := rest.takeWhile same
    let item := if Text.isBlank c then TemplateItem.blanks (c :: run) else .literal (c :: run)
    (itemsOf? fuel (rest.dropWhile same)).map (item :: ·)

/-- The items of a template. -/
def parse? (text : String) : Option (List TemplateItem) := itemsOf? text.length text.toList

/-- A number filled to a width. A sign is written for a negative number, and for others on demand;
zeros stand behind it and spaces in front of it. -/
def writeNumber (width : Nat) (padding : Padding) (plus : Bool) (n : Int) : String :=
  let sign := if n < 0 then "-" else if plus then "+" else ""
  let digits := toString n.natAbs
  let missing := width - (sign.length + digits.length)
  match padding with
  | .none => sign ++ digits
  | .zero => sign ++ String.ofList (List.replicate missing '0') ++ digits
  | .space => String.ofList (List.replicate missing ' ') ++ sign ++ digits

/-- A number of two digits, the first of which can be left out. The first digit of a number from 100
on is the character that many places after `0`. -/
def writePair (padding : Padding) (n : Nat) : String :=
  let ones := Char.ofNat (48 + n % 10)
  match n / 10, padding with
  | 0, .none => String.ofList [ones]
  | 0, .space => String.ofList [' ', ones]
  | tens, _ => String.ofList [Char.ofNat (48 + tens), ones]

/-- A year. One outside of the four-digit years has a sign. -/
def writeYear (padding : Padding) (year : Int) : String :=
  if 0 ≤ year ∧ year ≤ 9999 then writeNumber 4 padding false year
    else writeNumber 5 padding true year

/-- The hour on a dial of twelve hours. -/
def dialHour (hour : Nat) : Nat := if hour % 12 = 0 then 12 else hour % 12

/-- The number of a part. Centuries are counted modulo 256. -/
def writePart (t : Timestamp) (padding : Padding) : NumberPart → String
  | .year => writeYear padding t.date.year
  | .century => writePair padding (t.date.year / 100 % 256).toNat
  | .yearOfCentury => writePair padding (t.date.year % 100).toNat
  | .isoYear => writeYear padding t.date.isoWeek.1
  | .isoYearOfCentury => writePair padding (t.date.isoWeek.1 % 100).toNat
  | .quarter => toString t.date.quarter
  | .month => writePair padding t.date.month
  | .day => writePair padding t.date.day
  | .sundayWeek => writePair padding (t.date.weekFrom 6)
  | .mondayWeek => writePair padding (t.date.weekFrom 0)
  | .isoWeek => writePair padding t.date.isoWeek.2
  | .weekdayFromZero => toString ((t.date.weekday + 1) % 7)
  | .weekdayFromOne => toString (t.date.weekday + 1)
  | .dayOfYear => writeNumber 3 padding false t.date.dayOfYear
  | .hour => writePair padding t.hour
  | .halfDayHour => writePair padding (dialHour t.hour)
  | .minute => writePair padding t.minute
  | .second => writePair padding t.clockSecond
  | .nanosecond => writeNumber 9 padding false t.clockNano
  | .epochSeconds => writeNumber 9 padding false t.seconds

/-- A name of a list, in full or its first three letters. -/
def writeName (names : List String) (long : Bool) (index : Nat) : String :=
  let name := names.getD index ""
  if long then name else String.ofList (name.toList.take 3)

/-- The text of an item. An offset that may lack its minutes is only read. -/
def writeItem? (t : Timestamp) : TemplateItem → Option String
  | .literal text => some (String.ofList text)
  | .blanks text => some (String.ofList text)
  | .number part padding => some (writePart t padding part)
  | .monthName long => some (writeName monthNames long (t.date.month - 1))
  | .weekdayName long => some (writeName weekdayNames long t.date.weekday)
  | .halfOfDay upper =>
    some (match decide (t.hour < 12), upper with
      | true, true => "AM"
      | true, false => "am"
      | false, true => "PM"
      | false, false => "pm")
  | .fraction => some (Timestamp.fractionText t.clockNano)
  | .fixedFraction digits point =>
    some ((if point then "." else "") ++
      Timestamp.padded digits (t.clockNano / Nat.pow 10 (9 - digits)))
  | .zoneName => some "UTC"
  | .offset .plain => some "+0000"
  | .offset .colon => some "+00:00"
  | .offset .seconds => some "+00:00:00"
  | .offset .hours => some "+00"
  | .looseOffset => none
  | .fullInstant => some (t.clockText ++ Timestamp.fractionText t.clockNano ++ "+00:00")

/-- The text of an instant. -/
def write? (items : List TemplateItem) (t : Timestamp) : Option String :=
  (items.mapM (writeItem? t)).map String.join

end Template

end RecordFlow
