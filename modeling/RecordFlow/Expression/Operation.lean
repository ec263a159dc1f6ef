import RecordFlow.Calendar.Reading
import RecordFlow.Calendar.Unit
import RecordFlow.Json.Printer
import RecordFlow.Text.Case
import RecordFlow.Text.Split
import RecordFlow.Value.Path

/-!
# Operations on dates, lists and texts

Each operation looks at one field of a record. A field that is absent or
of another kind has no result.

## Main definitions

* `DateOp`, `DateOp.evaluate` — dates, as texts or as milliseconds since the epoch
* `ListOp`, `ListOp.evaluate` — lists
* `TextOp`, `TextOp.evaluate` — texts; places count characters
-/

namespace RecordFlow

/-- An operation on dates. -/
inductive DateOp where
  | now
  | format (field template : String)
  | add (field : String) (amount : Int) (unit : DateUnit)
  | diff (field other : String) (unit : DateUnit)
  | parse (field : String) (template : Option String)
  | startOf (field : String) (unit : DateUnit)
  | endOf (field : String) (unit : DateUnit)

namespace DateOp

/-- The instant that a value stands for. -/
def instant? : Value → Option Timestamp
  | .text s => Timestamp.parse? s
  | .int millis => Timestamp.ofMillis? millis.toInt
  | _ => none

/-- The instant that a field stands for. -/
def read? (record : Record) (field : String) : Option Timestamp :=
  (record.getPath? field).bind instant?

/-- The value of an instant. -/
def isoValue (t : Timestamp) : Value := .text t.toIso

/-- The result of an operation for a record at the time `now`. The second date of a difference may
be given itself instead of its field. -/
def evaluate (now : Timestamp) (record : Record) : DateOp → Option Value
  | .now => some (isoValue now)
  | format field template => (read? record field).bind fun t =>
    (Template.parse? template).bind fun items => (Template.write? items t).map Value.text
  | add field amount unit => (read? record field).bind fun t => (unit.add? t amount).map isoValue
  | diff field other unit => (read? record field).bind fun t =>
    ((read? record other).orElse fun _ => Timestamp.parse? other).map fun start =>
      .int (Int64.ofInt (unit.difference t start))
  | parse field template => (record.getPath? field).bind fun value =>
    (match value, template with
      | .text s, some template => Timestamp.parseWith? s template
      | _, _ => instant? value).map isoValue
  | startOf field unit => (read? record field).bind fun t => (unit.startOf? t).map isoValue
  | endOf field unit => (read? record field).bind fun t => (unit.endOf? t).map isoValue

end DateOp

/-- The place that an index stands for in a list: a negative one counts from the end, and what
is beyond an end is that end. -/
def clampIndex (length : Nat) (i : Int) : Nat :=
  if i < 0 then length - i.natAbs else min i.toNat length

/-- The bounds of a slice, the first of which is not above the second. -/
def sliceBounds (start : Int) (stop : Option Int) (length : Nat) : Nat × Nat :=
  let low := clampIndex length start
  let high := (stop.map (clampIndex length)).getD length
  (low, max low high)

/-- The items of a slice. -/
def sliceOf {α : Type} (start : Int) (stop : Option Int) (items : List α) : List α :=
  let (low, high) := sliceBounds start stop items.length
  (items.take high).drop low

/-- The item at an index; a negative one counts from the end. -/
def itemAt? {α : Type} (items : List α) (i : Int) : Option α :=
  if 0 ≤ i then items[i.toNat]?
  else if i.natAbs ≤ items.length then items[items.length - i.natAbs]?
  else none

/-- An operation on a list. -/
inductive ListOp where
  | length
  | first
  | last
  | join (separator : String)
  | includes (value : Value)
  | at (index : Int)
  | slice (start : Int) (stop : Option Int)

namespace ListOp

/-- The result of an operation on the items of a list. -/
def apply (items : List Value) : ListOp → Option Value
  | length => some (.int (Int64.ofNat items.length))
  | first => items.head?
  | last => items.getLast?
  | join separator => some (.text (Text.joinStrings separator (items.map Value.toText)))
  | includes value => some (.bool (items.any (· == value)))
  | .at index => itemAt? items index
  | slice start stop => some (.list (sliceOf start stop items))

/-- The result for what is not a list: it includes nothing. -/
def applyToOther : ListOp → Option Value
  | includes _ => some (.bool false)
  | _ => none

/-- The result of an operation on the list at a path. -/
def evaluate (op : ListOp) (path : String) (record : Record) : Option Value :=
  match (record.getPath? path).bind Value.asList? with
  | some items => op.apply items
  | none => op.applyToOther

end ListOp

/-- An operation on a text. -/
inductive TextOp where
  | upper
  | lower
  | trim
  | split (separator : String)
  | substring (start : Int) (stop : Option Int)
  | replace (search replacement : String) (all : Bool)
  | length
  | padStart (width : Nat) (pad : String)
  | padEnd (width : Nat) (pad : String)

namespace TextOp

/-- The greatest length that a text is padded to. -/
def maxPadLength : Nat := 65536

/-- The first `n` characters of a text that is repeated without end. -/
def cycle (pad : List Char) (n : Nat) : List Char :=
  (List.replicate (n / pad.length + 1) pad).flatten.take n

/-- What is lacking to a width, made of a pad; an empty pad gives nothing. -/
def padding? (text : String) (width : Nat) (pad : String) : Option (List Char) :=
  if maxPadLength < width then none
  else if pad.isEmpty then some []
  else some (cycle pad.toList (width - text.length))

/-- The parts of a text. An empty separator parts all characters. -/
def parts (text separator : String) : List (List Char) :=
  if separator.isEmpty then text.toList.map fun c => [c]
  else Text.splitOn separator.toList text.toList

/-- The result of an operation on a text. -/
def apply (text : String) : TextOp → Option Value
  | upper => some (.text (Text.toUpperText text))
  | lower => some (.text (Text.toLowerText text))
  | trim => some (.text (Text.trim text))
  | split separator =>
    some (.list ((parts text separator).map fun part => .text (String.ofList part)))
  | substring start stop => some (.text (String.ofList (sliceOf start stop text.toList)))
  | replace search replacement all =>
    let replace := if all then Text.replaceAll else Text.replaceFirst
    some (.text (String.ofList (replace search.toList replacement.toList text.toList)))
  | length => some (.int (Int64.ofNat text.length))
  | padStart width pad => (padding? text width pad).map fun fill =>
    .text (String.ofList (fill ++ text.toList))
  | padEnd width pad => (padding? text width pad).map fun fill =>
    .text (String.ofList (text.toList ++ fill))

/-- The result of an operation on the text at a path. -/
def evaluate (op : TextOp) (path : String) (record : Record) : Option Value :=
  ((record.getPath? path).bind Value.asText?).bind op.apply

end TextOp

end RecordFlow
