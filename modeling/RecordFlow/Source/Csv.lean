import RecordFlow.Number.Reading
import RecordFlow.Store.Error
import RecordFlow.Text.Utf8
import RecordFlow.Value.Basic

/-!
# Tables

A table is a text of rows with fields between delimiters. A line feed, a carriage return or both end
a row, and rows without anything are no rows. A field may stand in quotes, which a delimiter or an
end of line loses its meaning in and where a doubled quote is a quote. The first row names the
fields, and every other row has as many fields.

A cell that looks like a number, like `true` or like `false` is that, an empty one is null.

## Main definitions

* `Csv.rows` — the rows of a table, with their places
* `Csv.cell` — the value of a cell
* `Csv.records` — the records of a table
-/

namespace RecordFlow.Csv

/-- Where a scan stands in a row. -/
inductive ScanState where
  | rowStart
  | afterReturn
  | fieldStart
  | inField
  | inQuotes
  | afterQuote
  deriving DecidableEq

/-- A scan of a table: the fields of the row so far and the bytes of the field so far, each in
reverse order. -/
structure Scan where
  state : ScanState := .rowStart
  fields : List (List UInt8) := []
  field : List UInt8 := []

/-- The byte that ends a row, alone or behind a carriage return. -/
def lineFeed : UInt8 := 10

/-- The byte that ends a row, alone or in front of a line feed. -/
def carriageReturn : UInt8 := 13

/-- The byte around a field in quotes. -/
def quoteMark : UInt8 := 34

namespace Scan

/-- Adds a byte to the field. -/
def copy (scan : Scan) (state : ScanState) (byte : UInt8) : Scan :=
  { scan with state, field := byte :: scan.field }

/-- Ends the field. -/
def endField (scan : Scan) : Scan :=
  { state := .fieldStart, fields := scan.field.reverse :: scan.fields, field := [] }

/-- The fields of the row, which ends with the field. -/
def row (scan : Scan) : List (List UInt8) := scan.endField.fields.reverse

/-- A byte behind quotes or in a field without quotes. -/
def stepInField (delimiter : UInt8) (scan : Scan) (byte : UInt8) :
    Scan × Option (List (List UInt8)) :=
  if byte = delimiter then (scan.endField, none)
  else if byte = carriageReturn then ({ state := .afterReturn }, some scan.row)
  else if byte = lineFeed then ({}, some scan.row)
  else (scan.copy .inField byte, none)

/-- A byte at the start of a field. -/
def stepFieldStart (delimiter : UInt8) (scan : Scan) (byte : UInt8) :
    Scan × Option (List (List UInt8)) :=
  if byte = quoteMark then ({ scan with state := .inQuotes }, none)
    else stepInField delimiter scan byte

/-- A byte at the start of a row. -/
def stepRowStart (delimiter : UInt8) (scan : Scan) (byte : UInt8) :
    Scan × Option (List (List UInt8)) :=
  if byte = carriageReturn ∨ byte = lineFeed then ({ scan with state := .rowStart }, none)
  else stepFieldStart delimiter scan byte

/-- The scan behind a byte, and the row that ends with it. -/
def step (delimiter : UInt8) (scan : Scan) (byte : UInt8) : Scan × Option (List (List UInt8)) :=
  match scan.state with
  | .rowStart => stepRowStart delimiter scan byte
  -- A line feed here belongs to the end of the row before, as it does
  -- between rows without anything.
  | .afterReturn => stepRowStart delimiter scan byte
  | .fieldStart => stepFieldStart delimiter scan byte
  | .inField => stepInField delimiter scan byte
  | .inQuotes =>
    if byte = quoteMark then ({ scan with state := .afterQuote }, none)
    else (scan.copy .inQuotes byte, none)
  | .afterQuote =>
    -- A second quote is a quote, and anything else goes on behind the quotes.
    if byte = quoteMark then (scan.copy .inQuotes byte, none) else stepInField delimiter scan byte

/-- The row that ends with the table. -/
def last? (scan : Scan) : Option (List (List UInt8)) :=
  match scan.state with
  | .rowStart => none
  | .afterReturn => none
  | _ => some scan.row

end Scan

/-- A row with its place. The place is where the row before it ends. -/
structure Row where
  place : CsvPlace
  fields : List (List UInt8)

/-- The rows from a place on. `start` is the place of the row that is being scanned. -/
def rowsFrom (delimiter : UInt8) : List UInt8 → Scan → (start : CsvPlace) →
    (byte line : Nat) → List Row
  | [], scan, start, _, _ => (scan.last?.map (Row.mk start)).toList
  | b :: bytes, scan, start, byte, line =>
    let line := if b = lineFeed then line + 1 else line
    match scan.step delimiter b with
    | (scan, none) => rowsFrom delimiter bytes scan start (byte + 1) line
    | (scan, some fields) =>
      ⟨start, fields⟩ :: rowsFrom delimiter bytes scan ⟨start.record + 1, line, byte + 1⟩
        (byte + 1) line

/-- The mark that may stand in front of a text in bytes. -/
def byteOrderMark : List UInt8 := [0xef, 0xbb, 0xbf]

/-- The rows of a table. -/
def rows (delimiter : UInt8) (bytes : List UInt8) : List Row :=
  let start : CsvPlace := ⟨0, 1, 0⟩
  if byteOrderMark.isPrefixOf bytes then rowsFrom delimiter (bytes.drop 3) {} start 3 1
  else rowsFrom delimiter bytes {} start 0 1

/-- The texts of fields, or the number of the first field that is no text and how many of its bytes
are. -/
def texts : (index : Nat) → List (List UInt8) → Except (Nat × Nat) (List String)
  | _, [] => .ok []
  | index, field :: fields =>
    match Text.textOf ⟨field.toArray⟩ with
    | (chars, false) => (texts (index + 1) fields).map (String.ofList chars :: ·)
    | (chars, true) => .error (index, Text.byteCount chars)

/-- The texts of a row. -/
def Row.texts (row : Row) : Except CsvError (List String) :=
  (Csv.texts 0 row.fields).mapError fun (field, validUpTo) => .notText row.place field validUpTo

/-- The value of a cell. -/
def cell (text : String) : Value :=
  if text.isEmpty then .null
  else match readInt64? text, readFloat? text with
    | some i, _ => .int i
    | none, some f => if f.isFinite then .float f else .text text
    | none, none => if text = "true" then .bool true else if text =
      "false" then .bool false else .text text

/-- The record of a row that has as many fields as there are names. -/
def recordOf (names : List String) (row : Row) : Except CsvError Record := do
  if row.fields.length ≠ names.length then
    throw (.unequalLengths row.place row.fields.length names.length)
  let texts ← row.texts
  return Record.ofFields (names.zip (texts.map cell))

/-- The records of a table. -/
def records (delimiter : UInt8) (bytes : ByteArray) : Except CsvError (List Record) := do
  match rows delimiter bytes.data.toList with
  | [] => return []
  | header :: rest =>
    let names ← header.texts
    rest.mapM (recordOf names)

end RecordFlow.Csv
