import RecordFlow.Json.Printer
import RecordFlow.Json.Reader
import RecordFlow.Store.Error
import RecordFlow.Text.Utf8

/-!
# Record files

Records are kept as a JSON array of objects. The array may lie deeper in a document, where
the names of fields lead to it.

## Main definitions

* `JsonFile.text` — the text of a record file
* `JsonFile.records` — the records of a record file
-/

namespace RecordFlow.JsonFile

/-- The record of a document. -/
def recordOf (json : Json) : Except DataError Record :=
  match json.toValue with
  | .object fields => .ok fields
  | other => .error (.noObject other.display)

/-- The part of a document that names of fields lead to. -/
def part? : List String → Json → Option Json
  | [], json => some json
  | name :: names, json => (json.field? name).bind (part? names)

/-- The document of a file. -/
def document (bytes : ByteArray) : Except DataError Json :=
  match Text.textOf bytes with
  | (text, stray) => (Json.read text stray).mapError fun fault => .json (fault.message text true)

/-- The records of a document, in its part at a path. -/
def recordsAt (file : String) (path : Option String) (json : Json) :
    Except DataError (List Record) := do
  let part ← match path with
    | none => pure json
    | some path =>
      match part? (Text.splitAtChar '.' path) json with
      | some part => pure part
      | none => throw (.noPath path)
  match part.asArr? with
  | some items => items.mapM recordOf
  | none => throw (.noList file)

/-- The records of a file. -/
def records (file : String) (path : Option String) (bytes : ByteArray) :
    Except DataError (List Record) := do
  let json ← document bytes
  recordsAt file path json

/-- The text of a file of records, in the pretty layout or in the compact one. -/
def text (pretty : Bool) (records : List Record) : String :=
  let json := Json.ofRecords records
  if pretty then json.pretty else json.compact

end RecordFlow.JsonFile
