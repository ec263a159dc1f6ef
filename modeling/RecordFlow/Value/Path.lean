import RecordFlow.Value.Basic
import RecordFlow.Number.Reading
import RecordFlow.Text.Split

/-!
# Dotted paths

A path such as `user.address.city` leads through objects by name and through lists by position. A
field whose name is the whole path comes first, so that flat names with dots stay within reach.

## Main definitions

* `pathSegments` — the segments of a path
* `Record.getPath?` — the value at a path
* `Record.setPath` — sets the value at a path, with objects on the way where there are none
* `Record.removePath` — removes the value at a path
-/

namespace RecordFlow

/-- The segments of a path: the parts between its dots. -/
def pathSegments (path : String) : List String := Text.splitAtChar '.' path

namespace Value

/-- One segment down: a field of an object, or an item of a list by position. -/
def child? (value : Value) (segment : String) : Option Value :=
  match value with
  | .object fields => Record.get? fields segment
  | .list items => (readSize? segment).bind fun i => items[i]?
  | _ => none

/-- The value that the segments lead to. -/
def descend? (value : Value) : List String → Option Value
  | [] => some value
  | segment :: rest => (value.child? segment).bind (·.descend? rest)

/-- The fields of an object; a value of another kind counts as an object without fields. -/
def fieldsOrEmpty : Value → Record
  | .object fields => fields
  | _ => []

end Value

namespace Record

/-- The value that the segments lead to, starting from the fields of the record. -/
def descend? (record : Record) : List String → Option Value
  | [] => none
  | segment :: rest => (record.get? segment).bind (·.descend? rest)

/-- The value at a path. The empty path leads nowhere. -/
def getPath? (record : Record) (path : String) : Option Value :=
  if path.isEmpty then none
  else (record.get? path).or (record.descend? (pathSegments path))

/-- Sets the value at the end of the segments. A segment on the way that holds no object gets an
empty one. -/
def setSegments (record : Record) : List String → Value → Record
  | [], _ => record
  | [last], value => record.insert last value
  | segment :: rest, value =>
    let inner := ((record.get? segment).map Value.fieldsOrEmpty).getD []
    record.insert segment (.object (setSegments inner rest value))

/-- Sets the value at a path. -/
def setPath (record : Record) (path : String) (value : Value) : Record :=
  record.setSegments (pathSegments path) value

/-- Removes the value at the end of the segments, which lead through objects only, and returns it
with what is left. -/
def removeSegments? (record : Record) : List String → Option (Value × Record)
  | [] => none
  | [last] => (record.get? last).map fun value => (value, record.erase last)
  | segment :: rest =>
    match record.get? segment with
    | some (.object fields) =>
      (removeSegments? fields rest).map fun (value, left) =>
        (value, record.insert segment (.object left))
    | _ => none

/-- Removes the value at a path, a field named by the whole path first. Returns the value, if there
was one, with what is left. -/
def removePath (record : Record) (path : String) : Option Value × Record :=
  match record.get? path with
  | some value => (some value, record.erase path)
  | none =>
    match record.removeSegments? (pathSegments path) with
    | some (value, left) => (some value, left)
    -- Nothing is there, and nothing changes.
    | none => (none, record)

end Record

end RecordFlow
