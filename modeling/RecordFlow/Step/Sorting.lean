import RecordFlow.Step.Config
import RecordFlow.Value.Order

/-!
# Sorting

Records are compared key by key. Null and absent values come first or last whatever the direction.

## Main definitions

* `OrderBy.compare`, `compareRecords` — the order of records by one key and by several
* `sortRecords` — records in that order; equal ones keep theirs
-/

namespace RecordFlow

/-- The order of two records by one key. -/
def OrderBy.compare (key : OrderBy) (a b : Record) : Ordering :=
  let present (r : Record) : Option Value := (r.getPath? key.field).filter (!·.isNull)
  match present a, present b with
  | none, none => .eq
  | none, some _ => if key.nulls = .first then .lt else .gt
  | some _, none => if key.nulls = .first then .gt else .lt
  | some x, some y => if key.direction = .ascending then x.order y else (x.order y).swap

/-- The order of two records by several keys, of which the later ones break ties. -/
def compareRecords (keys : List OrderBy) (a b : Record) : Ordering :=
  match keys with
  | [] => .eq
  | key :: keys => (key.compare a b).then (compareRecords keys a b)

/-- The records in order. -/
def sortRecords (keys : List OrderBy) (records : List Record) : List Record :=
  records.mergeSort fun a b => (compareRecords keys a b).isLE

end RecordFlow
