import RecordFlow.Value.Path

/-!
# Groups of equal keys

Items are gathered by a key, in the order in which the keys come up first.

## Main definitions

* `gather` — the keys with their items
* `keepFirst` — the first item of each key
* `groupKey` — the key of a record under some fields
-/

namespace RecordFlow

section

variable {α κ : Type} [BEq κ]

/-- Puts an item into the group of its key, or into a new group at the end. -/
def addToGroup (key : κ) (item : α) : List (κ × List α) → List (κ × List α)
  | [] => [(key, [item])]
  | (k, items) :: groups =>
    if k == key then (k, items ++ [item]) :: groups else (k, items) :: addToGroup key item groups

/-- The keys of items, each with its items in order. -/
def gather (key : α → κ) (items : List α) : List (κ × List α) :=
  items.foldl (fun groups item => addToGroup (key item) item groups) []

/-- The items of a key. -/
def groupOf? (key : κ) (groups : List (κ × List α)) : Option (List α) :=
  (groups.find? fun group => group.1 == key).map Prod.snd

/-- The items whose key is none of `seen` and of no earlier item. -/
def keepFirst (key : α → κ) : List α → (seen : List κ) → List α
  | [], _ => []
  | item :: items, seen =>
    if seen.any (· == key item) then keepFirst key items seen
    else item :: keepFirst key items (key item :: seen)

end

/-- The values of some fields of a record; an absent field counts as null. -/
def groupKey (fields : List String) (record : Record) : List Value :=
  fields.map fun field => (record.getPath? field).getD .null

/-- The values of some fields of a record, if all of them are there and not null. -/
def fullKey? (fields : List String) (record : Record) : Option (List Value) :=
  fields.mapM fun field => (record.getPath? field).filter (!·.isNull)

end RecordFlow
