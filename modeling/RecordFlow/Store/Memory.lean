import RecordFlow.Store.Basic

/-!
# A store in memory

Collections by name, in the order in which they were created.

## Main definitions

* `Collections` — the collections of a store
* `RecordStore.memory` — the store
-/

namespace RecordFlow

/-- Collections with their names. No name occurs twice. -/
abbrev Collections := List (String × List Record)

namespace Collections

/-- The records of a collection. -/
def records? (collections : Collections) (name : String) : Option (List Record) :=
  collections.lookup name

/-- Sets the records of a collection: in its place if it exists, at the end otherwise. -/
def put : Collections → String → List Record → Collections
  | [], name, records => [(name, records)]
  | (other, kept) :: rest, name, records =>
    if other = name then (other, records) :: rest else (other, kept) :: put rest name records

/-- Removes a collection. -/
def remove (collections : Collections) (name : String) : Collections :=
  collections.filter (·.1 != name)

/-- The names of the collections in ascending order. -/
def names (collections : Collections) : List String :=
  (collections.map Prod.fst).mergeSort (fun a b => decide (a ≤ b))

end Collections

/-- The collections of the state as a store. -/
def RecordStore.memory {m : Type → Type} [Monad m] [MonadStateOf Collections m] :
    RecordStore m where
  has name := do
    let collections ← getThe Collections
    return (collections.records? name).isSome
  create name := do
    let collections ← getThe Collections
    match collections.records? name with
    | some _ => return ()
    | none => set (collections.put name [])
  find name filter := do
    let collections ← getThe Collections
    match collections.records? name with
    | some records => return records.filter filter.holds
    | none => throw (.notFound name)
  createMany name records := do
    let collections ← getThe Collections
    set (collections.put name ((collections.records? name).getD [] ++ records))
    return records.length
  clear name := do
    let collections ← getThe Collections
    match collections.records? name with
    | some _ => set (collections.put name [])
    | none => return ()
  deleteWhere name filter := do
    let collections ← getThe Collections
    match collections.records? name with
    | some records =>
      let kept := records.filter (!filter.holds ·)
      set (collections.put name kept)
      return records.length - kept.length
    | none => return 0
  drop name := do
    let collections ← getThe Collections
    match collections.records? name with
    | some _ => set (collections.remove name)
    | none => throw (.notFound name)
  list := do
    let collections ← getThe Collections
    return collections.names

end RecordFlow
