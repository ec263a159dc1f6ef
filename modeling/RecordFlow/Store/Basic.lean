import RecordFlow.Store.Error
import RecordFlow.Store.Filter

/-!
# Record stores

A store keeps collections of records by name. It is given by what can be done with it; each of its
operations may fail. Two of the collections are reserved for pipelines and their runs.

## Main definitions

* `RecordStore` — a store
* `StoreCall` — an operation on a collection, as it is watched from outside
* `RecordStore.guarded` — a store in which every operation asks for permission first
* `isReserved` — the names of the collections of pipelines and runs
-/

namespace RecordFlow

/-- A store of collections. `create` does nothing to a collection that exists, `createMany` creates
a collection that does not, and `clear` keeps the collection. -/
structure RecordStore (m : Type → Type) where
  has : String → ExceptT StorageError m Bool
  create : String → ExceptT StorageError m Unit
  find : String → RecordFilter → ExceptT StorageError m (List Record)
  createMany : String → List Record → ExceptT StorageError m Nat
  clear : String → ExceptT StorageError m Unit
  deleteWhere : String → RecordFilter → ExceptT StorageError m Nat
  drop : String → ExceptT StorageError m Unit
  list : ExceptT StorageError m (List String)

namespace RecordStore

variable {m n : Type → Type}

/-- All records of a collection. -/
def findAll (store : RecordStore m) (name : String) : ExceptT StorageError m (List Record) :=
  store.find name .all

/-- A store in the surroundings of another monad. -/
def lift (up : {α : Type} → m α → n α) (store : RecordStore m) : RecordStore n where
  has name := ExceptT.mk (up (store.has name).run)
  create name := ExceptT.mk (up (store.create name).run)
  find name filter := ExceptT.mk (up (store.find name filter).run)
  createMany name records := ExceptT.mk (up (store.createMany name records).run)
  clear name := ExceptT.mk (up (store.clear name).run)
  deleteWhere name filter := ExceptT.mk (up (store.deleteWhere name filter).run)
  drop name := ExceptT.mk (up (store.drop name).run)
  list := ExceptT.mk (up store.list.run)

end RecordStore

/-- An operation on a collection. -/
inductive StoreMethod where
  | has
  | create
  | find
  | createMany
  | clear
  | deleteWhere
  | drop
  deriving DecidableEq

/-- The name of an operation. -/
def StoreMethod.name : StoreMethod → String
  | has => "has"
  | create => "create"
  | find => "find"
  | createMany => "createMany"
  | clear => "clear"
  | deleteWhere => "deleteWhere"
  | drop => "drop"

/-- An operation with the name of the collection. -/
structure StoreCall where
  method : StoreMethod
  name : String
  deriving DecidableEq

/-- A store in which every operation on a collection asks for permission first and fails when it is
refused. -/
def RecordStore.guarded {m : Type → Type} [Monad m]
    (permit : StoreCall → ExceptT StorageError m Unit) (store : RecordStore m) : RecordStore m where
  has name := do
    permit ⟨.has, name⟩
    store.has name
  create name := do
    permit ⟨.create, name⟩
    store.create name
  find name filter := do
    permit ⟨.find, name⟩
    store.find name filter
  createMany name records := do
    permit ⟨.createMany, name⟩
    store.createMany name records
  clear name := do
    permit ⟨.clear, name⟩
    store.clear name
  deleteWhere name filter := do
    permit ⟨.deleteWhere, name⟩
    store.deleteWhere name filter
  drop name := do
    permit ⟨.drop, name⟩
    store.drop name
  list := store.list

/-! ### Reserved collections -/

/-- The collection of the pipelines. -/
def pipelinesCollection : String := "etl_pipelines"

/-- The collection of the runs. -/
def runsCollection : String := "etl_pipeline_runs"

/-- Whether a collection holds pipelines or runs. -/
def isReserved (name : String) : Bool := name == pipelinesCollection || name == runsCollection

end RecordFlow
