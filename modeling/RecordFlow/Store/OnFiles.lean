import RecordFlow.Source.Reading
import RecordFlow.Store.Basic

/-!
# A store in a directory

Every collection is a record file in the pretty layout, named by the collection.

## Main definitions

* `isFileName` — the names that such a store takes
* `RecordStore.onFiles` — the store of a directory
* `openDirectory` — the store with its directory made
-/

namespace RecordFlow

/-- Whether a collection can have a name: it must not be empty or lead to another directory. -/
def isFileName (name : String) : Bool :=
  name != "" && name != "." && name != ".." &&
    name.toList.all fun c => c != '/' && c != '\\' && c.toNat != 0

section

variable {m : Type → Type} [Monad m]

/-- The path of a collection. -/
def collectionPath (directory name : String) : Except StorageError String :=
  if isFileName name then .ok (joinPath directory (name ++ ".json")) else .error (.invalidName name)

/-- The path of a collection, for an operation. -/
def pathOf (directory name : String) : ExceptT StorageError m String :=
  ExceptT.mk (pure (collectionPath directory name))

/-- The path of a collection, and whether it is there. -/
def locate (files : FileSystem m) (directory name : String) :
    ExceptT StorageError m (String × Bool) := do
  let path ← pathOf directory name
  let kind? ← files.kind? path
  return (path, kind?.isSome)

/-- The records of a collection, if it is there. -/
def load? (files : FileSystem m) (directory name : String) :
    ExceptT StorageError m (Option (List Record)) := do
  let (path, found) ← locate files directory name
  if found then
    let records ← (readJsonRecords files path none).adapt StorageError.data
    return some records
  else return none

/-- Replaces the records of a collection. -/
def save (files : FileSystem m) (directory name : String) (records : List Record) :
    ExceptT StorageError m Unit := do
  let path ← pathOf directory name
  (writeJsonRecords files path true records).adapt StorageError.data

/-- The collection that a file holds. -/
def collectionOfFile? : String × FileKind → Option String
  | (file, .file) =>
    match splitExtension? file with
    | some (name, "json") => some name
    | _ => none
  | (_, .directory) => none

/-- The record files of a directory as a store. -/
def RecordStore.onFiles (files : FileSystem m) (directory : String) : RecordStore m where
  has name := do
    let (_, found) ← locate files directory name
    return found
  create name := do
    let (_, found) ← locate files directory name
    if found then return () else save files directory name []
  find name filter := do
    match ← load? files directory name with
    | some records => return records.filter filter.holds
    | none => throw (.notFound name)
  createMany name records := do
    let existing ← load? files directory name
    save files directory name (existing.getD [] ++ records)
    return records.length
  clear name := do
    let (_, found) ← locate files directory name
    if found then save files directory name [] else return ()
  deleteWhere name filter := do
    match ← load? files directory name with
    | some records =>
      let kept := records.filter (!filter.holds ·)
      let removed := records.length - kept.length
      -- A file that loses nothing is not written again.
      if removed = 0 then return 0
      else
        save files directory name kept
        return removed
    | none => return 0
  drop name := do
    let (path, found) ← locate files directory name
    if found then (files.remove path).adapt StorageError.io else throw (.notFound name)
  list := do
    let entries ← (files.entries directory).adapt StorageError.io
    return (entries.filterMap collectionOfFile?).mergeSort fun a b => decide (a ≤ b)

/-- The store of a directory, which is made if it is not there. -/
def openDirectory (files : FileSystem m) (directory : String) :
    ExceptT StorageError m (RecordStore m) := do
  match ← files.kind? directory with
  | some _ => return RecordStore.onFiles files directory
  | none =>
    (files.makeDirectories directory).adapt StorageError.io
    return RecordStore.onFiles files directory

end

end RecordFlow
