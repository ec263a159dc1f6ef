import RecordFlow.Files.Basic

/-!
# A file system in memory

A disk is a tree of directories, written down as what stands at each path. Paths are lists of names
from the root; the root itself is always there.

## Main definitions

* `Disk` — what stands where
* `Disk.follow` — the place that a path leads to
* `Disk.fileSystem` — a disk as a file system
-/

namespace RecordFlow

/-- What stands at a place of a disk. -/
inductive DiskEntry where
  | file (bytes : ByteArray)
  | directory

/-- The kind of what stands at a place. -/
def DiskEntry.kind : DiskEntry → FileKind
  | file _ => .file
  | directory => .directory

/-- A disk, with the directory that paths start from. -/
structure Disk where
  home : List String
  entries : List (List String × DiskEntry)

namespace Disk

/-- What stands at a place. -/
def entry? (disk : Disk) : List String → Option DiskEntry
  | [] => some .directory
  | place => disk.entries.lookup place

/-- Puts an entry at a place. -/
def put (disk : Disk) (place : List String) (entry : DiskEntry) : Disk :=
  { disk with entries := (place, entry) :: disk.entries.filter (·.1 != place) }

/-- Removes what stands at a place. -/
def erase (disk : Disk) (place : List String) : Disk :=
  { disk with entries := disk.entries.filter (·.1 != place) }

/-- Why a name cannot be looked up at a place, if it cannot. -/
def obstacle? (disk : Disk) (place : List String) : Option IoError :=
  match disk.entry? place with
  | some .directory => none
  | some (.file _) => some .notDirectory
  | none => some .missing

/-- The longest name that a disk takes, in bytes. -/
def longestName : Nat := 255

/-- Follows names from a place. All but the last have to lead to directories. -/
def followFrom (disk : Disk) (place : List String) : List String → Except IoError (List String)
  | [] => .ok place
  | name :: names =>
    match disk.obstacle? place with
    | some error => .error error
    | none =>
      if name = "" ∨ name = "." then followFrom disk place names
      else if name = ".." then followFrom disk place.dropLast names
      else if longestName < name.utf8ByteSize then .error .nameTooLong
      else followFrom disk (place ++ [name]) names

/-- The place that a path leads to. -/
def follow (disk : Disk) (path : String) : Except IoError (List String) :=
  if path.isEmpty then .error .missing
  else followFrom disk (if path.startsWith "/" then [] else disk.home) (Text.splitAtChar '/' path)

/-- What stands at a path. -/
def kind? (disk : Disk) (path : String) : Option FileKind :=
  match disk.follow path with
  | .ok place => (disk.entry? place).map DiskEntry.kind
  | .error _ => none

/-- The bytes of a file. -/
def read (disk : Disk) (path : String) : Except IoError ByteArray := do
  let place ← disk.follow path
  match disk.entry? place with
  | some (.file bytes) => return bytes
  | some .directory => throw .isDirectory
  | none => throw .missing

/-- The disk with a file written. -/
def write (disk : Disk) (path : String) (bytes : ByteArray) : Except IoError Disk := do
  let place ← disk.follow path
  match disk.entry? place with
  | some .directory => throw .isDirectory
  | _ => return disk.put place (.file bytes)

/-- The disk without a file. -/
def remove (disk : Disk) (path : String) : Except IoError Disk := do
  let place ← disk.follow path
  match disk.entry? place with
  | some (.file _) => return disk.erase place
  | some .directory => throw .isDirectory
  | none => throw .missing

/-- The names in a directory with what they stand for. -/
def namesIn (disk : Disk) (path : String) : Except IoError (List (String × FileKind)) := do
  let place ← disk.follow path
  match disk.entry? place with
  | some .directory =>
    return disk.entries.filterMap fun (other, entry) =>
      match other.getLast? with
      | some name => if other.dropLast = place then some (name, entry.kind) else none
      | none => none
  | some (.file _) => throw .notDirectory
  | none => throw .missing

/-- Makes the directories that names lead through from a place. -/
def makeFrom (disk : Disk) (place : List String) : List String → Except IoError Disk
  | [] => .ok disk
  | name :: names =>
    if name = "" ∨ name = "." then makeFrom disk place names
    else if name = ".." then makeFrom disk place.dropLast names
    else if longestName < name.utf8ByteSize then .error .nameTooLong
    else
      let inner := place ++ [name]
      match disk.entry? inner with
      | some .directory => makeFrom disk inner names
      -- A file in the way is one that exists if it stands at the end, and no directory before.
      | some (.file _) => .error (if names.isEmpty then .exists else .notDirectory)
      | none => makeFrom (disk.put inner .directory) inner names

/-- The disk with a directory and all that lead to it. -/
def makeDirectories (disk : Disk) (path : String) : Except IoError Disk :=
  makeFrom disk (if path.startsWith "/" then [] else disk.home)
    (if path.isEmpty then [] else Text.splitAtChar '/' path)

/-- A disk as a file system. -/
def fileSystem {m : Type → Type} [Monad m] [MonadStateOf Disk m] : FileSystem m where
  kind? path := return (← getThe Disk).kind? path
  read path := do
    let disk ← getThe Disk
    ExceptT.mk (pure (disk.read path))
  write path bytes := do
    let disk ← getThe Disk
    let changed ← ExceptT.mk (pure (disk.write path bytes))
    set changed
  remove path := do
    let disk ← getThe Disk
    let changed ← ExceptT.mk (pure (disk.remove path))
    set changed
  entries path := do
    let disk ← getThe Disk
    ExceptT.mk (pure (disk.namesIn path))
  makeDirectories path := do
    let disk ← getThe Disk
    let changed ← ExceptT.mk (pure (disk.makeDirectories path))
    set changed

end Disk

end RecordFlow
