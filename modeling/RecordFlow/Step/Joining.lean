import RecordFlow.Step.Config
import RecordFlow.Step.Grouping

/-!
# Joins and lookups

Records of two sets are brought together where values are equal. A value that is null or absent is
equal to nothing. The records of the second set are gathered by their keys once.

## Main definitions

* `JoinConfig.rows` — the rows of a join
* `LookupConfig.rows` — the records with what was found for them
-/

namespace RecordFlow

namespace JoinConfig

/-- The fields of a record that are taken; `*` or no selection takes all. -/
def project (selection : Option (List String)) (record : Record) : Record :=
  match selection with
  | some fields =>
    if fields.contains "*" then record
    else
      fields.foldl (fun row field => ((record.getPath? field).map (row.insert field)).getD row) []
  | none => record

/-- Whether a field of one set has the name of a field of the other. -/
def collides (left right : List Record) : Bool :=
  right.any fun r => r.names.any fun name => left.any fun l => l.names.contains name

/-- What is put in front of the names of either side. A single side is renamed only where names
of both sides are the same. -/
def effectivePrefixes (config : JoinConfig) (left right : List Record) :
    Option String × Option String :=
  match config.prefixes.left, config.prefixes.right with
  | some l, some r => (some l, some r)
  | none, none => (none, none)
  -- One of the two sides keeps its names.
  | l, r => if collides left right then (l, r) else (none, none)

/-- Adds the fields of a record under their new names. -/
def addFields (front : Option String) (row fields : Record) : Record :=
  fields.foldl (fun row (name, value) => row.insert (front.getD "" ++ name) value) row

/-- A row of the fields of both sides, one of which may be lacking. -/
def merge (prefixes : Option String × Option String) (left right : Option Record) : Record :=
  addFields prefixes.2 (addFields prefixes.1 [] (left.getD [])) (right.getD [])

/-- The places of the records of the right side by their keys. -/
def index (config : JoinConfig) (right : List Record) : List (List Value × List Nat) :=
  let keyed := right.zipIdx.filterMap fun (record, place) =>
    (fullKey? (config.on.map JoinKey.right) record).map fun key => (key, place)
  (gather Prod.fst keyed).map fun (key, members) => (key, members.map Prod.snd)

/-- The places on the right side that match a record of the left side. -/
def matchesOf (config : JoinConfig) (index : List (List Value × List Nat))
    (record : Record) : List Nat :=
  match fullKey? (config.on.map JoinKey.left) record with
  | some key => (groupOf? key index).getD []
  | none => []

/-- Whether records of the left side without a match are kept. -/
def keepsLeft (config : JoinConfig) : Bool := config.kind = .left || config.kind = .full

/-- Whether records of the right side without a match are kept. -/
def keepsRight (config : JoinConfig) : Bool := config.kind = .right || config.kind = .full

/-- The rows of a join. Keys are taken from the records before the selection of fields. -/
def rows (config : JoinConfig) (leftRecords rightRecords : List Record) : List Record :=
  let left := leftRecords.map (project config.select.left)
  let right := rightRecords.map (project config.select.right)
  let merged := merge (config.effectivePrefixes left right)
  let index := config.index rightRecords
  let found := leftRecords.map (config.matchesOf index)
  let leftRows := (left.zip found).flatMap fun (l, places) =>
    match places with
    | [] => if config.keepsLeft then [merged (some l) none] else []
    | places => places.map fun place => merged (some l) right[place]?
  let rightRows :=
    if config.keepsRight then
      let used := found.flatten
      right.zipIdx.filterMap fun (r, place) =>
        if used.contains place then none else some (merged none (some r))
    else []
  leftRows ++ rightRows

end JoinConfig

namespace LookupConfig

/-- A value of a field that is there and not null. -/
def keyOf? (field : String) (record : Record) : Option Value :=
  (record.getPath? field).filter (!·.isNull)

/-- The records of the reference set by their keys. -/
def index (config : LookupConfig) (reference : List Record) : List (Value × List Record) :=
  let keyed := reference.filterMap fun record =>
    (keyOf? config.foreignField record).map fun key => (key, record)
  (gather Prod.fst keyed).map fun (key, members) => (key, members.map Prod.snd)

/-- What is attached for the records found: all of them, or the first one or null. -/
def attached (config : LookupConfig) (found : List Record) : Value :=
  if config.multiple then .list (found.map Value.object)
  else (found.head?.map Value.object).getD .null

/-- The records of the source with what was found for them. -/
def rows (config : LookupConfig) (source reference : List Record) : List Record :=
  let index := config.index reference
  source.map fun record =>
    let found := ((keyOf? config.localField record).bind fun key => groupOf? key index).getD []
    record.setPath config.target (config.attached found)

end LookupConfig

end RecordFlow
