import RecordFlow.Step.Config
import RecordFlow.Step.Grouping
import RecordFlow.Step.Sorting

/-!
# Steps on single records and on whole sets

Computing fields, taking lists apart, turning columns into rows, and removing repetitions.

## Main definitions

* `MapConfig.rows`, `FlattenConfig.rows`, `UnpivotConfig.rows` — steps on single records
* `UnionConfig.rows`, `DeduplicateConfig.rows` — steps that compare records
-/

namespace RecordFlow

namespace MapConfig

/-- The record with the computed fields. An expression without a value leaves its target absent. -/
def row (config : MapConfig) (now : Timestamp) (record : Record) : Record :=
  config.mappings.foldl
    (fun row (target, e) =>
      match e.evaluate now record with
      | some value => row.setPath target value
      | none => (row.removePath target).2)
    (if config.includeOriginal then record else [])

/-- The records with the computed fields. -/
def rows (config : MapConfig) (now : Timestamp) (records : List Record) : List Record :=
  records.map (config.row now)

end MapConfig

namespace FlattenConfig

/-- The field that an item is put into. -/
def into (config : FlattenConfig) : String := config.target.getD config.field

/-- The records of the items of a record. What is not a list has no items. -/
def rowsOf (config : FlattenConfig) (record : Record) : List Record :=
  match ((record.getPath? config.field).bind Value.asList?).getD [] with
  | [] => if config.preserveEmpty then [(record.removePath config.into).2] else []
  | items => items.map (record.setPath config.into)

/-- The records of all items. -/
def rows (config : FlattenConfig) (records : List Record) : List Record :=
  records.flatMap config.rowsOf

end FlattenConfig

namespace UnpivotConfig

/-- The row of a column of a record. -/
def row (config : UnpivotConfig) (record : Record) (field : String) (value : Value) : Record :=
  let ids : Record := config.idFields.foldl
    (fun (ids : Record) id => ((record.getPath? id).map (ids.insert id)).getD ids) []
  (ids.insert config.nameField (.text field)).insert config.valueField value

/-- The rows of all columns that are there. -/
def rows (config : UnpivotConfig) (records : List Record) : List Record :=
  records.flatMap fun record =>
    config.unpivotFields.filterMap fun field =>
      (record.getPath? field).map (config.row record field)

end UnpivotConfig

/-- What makes a record distinct: the values of some fields, or the whole
record if no fields are given. -/
def identity (keys : List String) (record : Record) : Value :=
  match keys with
  | [] => .object record
  | keys => .list (groupKey keys record)

namespace UnionConfig

/-- The records of all sets, or the first one of each identity. -/
def rows (config : UnionConfig) (sets : List (List Record)) : List Record :=
  match config.mode with
  | .all => sets.flatten
  | .distinct => keepFirst (identity (config.distinctKeys.getD [])) sets.flatten []

end UnionConfig

namespace DeduplicateConfig

/-- The record of a group that is kept. -/
def chosen? (config : DeduplicateConfig) (members : List Record) : Option Record :=
  let sorted := if config.orderBy.isEmpty then members else sortRecords config.orderBy members
  match config.keep with
  | .first => sorted.head?
  | .last => sorted.getLast?

/-- One record for each identity. -/
def rows (config : DeduplicateConfig) (records : List Record) : List Record :=
  (gather (identity config.keys) records).filterMap fun (_, members) => config.chosen? members

end DeduplicateConfig

end RecordFlow
