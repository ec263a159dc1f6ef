import RecordFlow.Expression.Basic

/-!
# Configurations of steps

A step makes one set of records out of others. There are twelve kinds of steps, each with a
configuration of its own, that names the sets it reads and the one set it makes.

## Main definitions

* `StepKind` — the kinds of steps
* `StepConfig` — the configuration of a step of any kind
* `StepConfig.sources`, `StepConfig.output` — the names of what is read and what is made
-/

namespace RecordFlow

/-- A kind of step. -/
inductive StepKind where
  | filter
  | map
  | aggregate
  | join
  | lookup
  | union
  | deduplicate
  | sort
  | limit
  | pivot
  | unpivot
  | flatten
  deriving DecidableEq

namespace StepKind

/-- The kinds by name. -/
def names : List (String × StepKind) :=
  [("filter", filter), ("map", map), ("aggregate", aggregate), ("join", join), ("lookup", lookup),
    ("union", union), ("deduplicate", deduplicate), ("sort", sort),
    ("limit", limit), ("pivot", pivot), ("unpivot", unpivot), ("flatten", flatten)]

/-- The name of a kind. -/
def name : StepKind → String
  | filter => "filter"
  | map => "map"
  | aggregate => "aggregate"
  | join => "join"
  | lookup => "lookup"
  | union => "union"
  | deduplicate => "deduplicate"
  | sort => "sort"
  | limit => "limit"
  | pivot => "pivot"
  | unpivot => "unpivot"
  | flatten => "flatten"

end StepKind

/-- Keeps the records that meet conditions. -/
structure FilterConfig where
  source : String
  output : String
  conditions : List Condition
  logic : Logic

/-- Computes fields. Every expression sees the record as it came in. -/
structure MapConfig where
  source : String
  output : String
  mappings : List (String × Expression)
  includeOriginal : Bool

/-- What is computed from the values of a field in a group. -/
inductive AggregateFunction where
  | sum
  | avg
  | count
  | min
  | max
  | first
  | last
  | collect
  | countDistinct
  deriving DecidableEq

/-- A computed column; `count` of the field `*` is the number of records. -/
structure Aggregation where
  field : String
  function : AggregateFunction
  column : String

/-- Groups records and computes columns. The conditions are on the computed rows. -/
structure AggregateConfig where
  source : String
  output : String
  groupBy : List String
  aggregations : List Aggregation
  having : List Condition

/-- Which records without a match are kept. -/
inductive JoinKind where
  | inner
  | left
  | right
  | full
  deriving DecidableEq

/-- Fields of the two sides that have to be equal. -/
structure JoinKey where
  left : String
  right : String

/-- The fields taken from either side. -/
structure JoinSelection where
  left : Option (List String) := none
  right : Option (List String) := none

/-- What is put in front of the names of the fields of either side. -/
structure JoinPrefixes where
  left : Option String := none
  right : Option String := none

/-- Joins two sets on equal fields. -/
structure JoinConfig where
  left : String
  right : String
  output : String
  on : List JoinKey
  kind : JoinKind
  select : JoinSelection
  prefixes : JoinPrefixes

/-- Attaches matching records of `reference` to the records of `source`. -/
structure LookupConfig where
  source : String
  reference : String
  localField : String
  foreignField : String
  target : String
  multiple : Bool
  output : String

/-- What a union keeps. -/
inductive UnionMode where
  | all
  | distinct
  deriving DecidableEq

/-- Puts several sets behind one another. -/
structure UnionConfig where
  sources : List String
  output : String
  mode : UnionMode
  distinctKeys : Option (List String)

/-- Which end of a list is taken. -/
inductive Keep where
  | first
  | last
  deriving DecidableEq

/-- The direction of a sorting. -/
inductive SortDirection where
  | ascending
  | descending
  deriving DecidableEq

/-- Where null and absent values are sorted to. -/
inductive NullsOrder where
  | first
  | last
  deriving DecidableEq

/-- A key of a sorting. -/
structure OrderBy where
  field : String
  direction : SortDirection
  nulls : NullsOrder

/-- Keeps one record for each key; without keys the whole record is the key. -/
structure DeduplicateConfig where
  source : String
  output : String
  keys : List String
  keep : Keep
  orderBy : List OrderBy

/-- Sorts. -/
structure SortConfig where
  source : String
  output : String
  orderBy : List OrderBy

/-- Leaves some records out and takes some of the others. -/
structure LimitConfig where
  source : String
  output : String
  limit : Nat
  offset : Nat

/-- Turns the values of a field into columns. -/
structure PivotConfig where
  source : String
  output : String
  groupBy : List String
  pivotField : String
  valueField : String
  aggregation : AggregateFunction

/-- Turns columns into rows. -/
structure UnpivotConfig where
  source : String
  output : String
  idFields : List String
  unpivotFields : List String
  nameField : String
  valueField : String

/-- Makes one record for each item of a list. -/
structure FlattenConfig where
  source : String
  output : String
  field : String
  target : Option String
  preserveEmpty : Bool

/-- The configuration of a step. -/
inductive StepConfig where
  | filter (config : FilterConfig)
  | map (config : MapConfig)
  | aggregate (config : AggregateConfig)
  | join (config : JoinConfig)
  | lookup (config : LookupConfig)
  | union (config : UnionConfig)
  | deduplicate (config : DeduplicateConfig)
  | sort (config : SortConfig)
  | limit (config : LimitConfig)
  | pivot (config : PivotConfig)
  | unpivot (config : UnpivotConfig)
  | flatten (config : FlattenConfig)

namespace StepConfig

/-- The kind of a step. -/
def kind : StepConfig → StepKind
  | filter _ => .filter
  | map _ => .map
  | aggregate _ => .aggregate
  | join _ => .join
  | lookup _ => .lookup
  | union _ => .union
  | deduplicate _ => .deduplicate
  | sort _ => .sort
  | limit _ => .limit
  | pivot _ => .pivot
  | unpivot _ => .unpivot
  | flatten _ => .flatten

/-- The names of the sets that a step reads, in the order in which it takes them. -/
def sources : StepConfig → List String
  | filter c => [c.source]
  | map c => [c.source]
  | aggregate c => [c.source]
  | join c => [c.left, c.right]
  | lookup c => [c.source, c.reference]
  | union c => c.sources
  | deduplicate c => [c.source]
  | sort c => [c.source]
  | limit c => [c.source]
  | pivot c => [c.source]
  | unpivot c => [c.source]
  | flatten c => [c.source]

/-- The name of the set that a step makes. -/
def output : StepConfig → String
  | filter c => c.output
  | map c => c.output
  | aggregate c => c.output
  | join c => c.output
  | lookup c => c.output
  | union c => c.output
  | deduplicate c => c.output
  | sort c => c.output
  | limit c => c.output
  | pivot c => c.output
  | unpivot c => c.output
  | flatten c => c.output

end StepConfig

end RecordFlow
