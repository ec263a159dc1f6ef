import RecordFlow.Condition.Basic
import RecordFlow.Document.Reader
import RecordFlow.Json.Basic

/-!
# Filters of a store

A filter selects records of a collection. It compares fields in the way of conditions.

## Main definitions

* `RecordFilter`, `RecordFilter.holds` — filters and the records that they select
* `RecordFilter.read`, `RecordFilter.toJson` — filters as documents
-/

namespace RecordFlow

/-- A comparison that a filter knows. -/
inductive FilterOp where
  | eq
  | ne
  | gt
  | gte
  | lt
  | lte
  | among
  | notAmong
  | contains
  | startsWith
  | endsWith
  deriving DecidableEq

namespace FilterOp

/-- The comparison of conditions that is meant. -/
def comparison : FilterOp → Comparison
  | eq => .eq
  | ne => .ne
  | gt => .gt
  | gte => .gte
  | lt => .lt
  | lte => .lte
  | among => .among
  | notAmong => .notAmong
  | contains => .contains
  | startsWith => .startsWith
  | endsWith => .endsWith

/-- The comparisons by name. -/
def names : List (String × FilterOp) :=
  [("eq", eq), ("ne", ne), ("gt", gt), ("gte", gte), ("lt", lt), ("lte", lte), ("in", among),
    ("nin", notAmong), ("contains", contains), ("startsWith", startsWith), ("endsWith", endsWith)]

end FilterOp

/-- A comparison of a field with a value. -/
structure FieldFilter where
  field : String
  op : FilterOp
  value : Value

namespace FieldFilter

/-- Whether a record is selected. -/
def holds (filter : FieldFilter) (record : Record) : Bool :=
  filter.op.comparison.test (record.getPath? filter.field) filter.value

/-- Reads a field filter. -/
def reader {δ : Type} [Document δ] : Reader δ FieldFilter :=
  readStruct "struct FieldFilter"
    (FieldFilter.mk <$> .required "field" Reader.text
      <*> .required "op" (Reader.choice FilterOp.names (FilterOp.names.map Prod.fst))
      <*> .required "value" Reader.value)

/-- The document of a field filter. -/
def toJson (filter : FieldFilter) : Json :=
  .obj [("field", .str filter.field), ("op", .str (nameIn FilterOp.names filter.op)),
    ("value", .ofValue filter.value)]

end FieldFilter

/-- A filter. -/
inductive RecordFilter where
  | all
  | field (filter : FieldFilter)
  | and (filters : List RecordFilter)
  | or (filters : List RecordFilter)

namespace RecordFilter

mutual

/-- Whether a record is selected. -/
def holds (record : Record) : RecordFilter → Bool
  | all => true
  | field filter => filter.holds record
  | and filters => holdsEach record filters
  | or filters => holdsSome record filters

/-- Whether a record is selected by each of several filters. -/
def holdsEach (record : Record) : List RecordFilter → Bool
  | [] => true
  | filter :: filters => filter.holds record && holdsEach record filters

/-- Whether a record is selected by one of several filters. -/
def holdsSome (record : Record) : List RecordFilter → Bool
  | [] => false
  | filter :: filters => filter.holds record || holdsSome record filters

end

mutual

/-- The document of a filter. -/
def toJson : RecordFilter → Json
  | all => .str "all"
  | field filter => .obj [("field", filter.toJson)]
  | and filters => .obj [("and", .arr (toJsons filters))]
  | or filters => .obj [("or", .arr (toJsons filters))]

/-- The documents of several filters. -/
def toJsons : List RecordFilter → List Json
  | [] => []
  | filter :: filters => filter.toJson :: toJsons filters

end

/-- The rejection of a name that no kind of filter has. -/
def unknownKind {α : Type} (name : String) : Except Rejection α :=
  .error ⟨.unknownVariant name ["all", "field", "and", "or"], none⟩

mutual

/-- The filter of a document. -/
def read : Json → Except Rejection RecordFilter
  | .str name =>
    if name = "all" then .ok all
    else if name = "field" ∨ name = "and" ∨ name = "or" then
      .error ⟨.invalidType .bareName "newtype variant", none⟩
    else unknownKind name
  | .obj [(name, content)] =>
    if name = "all" then (Reader.nothing content).map fun _ => all
    else if name = "field" then (FieldFilter.reader content).map field
    else if name = "and" then (readEach content).map and
    else if name = "or" then (readEach content).map or
    else unknownKind name
  | .obj _ => .error ⟨.invalidValue .map "map with a single key", none⟩
  | json => rejectType "string or map" json

/-- The filters of a list. -/
def readEach : Json → Except Rejection (List RecordFilter)
  | .arr items => readAll items
  | json => rejectType "a sequence" json

/-- The filters of several documents. -/
def readAll : List Json → Except Rejection (List RecordFilter)
  | [] => .ok []
  | item :: items => do
    let filter ← read item
    let filters ← readAll items
    return filter :: filters

end

end RecordFilter

end RecordFlow
