import RecordFlow.Expression.Document
import RecordFlow.Step.Config

/-!
# Configurations as documents

Each configuration is an object. What is left out has a default, and what is written is complete,
apart from the parts that have no value.

## Main definitions

* `StepConfig.read` — the configuration of a kind of step in a document
* `StepConfig.toJson` — the document of a configuration
-/

namespace RecordFlow

namespace AggregateFunction

/-- The functions by name. -/
def names : List (String × AggregateFunction) :=
  [("sum", sum), ("avg", avg), ("count", count), ("min", min), ("max", max), ("first", first),
    ("last", last), ("collect", collect), ("countDistinct", countDistinct)]

end AggregateFunction

namespace JoinKind

/-- The kinds of joins by name. -/
def names : List (String × JoinKind) :=
  [("inner", inner), ("left", left), ("right", right), ("full", full)]

end JoinKind

namespace UnionMode

/-- The modes by name. -/
def names : List (String × UnionMode) := [("all", all), ("distinct", distinct)]

end UnionMode

namespace Keep

/-- The ends by name. -/
def names : List (String × Keep) := [("first", first), ("last", last)]

end Keep

namespace SortDirection

/-- The directions by name; the first name is the one that is written. -/
def names : List (String × SortDirection) :=
  [("asc", ascending), ("ascending", ascending), ("desc", descending), ("descending", descending)]

end SortDirection

namespace NullsOrder

/-- The places by name. -/
def names : List (String × NullsOrder) := [("first", first), ("last", last)]

end NullsOrder

/-- A text. -/
def textField (name : String) : FieldReader Json String := .required name Reader.text

/-- A list of texts. -/
def textsReader : Reader Json (List String) := Reader.listOf Reader.text

/-- The name of a variant of a table. -/
def variantReader {α : Type} (names : List (String × α)) : Reader Json α :=
  Reader.choice names (names.map Prod.fst)

namespace Aggregation

/-- Reads a computed column. -/
def reader : Reader Json Aggregation :=
  readStruct "struct Aggregation"
    (Aggregation.mk <$> textField "field"
      <*> .required "function" (variantReader AggregateFunction.names) <*> textField "as")

/-- The document of a computed column. -/
def toJson (a : Aggregation) : Json :=
  .obj [("field", .str a.field), ("function", .str (nameIn AggregateFunction.names a.function)),
    ("as", .str a.column)]

end Aggregation

namespace JoinKey

/-- Reads a pair of fields. -/
def reader : Reader Json JoinKey :=
  readStruct "struct JoinKey" (JoinKey.mk <$> textField "left" <*> textField "right")

/-- The document of a pair of fields. -/
def toJson (key : JoinKey) : Json := .obj [("left", .str key.left), ("right", .str key.right)]

end JoinKey

namespace JoinSelection

/-- Reads the fields taken. -/
def reader : Reader Json JoinSelection :=
  readStruct "struct JoinSelect"
    (JoinSelection.mk <$> .optional "left" textsReader <*> .optional "right" textsReader)

/-- The document of the fields taken. -/
def toJson (s : JoinSelection) : Json :=
  .obj (optionalField "left" textsJson s.left ++ optionalField "right" textsJson s.right)

end JoinSelection

namespace JoinPrefixes

/-- Reads what is put in front of names. -/
def reader : Reader Json JoinPrefixes :=
  readStruct "struct JoinPrefix"
    (JoinPrefixes.mk <$> .optional "left" Reader.text <*> .optional "right" Reader.text)

/-- The document of what is put in front of names. -/
def toJson (p : JoinPrefixes) : Json :=
  .obj (optionalField "left" Json.str p.left ++ optionalField "right" Json.str p.right)

end JoinPrefixes

namespace OrderBy

/-- Reads a key of a sorting. -/
def reader : Reader Json OrderBy :=
  readStruct "struct OrderBy"
    (OrderBy.mk <$> textField "field"
      <*> .withDefault "direction" (variantReader SortDirection.names) .ascending
      <*> .withDefault "nulls" (variantReader NullsOrder.names) .last)

/-- The document of a key of a sorting. -/
def toJson (key : OrderBy) : Json :=
  .obj [("field", .str key.field), ("direction", .str (nameIn SortDirection.names key.direction)),
    ("nulls", .str (nameIn NullsOrder.names key.nulls))]

end OrderBy

namespace MapConfig

/-- Reads named expressions. -/
def mappingsReader : Reader Json (List (String × Expression)) := fun json =>
  match json with
  | .obj fields => fields.mapM fun (name, value) => (Expression.read value).map fun e => (name, e)
  | _ => rejectType "a map" json

end MapConfig

namespace StepConfig

/-- The fields of a filter. -/
def filterFields : FieldReader Json FilterConfig :=
  FilterConfig.mk <$> textField "source" <*> textField "output"
    <*> .required "conditions" (Reader.listOf Condition.reader)
    <*> .withDefault "logic" (variantReader Logic.names) .all

/-- The fields of a map. -/
def mapFields : FieldReader Json MapConfig :=
  MapConfig.mk <$> textField "source" <*> textField "output"
    <*> .required "mappings" MapConfig.mappingsReader
    <*> .withDefault "includeOriginal" Reader.boolean false

/-- The fields of an aggregation. -/
def aggregateFields : FieldReader Json AggregateConfig :=
  AggregateConfig.mk <$> textField "source" <*> textField "output"
    <*> .withDefault "groupBy" textsReader []
    <*> .required "aggregations" (Reader.listOf Aggregation.reader)
    <*> .withDefault "having" (Reader.listOf Condition.reader) []

/-- The fields of a join. -/
def joinFields : FieldReader Json JoinConfig :=
  JoinConfig.mk <$> textField "left" <*> textField "right" <*> textField "output"
    <*> .required "on" (Reader.listOf JoinKey.reader)
    <*> .withDefault "type" (variantReader JoinKind.names) .inner
    <*> .withDefault "select" JoinSelection.reader {}
    <*> .withDefault "prefix" JoinPrefixes.reader {}

/-- The fields of a lookup. -/
def lookupFields : FieldReader Json LookupConfig :=
  LookupConfig.mk <$> textField "source" <*> textField "from" <*> textField "localField"
    <*> textField "foreignField" <*> textField "as"
    <*> .withDefault "multiple" Reader.boolean false <*> textField "output"

/-- The fields of a union. -/
def unionFields : FieldReader Json UnionConfig :=
  UnionConfig.mk <$> .required "sources" textsReader <*> textField "output"
    <*> .withDefault "mode" (variantReader UnionMode.names) .all
    <*> .optional "distinctKeys" textsReader

/-- The fields of a deduplication. -/
def deduplicateFields : FieldReader Json DeduplicateConfig :=
  DeduplicateConfig.mk <$> textField "source" <*> textField "output" <*>
    .required "keys" textsReader <*> .withDefault "keep" (variantReader Keep.names) .first
    <*> .withDefault "orderBy" (Reader.listOf OrderBy.reader) []

/-- The fields of a sorting. -/
def sortFields : FieldReader Json SortConfig :=
  SortConfig.mk <$> textField "source" <*> textField "output"
    <*> .required "orderBy" (Reader.listOf OrderBy.reader)

/-- The fields of a limit. -/
def limitFields : FieldReader Json LimitConfig :=
  LimitConfig.mk <$> textField "source" <*> textField "output" <*> .required "limit" Reader.size
    <*> .withDefault "offset" Reader.size 0

/-- The fields of a pivot. -/
def pivotFields : FieldReader Json PivotConfig :=
  PivotConfig.mk <$> textField "source" <*> textField "output" <*> .required "groupBy" textsReader
    <*> textField "pivotField" <*> textField "valueField"
    <*> .required "aggregation" (variantReader AggregateFunction.names)

/-- The fields of an unpivot. -/
def unpivotFields : FieldReader Json UnpivotConfig :=
  UnpivotConfig.mk <$> textField "source" <*> textField "output"
    <*> .withDefault "idFields" textsReader [] <*> .required "unpivotFields" textsReader
    <*> .withDefault "nameField" Reader.text "field" <*>
    .withDefault "valueField" Reader.text "value"

/-- The fields of a flattening. -/
def flattenFields : FieldReader Json FlattenConfig :=
  FlattenConfig.mk <$> textField "source" <*> textField "output" <*> textField "field"
    <*> .optional "as" Reader.text <*> .withDefault "preserveEmpty" Reader.boolean false

/-- The configuration of a kind of step in a document. -/
def read (kind : StepKind) (json : Json) : Except Rejection StepConfig :=
  match kind with
  | .filter => filter <$> readStruct "struct FilterConfig" filterFields json
  | .map => map <$> readStruct "struct MapConfig" mapFields json
  | .aggregate => aggregate <$> readStruct "struct AggregateConfig" aggregateFields json
  | .join => join <$> readStruct "struct JoinConfig" joinFields json
  | .lookup => lookup <$> readStruct "struct LookupConfig" lookupFields json
  | .union => union <$> readStruct "struct UnionConfig" unionFields json
  | .deduplicate => deduplicate <$> readStruct "struct DeduplicateConfig" deduplicateFields json
  | .sort => sort <$> readStruct "struct SortConfig" sortFields json
  | .limit => limit <$> readStruct "struct LimitConfig" limitFields json
  | .pivot => pivot <$> readStruct "struct PivotConfig" pivotFields json
  | .unpivot => unpivot <$> readStruct "struct UnpivotConfig" unpivotFields json
  | .flatten => flatten <$> readStruct "struct FlattenConfig" flattenFields json

/-- The fields of the document of a configuration. -/
def toFields : StepConfig → List (String × Json)
  | filter c =>
    [("source", .str c.source), ("output", .str c.output),
      ("conditions", .arr (c.conditions.map Condition.toJson)),
      ("logic", .str (nameIn Logic.names c.logic))]
  | map c =>
    [("source", .str c.source), ("output", .str c.output),
      ("mappings", .obj (c.mappings.map fun (name, e) => (name, e.toJson))),
      ("includeOriginal", .bool c.includeOriginal)]
  | aggregate c =>
    [("source", .str c.source), ("output", .str c.output), ("groupBy", textsJson c.groupBy),
      ("aggregations", .arr (c.aggregations.map Aggregation.toJson))] ++
      listField "having" Condition.toJson c.having
  | join c =>
    [("left", .str c.left), ("right", .str c.right), ("output", .str c.output),
      ("on", .arr (c.on.map JoinKey.toJson)), ("type", .str (nameIn JoinKind.names c.kind)),
      ("select", c.select.toJson), ("prefix", c.prefixes.toJson)]
  | lookup c =>
    [("source", .str c.source), ("from", .str c.reference), ("localField", .str c.localField),
      ("foreignField", .str c.foreignField), ("as", .str c.target), ("multiple", .bool c.multiple),
      ("output", .str c.output)]
  | union c =>
    [("sources", textsJson c.sources), ("output", .str c.output),
      ("mode", .str (nameIn UnionMode.names c.mode))] ++
      optionalField "distinctKeys" textsJson c.distinctKeys
  | deduplicate c =>
    [("source", .str c.source), ("output", .str c.output), ("keys", textsJson c.keys),
      ("keep", .str (nameIn Keep.names c.keep))] ++ listField "orderBy" OrderBy.toJson c.orderBy
  | sort c =>
    [("source", .str c.source), ("output", .str c.output),
      ("orderBy", .arr (c.orderBy.map OrderBy.toJson))]
  | limit c =>
    [("source", .str c.source), ("output", .str c.output), ("limit", .int c.limit),
      ("offset", .int c.offset)]
  | pivot c =>
    [("source", .str c.source), ("output", .str c.output), ("groupBy", textsJson c.groupBy),
      ("pivotField", .str c.pivotField), ("valueField", .str c.valueField),
      ("aggregation", .str (nameIn AggregateFunction.names c.aggregation))]
  | unpivot c =>
    [("source", .str c.source), ("output", .str c.output), ("idFields", textsJson c.idFields),
      ("unpivotFields", textsJson c.unpivotFields), ("nameField", .str c.nameField),
      ("valueField", .str c.valueField)]
  | flatten c =>
    [("source", .str c.source), ("output", .str c.output), ("field", .str c.field)] ++
      optionalField "as" Json.str c.target ++ [("preserveEmpty", .bool c.preserveEmpty)]

/-- The document of a configuration. -/
def toJson (config : StepConfig) : Json := .obj config.toFields

end StepConfig

end RecordFlow
