import RecordFlow.Condition.Basic
import RecordFlow.Document.Reader
import RecordFlow.Json.Basic

/-!
# Conditions as documents

The names of the comparisons, and conditions as JSON objects.
-/

namespace RecordFlow

namespace Comparison

/-- The comparisons by name. -/
def names : List (String × Comparison) :=
  [("eq", eq), ("ne", ne), ("gt", gt), ("gte", gte), ("lt", lt), ("lte", lte), ("in", among),
    ("notIn", notAmong), ("exists", present), ("isNull", isNull), ("contains", contains),
    ("startsWith", startsWith), ("endsWith", endsWith), ("regex", pattern)]

end Comparison

namespace Condition

variable {δ : Type} [Document δ]

/-- Reads a condition. -/
def reader : Reader δ Condition :=
  readStruct "struct Condition"
    (Condition.mk <$> .required "field" Reader.text
      <*> .required "operator" (Reader.choice Comparison.names (Comparison.names.map Prod.fst))
      <*> .optional "value" Reader.value)

/-- The document of a condition. -/
def toJson (condition : Condition) : Json :=
  .obj ([("field", .str condition.field),
    ("operator", .str (nameIn Comparison.names condition.comparison))] ++
    optionalField "value" Json.ofValue condition.value)

end Condition

namespace Logic

/-- The ways by name. -/
def names : List (String × Logic) := [("and", all), ("or", any)]

end Logic

end RecordFlow
