import RecordFlow.Pattern.Occurrence
import RecordFlow.Pattern.Size
import RecordFlow.Value.Order
import RecordFlow.Value.Path

/-!
# Conditions

A condition tests one field of a record, which may be absent. Absence counts as null for equality
and for membership in what is excluded; any other comparison of an absent field fails.

## Main definitions

* `Comparison`, `Comparison.test` — the comparisons and what they mean
* `Condition`, `Condition.holds` — a comparison of a field with a value
* `Logic`, `holdsAll` — several conditions together
-/

namespace RecordFlow

/-- How a field is compared. -/
inductive Comparison where
  | eq
  | ne
  | gt
  | gte
  | lt
  | lte
  | among
  | notAmong
  | present
  | isNull
  | contains
  | startsWith
  | endsWith
  | pattern
  deriving DecidableEq

namespace Comparison

/-- Whether a text value matches a pattern. What is not a pattern matches nothing. -/
def testPattern : Value → Value → Bool
  | .text text, .text source =>
    match Pattern.parse? source with
    | some p => p.occursIn text
    | none => false
  | _, _ => false

/-- Whether the field value `actual` compares with `wanted` as it should. -/
def test (comparison : Comparison) (actual : Option Value) (wanted : Value) : Bool :=
  match comparison, actual with
  | present, _ => actual.any fun v => !v.isNull
  | isNull, _ => actual.all Value.isNull
  | eq, _ => actual.getD .null == wanted
  | ne, _ => !(actual.getD .null == wanted)
  | notAmong, _ =>
    match wanted with
    | .list _ => !(actual.getD .null).isAmong wanted
    | _ => true
  | _, none => false
  | gt, some v => (v.compare? wanted).any Ordering.isGT
  | gte, some v => (v.compare? wanted).any Ordering.isGE
  | lt, some v => (v.compare? wanted).any Ordering.isLT
  | lte, some v => (v.compare? wanted).any Ordering.isLE
  | among, some v => v.isAmong wanted
  | contains, some v => v.hasPart wanted
  | startsWith, some v => v.startsWith wanted
  | endsWith, some v => v.endsWith wanted
  | pattern, some v => testPattern v wanted

end Comparison

/-- A comparison of a field with a value; a value that is left out is null. -/
structure Condition where
  field : String
  comparison : Comparison
  value : Option Value

/-- Whether a record meets a condition. -/
def Condition.holds (condition : Condition) (record : Record) : Bool :=
  condition.comparison.test (record.getPath? condition.field) (condition.value.getD .null)

/-- How several conditions are taken together. -/
inductive Logic where
  | all
  | any
  deriving DecidableEq

/-- Whether a record meets several conditions. Every record meets none of them. -/
def holdsAll (conditions : List Condition) (logic : Logic) (record : Record) : Bool :=
  match conditions, logic with
  | [], _ => true
  | _, .all => conditions.all (·.holds record)
  | _, .any => conditions.any (·.holds record)

end RecordFlow
