import RecordFlow.Condition.Basic
import RecordFlow.Expression.Arithmetic
import RecordFlow.Expression.Operation
import RecordFlow.Expression.Placeholder

/-!
# Expressions

An expression computes a value from one record. There are no errors: an expression without a value
is undefined, which is not the same as null.

## Main definitions

* `Expression` — the ten kinds of expressions
* `Expression.evaluate` — the value for a record at a time
-/

namespace RecordFlow

/-- An expression. -/
inductive Expression where
  | field (path : String)
  | literal (value : Value)
  | concat (values : List Expression) (separator : String)
  | template (source : String)
  | math (op : MathOp) (left : Expression) (right : Option Expression)
  | coalesce (values : List Expression)
  | conditional (condition : Condition) (positive : Expression) (negative : Option Expression)
  | date (op : DateOp)
  | list (path : String) (op : ListOp)
  | text (path : String) (op : TextOp)

namespace Expression

mutual

/-- The value of an expression for a record at the time `now`. -/
def evaluate (now : Timestamp) (record : Record) : Expression → Option Value
  | field path => record.getPath? path
  | literal value => some value
  | concat values separator =>
    some (.text (Text.joinStrings separator
      ((evaluateAll now record values).map fun v => (v.map Value.toText).getD "")))
  | template source => some (.text (fillPlaceholders source record))
  | math op left right =>
    some (op.apply (evaluate now record left) (evaluateOption now record right))
  | coalesce values =>
    some (((evaluateAll now record values).findSome? fun v => v.filter (!·.isNull)).getD .null)
  | conditional condition positive negative =>
    if condition.holds record then evaluate now record positive
      else evaluateOption now record negative
  | date op => op.evaluate now record
  | list path op => op.evaluate path record
  | text path op => op.evaluate path record

/-- The values of several expressions. -/
def evaluateAll (now : Timestamp) (record : Record) : List Expression → List (Option Value)
  | [] => []
  | e :: es => evaluate now record e :: evaluateAll now record es

/-- The value of an expression that may be lacking. -/
def evaluateOption (now : Timestamp) (record : Record) : Option Expression → Option Value
  | none => none
  | some e => evaluate now record e

end

end Expression

end RecordFlow
