import RecordFlow.Expression.Arithmetic
import RecordFlow.Step.Config
import RecordFlow.Step.Grouping

/-!
# Aggregation

A function is computed from the values of a field, one record after the other. The
values of a field may be absent.

## Main definitions

* `Accumulator`, `Accumulator.add`, `Accumulator.result` — a running computation
* `AggregateFunction.fold` — a function over the values of a field
* `AggregateConfig.rows`, `PivotConfig.rows` — the rows of both steps
-/

namespace RecordFlow

/-- A running sum: of integers as long as all values are integers and their sum is one. -/
inductive Sum where
  | ints (total : Int64)
  | floats (total : Float)

/-- Adds a value to a sum; what is no number adds nothing. -/
def Sum.add (sum : Sum) (value : Value) : Sum :=
  match sum, value with
  | ints total, .int i =>
    match MathOp.int64? (total.toInt + i.toInt) with
    | some total => ints total
    -- From the first sum that is no 64-bit integer on, the sum is one of floats.
    | none => floats (floatOfInt total.toInt + floatOfInt i.toInt)
  | ints total, .float f => floats (floatOfInt total.toInt + f)
  | floats total, .int i => floats (total + floatOfInt i.toInt)
  | floats total, .float f => floats (total + f)
  | sum, _ => sum

/-- The value of a sum. -/
def Sum.value : Sum → Value
  | ints total => .int total
  | floats total => .float total

/-- A running computation. -/
inductive Accumulator where
  | sum (sum : Sum)
  | avg (total : Float) (count : Nat)
  | count (count : Nat)
  | min (least : Option Value)
  | max (greatest : Option Value)
  | first (value : Option Value)
  | last (value : Option Value)
  | collect (reversed : List Value)
  | countDistinct (seen : List Value)

/-- The better of a value and the best number so far; what is no number is never better. -/
def betterNumber (better : Float → Float → Bool) (best : Option Value) (value : Option Value) :
    Option Value :=
  match value with
  | some candidate =>
    match candidate.asFloat?, best.bind Value.asFloat? with
    | some n, some b => if better n b then some candidate else best
    | some _, none => some candidate
    | none, _ => best
  | none => best

namespace Accumulator

/-- The computation of a function before the first value. -/
def start : AggregateFunction → Accumulator
  | .sum => sum (.ints 0)
  | .avg => avg 0.0 0
  | .count => count 0
  | .min => min none
  | .max => max none
  | .first => first none
  | .last => last none
  | .collect => collect []
  | .countDistinct => countDistinct []

/-- Takes the value of the next record. -/
def add (state : Accumulator) (value : Option Value) : Accumulator :=
  match state with
  | sum total => sum ((value.map total.add).getD total)
  | avg total n =>
    match value.bind Value.asFloat? with
    | some f => avg (total + f) (n + 1)
    | none => avg total n
  | count n => if value.any (!·.isNull) then count (n + 1) else count n
  | min best => min (betterNumber (fun a b => a < b) best value)
  | max best => max (betterNumber (fun a b => a > b) best value)
  | first known => first (some (known.getD (value.getD .null)))
  | last _ => last (some (value.getD .null))
  | collect values =>
    match value with
    | some v => collect (v :: values)
    | none => collect values
  | countDistinct seen =>
    match value.filter (!·.isNull) with
    | some v => if seen.any (· == v) then countDistinct seen else countDistinct (v :: seen)
    | none => countDistinct seen

/-- The value of a computation. -/
def result : Accumulator → Value
  | sum total => total.value
  | avg total n => if n = 0 then .null else .float (total / floatOfInt n)
  | count n => .int (Int64.ofNat n)
  | min best => best.getD .null
  | max best => best.getD .null
  | first value => value.getD .null
  | last value => value.getD .null
  | collect values => .list values.reverse
  | countDistinct seen => .int (Int64.ofNat seen.length)

end Accumulator

namespace AggregateFunction

/-- A function over the values of a field. -/
def fold (function : AggregateFunction) (field : String) (records : List Record) : Value :=
  (records.foldl (fun state record => state.add (record.getPath? field))
    (Accumulator.start function)).result

/-- The value for no records at all, if a function has one. -/
def empty? : AggregateFunction → Option Value
  | count => some (.int 0)
  | countDistinct => some (.int 0)
  | _ => none

end AggregateFunction

/-- The value of a computed column. -/
def Aggregation.value (a : Aggregation) (records : List Record) : Value :=
  if a.function = .count ∧ a.field = "*" then .int (Int64.ofNat records.length)
  else a.function.fold a.field records

/-- A row that starts with the values of a key. -/
def keyRow (fields : List String) (key : List Value) : Record := Record.ofFields (fields.zip key)

namespace AggregateConfig

/-- The row of a group. -/
def row (config : AggregateConfig) (key : List Value) (members : List Record) : Record :=
  config.aggregations.foldl (fun row a => row.insert a.column (a.value members))
    (keyRow config.groupBy key)

/-- The groups. Without fields to group by there is always one. -/
def groups (config : AggregateConfig) (records : List Record) : List (List Value × List Record) :=
  match gather (groupKey config.groupBy) records, config.groupBy with
  | [], [] => [([], [])]
  | groups, _ => groups

/-- The rows that meet the conditions. -/
def rows (config : AggregateConfig) (records : List Record) : List Record :=
  ((config.groups records).map fun (key, members) => config.row key members).filter
    (holdsAll config.having .all)

end AggregateConfig

namespace PivotConfig

/-- The name of the column that a record counts to. -/
def column? (config : PivotConfig) (record : Record) : Option String :=
  (record.getPath? config.pivotField).map Value.display

/-- The columns, in the order in which they come up. -/
def columns (config : PivotConfig) (records : List Record) : List String :=
  keepFirst id (records.filterMap config.column?) []

/-- The value of a column in a group. -/
def cell? (config : PivotConfig) (members : List Record) (column : String) : Option Value :=
  match members.filter fun record => config.column? record == some column with
  | [] => config.aggregation.empty?
  | cell => some (config.aggregation.fold config.valueField cell)

/-- The row of a group. -/
def row (config : PivotConfig) (columns : List String) (key : List Value)
    (members : List Record) : Record :=
  columns.foldl (fun row column => ((config.cell? members column).map (row.insert column)).getD row)
    (keyRow config.groupBy key)

/-- The rows. -/
def rows (config : PivotConfig) (records : List Record) : List Record :=
  let columns := config.columns records
  (gather (groupKey config.groupBy) records).map fun (key, members) =>
    config.row columns key members

end PivotConfig

end RecordFlow
