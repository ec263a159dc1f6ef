import RecordFlow.Proofs.Step.Grouping
import RecordFlow.Proofs.Value.Path
import RecordFlow.Step.Process

/-!
# Aggregations by key

An aggregation gathers its records and computes its functions record by record. Its rows are those
that are got from the different keys: for each key the records that have it are looked out, and each
function is what it is for the values of its field in them.

## Main definitions

* `AggregateFunction.ofValues` — what a function is for some values
* `AggregateConfig.keys`, `AggregateConfig.membersOf` — the different
  keys, and the records that have one
* `AggregateConfig.keyedRows` — the rows of the keys

## Main results

* `AggregateFunction.fold_eq_ofValues` — a function that is computed record by record
* `AggregateConfig.groups_eq` — the groups are those of the different keys
* `AggregateConfig.process_aggregate` — the rows of an aggregation, and that each record counts once
-/

namespace RecordFlow

/-! ### What the functions are -/

namespace Value

/-- The values that are there and not null. -/
def known (values : List (Option Value)) : List Value := values.reduceOption.filter (!·.isNull)

/-- The numbers. -/
def numbers (values : List (Option Value)) : List Value := values.reduceOption.filter isNumber

/-- The numbers as floats. -/
def floats (values : List (Option Value)) : List Float := values.reduceOption.filterMap asFloat?

/-- Floats added to a first one, one after the other. -/
def addFloats (first : Float) (floats : List Float) : Float := floats.foldl (· + ·) first

/-- The sum of numbers and of a total that comes before them. Integers are added exactly as
long as their sum is one of 64 bits. From the first number on that is a float, or that is
too much, floats are added. -/
def sumFrom (total : Int64) : List Value → Value
  | [] => .int total
  | .int i :: rest =>
    match MathOp.int64? (total.toInt + i.toInt) with
    | some total => sumFrom total rest
    | none => .float (addFloats (floatOfInt total.toInt) ((.int i :: rest).filterMap asFloat?))
  | rest => .float (addFloats (floatOfInt total.toInt) (rest.filterMap asFloat?))

/-- Whether a number comes before another one, if they are compared as floats. -/
def precedes (before : Float → Float → Bool) (number other : Value) : Bool :=
  match number.asFloat?, other.asFloat? with
  | some x, some y => before x y
  | _, _ => false

/-- The number that is left if each one takes the place of the one that is left
before it, where it precedes it. -/
def extreme? (before : Float → Float → Bool) : List Value → Option Value
  | [] => none
  | first :: rest =>
    some (rest.foldl (fun left number => if number.precedes before left then number
      else left) first)

end Value

/-- What a function is for the values of a field, in their order. -/
def AggregateFunction.ofValues (function : AggregateFunction)
    (values : List (Option Value)) : Value :=
  match function with
  | .sum => Value.sumFrom 0 (Value.numbers values)
  | .avg =>
    if Value.floats values = [] then .null
    else .float (Value.addFloats 0.0 (Value.floats values) /
      floatOfInt (Value.floats values).length)
  | .count => .int (Int64.ofNat (Value.known values).length)
  | .min => (Value.extreme? (fun x y => x < y) (Value.numbers values)).getD .null
  | .max => (Value.extreme? (fun x y => x > y) (Value.numbers values)).getD .null
  | .first => values.head?.join.getD .null
  | .last => values.getLast?.join.getD .null
  | .collect => .list values.reduceOption
  | .countDistinct => .int (Int64.ofNat (Value.known values).eraseDups.length)

/-! ### What a running computation comes to -/

namespace Value

theorem numbers_some (value : Value) (values : List (Option Value)) :
    numbers (some value :: values) = if value.isNumber then value :: numbers values
      else numbers values := by
  simp [numbers, List.filter_cons]

theorem floats_some (value : Value) (values : List (Option Value)) :
    floats (some value :: values) = value.asFloat?.toList ++ floats values := by
  rw [floats, List.reduceOption_cons_of_some, List.filterMap_cons]
  cases value.asFloat? <;> rfl

theorem filterMap_asFloat?_numbers (values : List (Option Value)) :
    (numbers values).filterMap asFloat? = floats values := by
  rw [numbers, floats, List.filterMap_filter]
  refine List.filterMap_congr fun value _ => ?_
  cases value <;> rfl

theorem known_some (value : Value) (values : List (Option Value)) :
    known (some value :: values) = if value.isNull then known values
      else value :: known values := by
  cases isNull : value.isNull <;> simp [known, isNull]

end Value

namespace Accumulator

variable (values : List (Option Value))

theorem foldl_add_count (n : ℕ) :
    values.foldl add (count n) = count (n + (Value.known values).length) := by
  induction values generalizing n with
  | nil => rfl
  | cons value values ih =>
    cases value with
    | none => exact ih n
    | some value =>
      rw [List.foldl_cons, add, Value.known_some]
      cases isNull : value.isNull
      · simp [isNull, ih]
        omega
      · simp [isNull, ih]

theorem foldl_add_avg (total : Float) (n : ℕ) : values.foldl add (avg total n) =
    avg (Value.addFloats total (Value.floats values)) (n + (Value.floats values).length) := by
  induction values generalizing total n with
  | nil => rfl
  | cons value values ih =>
    cases value with
    | none => exact ih total n
    | some value =>
      rw [List.foldl_cons, add, Value.floats_some]
      cases float : value.asFloat? with
      | none => simp [float, ih]
      | some f =>
        simp [float, ih, Value.addFloats]
        omega

theorem foldl_add_collect (kept : List Value) :
    values.foldl add (collect kept) = collect (values.reduceOption.reverse ++ kept) := by
  induction values generalizing kept with
  | nil => rfl
  | cons value values ih =>
    cases value with
    | none => exact ih kept
    | some value =>
      rw [List.foldl_cons, add, ih, List.reduceOption_cons_of_some,
        List.reverse_cons, List.append_assoc]
      rfl

theorem foldl_add_first (known : Value) :
    values.foldl add (first (some known)) = first (some known) := by
  induction values with
  | nil => rfl
  | cons value values ih => exact ih

theorem foldl_add_last (value : Option Value) (before : Option Value) :
    (values ++ [value]).foldl add (last before) = last (some (value.getD .null)) := by
  rw [List.foldl_append]
  have kept : ∃ known, values.foldl add (last before) = last known := by
    induction values generalizing before with
    | nil => exact ⟨before, rfl⟩
    | cons value values ih => exact ih _
  obtain ⟨known, h⟩ := kept
  rw [h]
  rfl

/-- Of a sum that has come to floats, each number is added as a float. -/
theorem foldl_add_floats (total : Float) : values.foldl add (sum (.floats total)) =
    sum (.floats (Value.addFloats total (Value.floats values))) := by
  induction values generalizing total with
  | nil => rfl
  | cons value values ih =>
    cases value with
    | none => exact ih total
    | some value => cases value <;> exact ih _

theorem foldl_add_ints (total : Int64) :
    (values.foldl add (sum (.ints total))).result = Value.sumFrom total (Value.numbers values) := by
  induction values generalizing total with
  | nil => rfl
  | cons value values ih =>
    cases value with
    | none => exact ih total
    | some value =>
      rw [List.foldl_cons, add, Value.numbers_some]
      cases value with
      | int i =>
        simp only [Option.map_some, Option.getD_some, Sum.add,
          Value.isNumber, if_true, Value.sumFrom]
        cases MathOp.int64? (total.toInt + i.toInt) with
        | some total => exact ih total
        | none =>
          simp only [foldl_add_floats, List.filterMap_cons, Value.asFloat?,
            Value.filterMap_asFloat?_numbers]
          rfl
      | float f =>
        simp only [Option.map_some, Option.getD_some, Sum.add,
          Value.isNumber, if_true, Value.sumFrom]
        simp only [foldl_add_floats, List.filterMap_cons, Value.asFloat?,
          Value.filterMap_asFloat?_numbers]
        rfl
      | _ => exact ih total

/-- A value takes the place of the best number if it is a number that precedes it. -/
theorem betterNumber_some {better : Float → Float → Bool} {best : Value}
    (number : best.isNumber = true) (value : Value) : betterNumber better (some best) (some value) =
      some (if value.precedes better best then value else best) := by
  obtain ⟨b, hb⟩ : ∃ b, best.asFloat? = some b := by
    cases best <;> first | exact ⟨_, rfl⟩ | cases number
  rw [betterNumber, Option.bind_some, Value.precedes, hb]
  cases value.asFloat? with
  | none => rfl
  | some x => exact (apply_ite some ..).symm

theorem foldl_betterNumber {better : Float → Float → Bool} {best : Value}
    (number : best.isNumber = true) :
    values.foldl (betterNumber better) (some best) = some ((Value.numbers values).foldl
      (fun left number => if number.precedes better left then number else left) best) := by
  induction values generalizing best with
  | nil => rfl
  | cons value values ih =>
    cases value with
    | none => exact ih number
    | some value =>
      rw [List.foldl_cons, betterNumber_some number, Value.numbers_some]
      cases kind : value.isNumber with
      | false =>
        have behind : value.precedes better best = false := by
          cases value <;> first | rfl | cases kind
        rw [behind]
        exact ih number
      | true =>
        rw [ih (by split <;> assumption)]
        rfl

theorem foldl_betterNumber_none (better : Float → Float → Bool) :
    values.foldl (betterNumber better) none = Value.extreme? better (Value.numbers values) := by
  induction values with
  | nil => rfl
  | cons value values ih =>
    cases value with
    | none => exact ih
    | some value =>
      rw [Value.numbers_some]
      cases kind : value.isNumber with
      | false =>
        have ignored : betterNumber better none (some value) = none := by
          cases value <;> first | rfl | cases kind
        rw [List.foldl_cons, ignored]
        exact ih
      | true =>
        have taken : betterNumber better none (some value) = some value := by
          cases value <;> first | rfl | cases kind
        rw [List.foldl_cons, taken, foldl_betterNumber values kind]
        rfl

theorem result_foldl_min : (values.foldl add (start .min)).result =
    (Value.extreme? (fun x y => x < y) (Value.numbers values)).getD .null := by
  have least : values.foldl add (min none) =
      min (values.foldl (betterNumber fun x y => x < y) none) :=
    List.foldl_hom min fun _ _ => rfl
  rw [start, least, foldl_betterNumber_none]
  rfl

theorem result_foldl_max : (values.foldl add (start .max)).result =
    (Value.extreme? (fun x y => x > y) (Value.numbers values)).getD .null := by
  have greatest : values.foldl add (max none) =
      max (values.foldl (betterNumber fun x y => x > y) none) :=
    List.foldl_hom max fun _ _ => rfl
  rw [start, greatest, foldl_betterNumber_none]
  rfl

/-- The values that are new come behind those that have been seen. -/
theorem foldl_add_countDistinct (seen : List Value) : values.foldl add (countDistinct seen) =
    countDistinct ((keepFirst id (Value.known values) seen).reverse ++ seen) := by
  induction values generalizing seen with
  | nil => rfl
  | cons value values ih =>
    cases value with
    | none => exact ih seen
    | some value =>
      rw [List.foldl_cons, add, Value.known_some, Option.filter]
      cases value.isNull with
      | true => exact ih seen
      | false =>
        simp only [Bool.not_false, if_true, Bool.false_eq_true, if_false, keepFirst, id]
        split
        · exact ih seen
        · rw [ih, List.reverse_cons, List.append_assoc]
          rfl

end Accumulator

/-! ### The rows -/

theorem AggregateFunction.fold_eq_foldl (function : AggregateFunction) (field : String)
    (records : List Record) : function.fold field records =
      ((records.map (·.getPath? field)).foldl Accumulator.add
        (Accumulator.start function)).result := by
  rw [fold, List.foldl_map]

/-- A function that is computed record by record is what it is for the values of the field. -/
theorem AggregateFunction.fold_eq_ofValues (function : AggregateFunction)
    (field : String) {records : List Record}
    (distinct : ∀ record ∈ records, (Value.object record).HasDistinctNames) :
    function.fold field records = function.ofValues (records.map (·.getPath? field)) := by
  rw [fold_eq_foldl]
  have each : ∀ value ∈ Value.known (records.map (·.getPath? field)), value.HasDistinctNames := by
    intro value hvalue
    obtain ⟨hvalue, -⟩ := List.mem_filter.mp hvalue
    obtain ⟨record, hrecord, found⟩ := List.mem_map.mp (List.reduceOption_mem_iff.mp hvalue)
    exact Record.hasDistinctNames_of_getPath? (distinct record hrecord) found
  generalize records.map (·.getPath? field) = values at each
  cases function with
  | sum => exact Accumulator.foldl_add_ints values 0
  | avg =>
    rw [Accumulator.start, Accumulator.foldl_add_avg, Nat.zero_add]
    simp only [Accumulator.result, ofValues, List.length_eq_zero_iff]
  | count => rw [Accumulator.start, Accumulator.foldl_add_count, Nat.zero_add]; rfl
  | min => exact Accumulator.result_foldl_min values
  | max => exact Accumulator.result_foldl_max values
  | first =>
    cases values with
    | nil => rfl
    | cons value values => exact congrArg Accumulator.result (Accumulator.foldl_add_first values _)
  | last =>
    induction values using List.reverseRecOn with
    | nil => rfl
    | append_singleton values value _ =>
      rw [Accumulator.start, Accumulator.foldl_add_last, ofValues, List.getLast?_concat]
      rfl
  | collect =>
    rw [Accumulator.start, Accumulator.foldl_add_collect, List.append_nil,
      Accumulator.result, List.reverse_reverse]
    rfl
  | countDistinct =>
    rw [Accumulator.start, Accumulator.foldl_add_countDistinct,
      keepFirst_id_eq_eraseDups (Value.isKeyComparison each)]
    simp [Accumulator.result, ofValues]

namespace AggregateConfig

/-- The keys for which there are rows: the different ones of the records, in the order in which they
come up. Without fields to group by it is the empty one, whatever records there are. -/
def keys (config : AggregateConfig) (records : List Record) : List (List Value) :=
  if config.groupBy = [] then [[]] else (records.map (groupKey config.groupBy)).eraseDups

/-- The records with a key. -/
def membersOf (config : AggregateConfig) (records : List Record) (key : List Value) : List Record :=
  records.filter fun record => groupKey config.groupBy record == key

/-- The value of a column for some records. -/
def columnValue (a : Aggregation) (members : List Record) : Value :=
  if a.function = .count ∧ a.field = "*" then .int (Int64.ofNat members.length)
  else a.function.ofValues (members.map (·.getPath? a.field))

/-- The row of a key: the fields of the key, then the columns. A later field of a
name replaces an earlier one. -/
def keyedRow (config : AggregateConfig) (key : List Value) (members : List Record) : Record :=
  Record.ofFields (config.groupBy.zip key ++
    config.aggregations.map fun a => (a.column, columnValue a members))

/-- The rows of the keys that meet all conditions. -/
def keyedRows (config : AggregateConfig) (records : List Record) : List Record :=
  ((config.keys records).map fun key => config.keyedRow key
    (config.membersOf records key)).filter fun row =>
    config.having.all (·.holds row)

variable {config : AggregateConfig} {records : List Record}

theorem holdsAll_all (conditions : List Condition) :
    holdsAll conditions .all = fun record => conditions.all (·.holds record) := by
  cases conditions <;> rfl

/-- A row is that of its key. -/
theorem row_eq_keyedRow (key : List Value) {members : List Record}
    (distinct : ∀ record ∈ members, (Value.object record).HasDistinctNames) :
    config.row key members = config.keyedRow key members := by
  have value (a : Aggregation) : a.value members = columnValue a members := by
    rw [Aggregation.value, columnValue, a.function.fold_eq_ofValues a.field distinct]
  simp only [row, keyRow, keyedRow, Record.ofFields, List.foldl_append, List.foldl_map, value]

theorem hasDistinctNames_groupKey (fields : List String) {record : Record}
    (distinct : (Value.object record).HasDistinctNames) :
    (Value.list (groupKey fields record)).HasDistinctNames := by
  refine .list fun value hvalue => ?_
  obtain ⟨field, -, rfl⟩ := List.mem_map.mp hvalue
  cases found : record.getPath? field with
  | none => exact .null
  | some value => exact record.hasDistinctNames_of_getPath? distinct found

theorem isKeyComparison_groupKey (fields : List String)
    (distinct : ∀ record ∈ records, (Value.object record).HasDistinctNames) :
    IsKeyComparison (records.map (groupKey fields)) :=
  isKeyComparison_of_hasDistinctNames <| List.forall_mem_map.mpr fun record hrecord =>
    hasDistinctNames_groupKey fields (distinct record hrecord)

/-- Records are gathered by their different keys. -/
theorem gather_groupKey {fields : List String}
    (free : ∀ record ∈ records, (Value.list (groupKey fields record)).IsNaNFree)
    (distinct : ∀ record ∈ records, (Value.object record).HasDistinctNames) :
    gather (groupKey fields) records = byKey (groupKey fields) records := by
  refine gather_eq_byKey (isKeyComparison_groupKey fields distinct)
    (List.forall_mem_map.mpr fun record hrecord => ?_)
  rw [beq_eq_list_same]
  exact Value.same_refl (free record hrecord)
    (hasDistinctNames_groupKey fields (distinct record hrecord))

theorem keys_of_empty (empty : config.groupBy = []) (records : List Record) :
    config.keys records = [[]] := by
  rw [keys, if_pos empty]

/-- Without fields to group by there is one group, of all records. -/
theorem groups_of_empty (empty : config.groupBy = []) (records : List Record) :
    config.groups records = [([], records)] := by
  rw [groups, empty]
  cases records with
  | nil => rfl
  | cons record records =>
    have same : records.filter (fun other => groupKey [] record == groupKey [] other) = records :=
      List.filter_eq_self.mpr fun _ _ => rfl
    have none : records.filter (fun other => !(groupKey [] record == groupKey [] other)) = [] :=
      List.filter_eq_nil_iff.mpr fun _ _ => Bool.false_ne_true
    rw [gather_cons, same, none]
    rfl

theorem groups_of_nonempty (nonempty : config.groupBy ≠ []) (records : List Record) :
    config.groups records = gather (groupKey config.groupBy) records := by
  rw [groups]
  split
  next _ none => exact absurd none nonempty
  next => rfl

/-- Without conditions there is a row for each group. -/
theorem rows_of_unconditional (unconditional : config.having = []) (records : List Record) :
    config.rows records = (config.groups records).map fun group => config.row group.1 group.2 := by
  rw [rows, unconditional, holdsAll_all]
  exact List.filter_eq_self.mpr fun _ _ => rfl

/-- All records have the empty key. -/
theorem membersOf_of_empty (empty : config.groupBy = []) (records : List Record) :
    config.membersOf records [] = records := by
  rw [membersOf, empty]
  exact List.filter_eq_self.mpr fun _ _ => rfl

section

variable (free : ∀ record ∈ records, (Value.list (groupKey config.groupBy record)).IsNaNFree)
  (distinct : ∀ record ∈ records, (Value.object record).HasDistinctNames)

include free distinct

theorem gather_eq_of_nonempty (nonempty : config.groupBy ≠ []) :
    gather (groupKey config.groupBy) records =
    (config.keys records).map fun key => (key, config.membersOf records key) := by
  rw [keys, if_neg nonempty]
  exact gather_groupKey free distinct

/-- The groups are those of the keys. -/
theorem groups_eq : config.groups records =
    (config.keys records).map fun key => (key, config.membersOf records key) := by
  by_cases empty : config.groupBy = []
  · rw [keys_of_empty empty, List.map_singleton, membersOf_of_empty empty, groups_of_empty empty]
  · rw [groups_of_nonempty empty, gather_eq_of_nonempty free distinct empty]

/-- Each record is in the group of one key, once. -/
theorem flatMap_membersOf :
    ((config.keys records).flatMap (config.membersOf records)).Perm records := by
  by_cases empty : config.groupBy = []
  · rw [keys_of_empty empty, List.flatMap_singleton, membersOf_of_empty empty]
  · have grouped := flatMap_gather (groupKey config.groupBy) records
    rwa [gather_eq_of_nonempty free distinct empty, List.flatMap_map] at grouped

theorem existsUnique_key {record : Record} (hrecord : record ∈ records) :
    ∃! key, key ∈ config.keys records ∧ record ∈ config.membersOf records key := by
  obtain ⟨key, hkey, hmember⟩ :=
    List.mem_flatMap.mp ((flatMap_membersOf free distinct).mem_iff.mpr hrecord)
  refine ⟨key, ⟨hkey, hmember⟩, fun other ⟨hother, hmember'⟩ => ?_⟩
  by_cases empty : config.groupBy = []
  · rw [keys_of_empty empty, List.mem_singleton] at hkey hother
    rw [hkey, hother]
  · -- Both keys equal that of the record, so they are equal, and no two of the different keys are.
    have comparison := isKeyComparison_groupKey config.groupBy distinct
    rw [keys, if_neg empty, ← map_fst_gather comparison] at hkey hother
    have within {k : List Value}
        (h : k ∈ (gather (groupKey config.groupBy) records).map Prod.fst) :=
      keys_gather_subset (groupKey config.groupBy) records h
    have own : groupKey config.groupBy record ∈ records.map (groupKey config.groupBy) :=
      List.mem_map_of_mem hrecord
    have same : (groupKey config.groupBy record == key) = true := (List.mem_filter.mp hmember).2
    have same' : (groupKey config.groupBy record == other) = true := (List.mem_filter.mp hmember').2
    have both : (other == key) = true := comparison.trans other (within hother) _ own key
      (within hkey) (comparison.symm _ own other (within hother) same') same
    exact eq_of_same_of_mem_keys comparison hother hkey both

end

/-- **An aggregation has a row for each of the different keys** whose row meets the conditions, in
the order in which the keys come up. The columns of a key are for the records that have it, in their
order. Each record has one of the keys. Without fields to group by there is one key, which all
records have, even if there are none. -/
theorem process_aggregate (now : Timestamp) (config : AggregateConfig) (records : List Record)
    (free : ∀ record ∈ records, (Value.list (groupKey config.groupBy record)).IsNaNFree)
    (distinct : ∀ record ∈ records, (Value.object record).HasDistinctNames) :
    StepConfig.process now [records]
    (.aggregate config) = .ok ⟨config.keyedRows records, records.length⟩ ∧
    ((config.keys records).flatMap (config.membersOf records)).Perm records ∧
    (∀ record ∈ records, ∃! key, key ∈ config.keys records ∧
      record ∈ config.membersOf records key) ∧
      (config.groupBy = [] →
        config.keys records = [[]] ∧ config.membersOf records [] = records) := by
  refine ⟨?_, flatMap_membersOf free distinct, fun record => existsUnique_key free distinct,
    fun empty => ⟨keys_of_empty empty records, membersOf_of_empty empty records⟩⟩
  have row (key : List Value) : config.row key (config.membersOf records key) =
      config.keyedRow key (config.membersOf records key) :=
    row_eq_keyedRow key fun record hrecord => distinct record (List.mem_filter.mp hrecord).1
  rw [StepConfig.process, StepConfig.onOne, rows, groups_eq free distinct, List.map_map, keyedRows]
  simp only [Function.comp_def, row, holdsAll_all]

/-- Sales by region, where more than one was made. -/
def salesByRegion : AggregateConfig where
  source := "sales"
  output := "regions"
  groupBy := ["region"]
  aggregations :=
    [⟨"*", .count, "sales"⟩, ⟨"amount", .sum, "total"⟩, ⟨"item", .countDistinct, "items"⟩]
  having := [⟨"sales", .gt, some (.int 1)⟩]

def sales : List Record :=
  [[("region", .int 1), ("amount", .int 10), ("item", .text "pen")], [("amount", .int 3)],
    [("region", .float 1.0), ("amount", .text "none"), ("item", .text "pen")], [("region", .int 2)],
    [("region", .null), ("amount", .int 4), ("item", .null)]]

theorem process_aggregate_sales : StepConfig.process .epoch [sales] (.aggregate salesByRegion) =
    .ok ⟨[[("region", .int 1), ("sales", .int 2), ("total", .int 10), ("items", .int 1)],
      [("region", .null), ("sales", .int 2), ("total", .int 7), ("items", .int 0)]], 5⟩ := by
  refine (process_aggregate _ salesByRegion sales (by decide) (by decide)).1.trans ?_
  rfl

end AggregateConfig

end RecordFlow
