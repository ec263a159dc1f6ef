import RecordFlow.Proofs.Step.Aggregating
import RecordFlow.Proofs.Step.Flattening

/-!
# Lists taken apart and collected

A step that takes lists apart makes a run of rows of each record, one for each item, and an
aggregation by a field that tells the records apart gathers the runs again. If it collects the
items, each record comes back with its list.

## Main definitions

* `Record.IsKeyedList` — a record of two fields, one by which it is known and one with a list
* `FlattenConfig.collecting` — the aggregation that collects what a step has taken apart

## Main results

* `AggregateFunction.fold_collect` — what is collected
* `FlattenConfig.process_collecting` — the records come back
-/

namespace RecordFlow

/-- What is collected are the values that are there, null among them. -/
theorem AggregateFunction.fold_collect (field : String) (records : List Record) :
    AggregateFunction.collect.fold field records =
      .list (records.filterMap (·.getPath? field)) := by
  rw [fold_eq_foldl, Accumulator.start, Accumulator.foldl_add_collect,
    List.append_nil, Accumulator.result, List.reverse_reverse,
    List.reduceOption, List.filterMap_map]
  rfl

namespace Record

variable {id field : String} {key : Value} {items : List Value} {record other : Record}

/-! ### Records of two fields -/

/-- Records with the same fields have the same values. -/
theorem get?_eq_of_perm (nodup : record.names.Nodup) (perm : record.Perm other) (name : String) :
    record.get? name = other.get? name := by
  have nodup' : other.names.Nodup := (perm.map Prod.fst).nodup_iff.mp nodup
  refine Option.ext fun value => ?_
  rw [get?, get?, lookup_eq_some_iff_mem nodup, lookup_eq_some_iff_mem nodup', perm.mem_iff]

/-- Records with the same fields are the same if their names have the same order. -/
theorem eq_of_perm_of_names (nodup : record.names.Nodup) (perm : record.Perm other)
    (order : record.names = other.names) : record = other := by
  induction record generalizing other with
  | nil => exact perm.nil_eq
  | cons field record ih =>
    obtain ⟨name, value⟩ := field
    cases other with
    | nil => cases order
    | cons field other =>
      obtain ⟨name', value'⟩ := field
      obtain ⟨rfl, rest⟩ := List.cons.inj order
      obtain ⟨fresh, nodup⟩ := List.nodup_cons.mp nodup
      have same : value = value' := by
        rcases List.mem_cons.mp (perm.subset (List.mem_cons_self ..)) with same | behind
        · exact (Prod.mk.inj same).2
        · exact absurd (rest ▸ List.mem_map_of_mem behind) fresh
      subst same
      rw [ih nodup perm.cons_inv rest]

/-- A record of exactly two fields, in either order: one by which it is known, without NaN, and one
with a list that is not empty. -/
def IsKeyedList (id field : String) (record : Record) : Prop :=
  ∃ key items, record.Perm [(id, key), (field, .list items)] ∧ key.IsNaNFree ∧ items ≠ []

theorem get?_of_perm_pair (nodup : record.names.Nodup) (different : id ≠ field)
    (perm : record.Perm [(id, key), (field, .list items)]) :
    record.get? id = some key ∧ record.get? field = some (.list items) := by
  rw [get?_eq_of_perm nodup perm, get?_eq_of_perm nodup perm, get?, get?,
    List.lookup_cons_self, lookup_cons_eq_ite, if_neg different.symm, List.lookup_cons_self]
  exact ⟨rfl, rfl⟩

end Record

namespace FlattenConfig

variable {config : FlattenConfig} {id output : String} {key : Value}
    {items : List Value} {record : Record}

/-! ### The rows of a record -/

/-- The aggregation by a field that collects what a step has taken apart. -/
def collecting (config : FlattenConfig) (id output : String) : AggregateConfig where
  source := config.output
  output := output
  groupBy := [id]
  aggregations := [⟨config.field, .collect, config.field⟩]
  having := []

section

variable (plainId : IsPlainName id) (plainField : IsPlainName config.field)
    (different : id ≠ config.field)

include plainField in
/-- Each row of a record has its item. -/
theorem getPath?_setPath_field (record : Record) (item : Value) :
    (record.setPath config.field item).getPath? config.field = some item :=
  Record.getPath?_setPath plainField.nonempty (fun dotted => absurd dotted plainField.noDot) item

include plainId plainField different in
/-- All rows of a record have its key. -/
theorem groupKey_setPath_field (record : Record) (item : Value) :
    groupKey [id] (record.setPath config.field item) = [(record.get? id).getD .null] := by
  have other : (pathSegments config.field).head? ≠ some id := by
    rw [pathSegments, Text.splitAtChar_of_not_mem plainField.noDot]
    simpa using different.symm
  rw [groupKey, List.map_singleton, Record.getPath?_of_isPlainName plainId,
    Record.get?_setPath other]

include plainField different in
/-- The row of a key has the items of its run. -/
theorem row_collecting (key : Value) (record : Record) (items : List Value) :
    (config.collecting id output).row [key] (items.map (record.setPath config.field)) =
      [(id, key), (config.field, .list items)] := by
  have own (item : Value) : (record.setPath config.field item).getPath? config.field = some item :=
    getPath?_setPath_field plainField record item
  have collected : AggregateFunction.collect.fold config.field
      (items.map (record.setPath config.field)) = .list items := by
    rw [AggregateFunction.fold_collect, List.filterMap_map]
    exact congrArg Value.list
      ((List.filterMap_congr fun item _ => own item).trans List.filterMap_some)
  have keyed : keyRow [id] [key] = [(id, key)] := rfl
  have value : (Aggregation.mk config.field .collect config.field).value
      (items.map (record.setPath config.field)) = .list items := by
    rw [Aggregation.value, if_neg (by simp), collected]
  rw [AggregateConfig.row, collecting, List.foldl_cons, List.foldl_nil, keyed,
    value, Record.insert_of_notMem]
  · rfl
  · simpa [Record.names] using different.symm

/-! ### Records and their runs -/

include plainField different in
/-- A record has one row for each of its items, and what it is known by is a key like any other. -/
theorem exists_rows_of_isKeyedList (inPlace : config.into = config.field)
    (keyed : record.IsKeyedList id config.field)
    (distinct : (Value.object record).HasDistinctNames) :
    ∃ key items, record.Perm [(id, key), (config.field, .list items)] ∧ record.get? id = some key ∧
      key.IsNaNFree ∧ key.HasDistinctNames ∧ items ≠ [] ∧
        config.rowsOf record = items.map (record.setPath config.field) := by
  obtain ⟨key, items, perm, free, nonempty⟩ := keyed
  obtain ⟨known, list⟩ :=
    Record.get?_of_perm_pair (Value.hasDistinctNames_object_iff.mp distinct).1 different perm
  have found := (Record.getPath?_of_isPlainName plainField record).trans list
  refine ⟨key, items, perm, known, free, distinct.get? known, nonempty, ?_⟩
  rw [rowsOf_eq found nonempty, inPlace]

include plainId plainField different in
/-- No two runs have equal keys, so that the groups are the runs. -/
theorem gather_flatMap_rowsOf (inPlace : config.into = config.field) {records : List Record}
    (lists : ∀ record ∈ records, record.IsKeyedList id config.field)
    (distinct : ∀ record ∈ records, (Value.object record).HasDistinctNames)
    (apart : records.Pairwise fun record later => (record.get? id == later.get? id) = false) :
    gather (groupKey [id]) (records.flatMap config.rowsOf) =
      records.map fun record => ([(record.get? id).getD .null], config.rowsOf record) := by
  have parts (record : Record) (hrecord : record ∈ records) :=
    exists_rows_of_isKeyedList plainField different inPlace (lists record hrecord)
      (distinct record hrecord)
  refine gather_flatMap (fun record hrecord => ?_) (fun record hrecord row hrow => ?_)
    (fun record hrecord => ?_) ?_
  · obtain ⟨key, items, -, -, -, -, nonempty, rows⟩ := parts record hrecord
    rw [rows]
    exact mt List.map_eq_nil_iff.mp nonempty
  · obtain ⟨key, items, -, -, -, -, -, rows⟩ := parts record hrecord
    rw [rows] at hrow
    obtain ⟨item, -, rfl⟩ := List.mem_map.mp hrow
    exact groupKey_setPath_field plainId plainField different record item
  · obtain ⟨key, items, -, known, free, names, -⟩ := parts record hrecord
    rw [known]
    exact (Bool.and_true _).trans (Value.same_refl free names)
  · -- Both records have a key, so that unequal fields are unequal keys.
    refine apart.imp_of_mem fun {record later} hrecord hlater other => ?_
    obtain ⟨key, -, -, known, -⟩ := parts record hrecord
    obtain ⟨key', -, -, known', -⟩ := parts later hlater
    rw [known, known'] at other ⊢
    exact (Bool.and_true _).trans other

end

/-- **Collecting undoes taking apart.** Of records with exactly two fields, one by which no
two of them are equal and one with a list that is not empty, the lists are taken apart in
place and then collected by the other field. The records come back in their order, each with
the same two fields: the one by which it is known comes first. So a record in which it has
been the first one is the same as before. -/
theorem process_collecting (now : Timestamp) (config : FlattenConfig)
    (inPlace : config.into = config.field) (id output : String) (plainId : IsPlainName id)
    (plainField : IsPlainName config.field) (different : id ≠ config.field) (records : List Record)
    (lists : ∀ record ∈ records, record.IsKeyedList id config.field)
    (distinct : ∀ record ∈ records, (Value.object record).HasDistinctNames)
    (apart : records.Pairwise fun record later => (record.get? id == later.get? id) = false) :
    ∃ flat back, StepConfig.process now [records] (.flatten config) = .ok ⟨flat, records.length⟩ ∧
      StepConfig.process now [flat]
      (.aggregate (config.collecting id output)) = .ok ⟨back, flat.length⟩ ∧
      List.Forall₂ (fun record row => row.Perm record ∧
        (record.names = [id, config.field] → row = record)) records back := by
  refine ⟨_, _, rfl, rfl, ?_⟩
  have groupBy : (config.collecting id output).groupBy = [id] := rfl
  rw [AggregateConfig.rows_of_unconditional rfl, AggregateConfig.groups_of_nonempty
    (List.cons_ne_nil id []), rows, groupBy,
    gather_flatMap_rowsOf plainId plainField different inPlace lists distinct apart, List.map_map]
  refine List.forall₂_map_right_iff.mpr (List.forall₂_same.mpr fun record hrecord => ?_)
  obtain ⟨key, items, perm, known, -, -, -, rows⟩ :=
    exists_rows_of_isKeyedList plainField different inPlace (lists record hrecord)
      (distinct record hrecord)
  have nodup := (Value.hasDistinctNames_object_iff.mp (distinct record hrecord)).1
  rw [Function.comp_apply, known, rows, Option.getD_some, row_collecting plainField different]
  exact ⟨perm.symm, fun order => (Record.eq_of_perm_of_names nodup perm order).symm⟩

/-- The items of baskets, one by one. -/
def basketItems : FlattenConfig where
  source := "baskets"
  output := "items"
  field := "items"
  target := none
  preserveEmpty := false

/-- A basket with nothing next to an item, and one whose items come first. -/
def baskets : List Record :=
  [[("id", .int 1), ("items", .list [.text "pen", .null])],
    [("items", .list [.list [], .float 0.5]), ("id", .null)]]

theorem process_collecting_baskets : ∃ flat first second,
    StepConfig.process .epoch [baskets] (.flatten basketItems) = .ok ⟨flat, 2⟩ ∧
      StepConfig.process .epoch [flat] (.aggregate (basketItems.collecting "id" "again")) =
        .ok ⟨[first, second], flat.length⟩ ∧
      first = [("id", .int 1), ("items", .list [.text "pen", .null])] ∧
      second.Perm [("items", .list [.list [], .float 0.5]), ("id", .null)] := by
  have lists : ∀ record ∈ baskets, record.IsKeyedList "id" "items" := by
    refine List.forall_mem_cons.mpr ⟨?_, List.forall_mem_singleton.mpr ?_⟩
    · exact ⟨.int 1, [.text "pen", .null], .refl _, by decide, List.cons_ne_nil _ _⟩
    · exact ⟨.null, [.list [], .float 0.5], .swap _ _ _, by decide, List.cons_ne_nil _ _⟩
  obtain ⟨flat, back, taken, collected, rows⟩ :=
    process_collecting .epoch basketItems rfl "id" "again" ⟨by decide, by decide⟩
      ⟨by decide, by decide⟩ (by decide) baskets lists (by decide) (by decide)
  obtain ⟨first, others, ⟨-, same⟩, rest, rfl⟩ := List.forall₂_cons_left_iff.mp rows
  obtain ⟨second, nobody, ⟨perm, -⟩, nothing, rfl⟩ := List.forall₂_cons_left_iff.mp rest
  obtain rfl := List.forall₂_nil_left_iff.mp nothing
  exact ⟨flat, first, second, taken, collected, same rfl, perm⟩

end FlattenConfig

end RecordFlow
