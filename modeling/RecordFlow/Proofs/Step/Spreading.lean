import RecordFlow.Proofs.Step.Aggregating
import RecordFlow.Proofs.Step.Pivoting

/-!
# The rows of a pivot

The row of a group starts with the key of the group, and the cells of its columns are put into it.
The names of the columns come from the records, so a column may have the name of a field of the key,
and its cell takes the place of the value that tells the groups apart. Apart from that, the cells
are what an aggregation by the key and the field of the columns computes.

## Main definitions

* `PivotConfig.cells` — the cells of a group
* `PivotConfig.IsRowOfGroup` — what a row has in the fields of the key of its group
* `PivotConfig.asAggregate`, `PivotConfig.IsRowOfKey` — the aggregation that computes the
  cells, and a row that is got from it

## Main results

* `PivotConfig.row_eq_overwrite`, `PivotConfig.get?_row`,
  `PivotConfig.names_row` — the fields of a row
* `PivotConfig.process_pivot_keys` — the key of a group in its row
* `PivotConfig.process_pivot_aggregate` — a pivot is an aggregation in another shape
-/

namespace RecordFlow

/-! ### The fields of a row -/

section

variable (fields : List String) (record : Record)

theorem zip_groupKey :
    fields.zip (groupKey fields record) = fields.map fun name =>
      (name, (record.getPath? name).getD .null) := by
  have mapped : (fields.map id).zip (groupKey fields record) =
      fields.map fun name => (id name, (record.getPath? name).getD .null) := List.zip_map'
  rwa [List.map_id] at mapped

/-- A row that starts with the key of a record has the values that the key was taken from. -/
theorem get?_keyRow (name : String) : (keyRow fields (groupKey fields record)).get? name =
    if name ∈ fields then some ((record.getPath? name).getD .null) else none := by
  -- A later field takes the place of an earlier one, so the fields are looked through from behind.
  have found :=
    lookup_filterMap fields.reverse (fun name => some ((record.getPath? name).getD .null)) name
  simp only [Option.map_some, List.mem_reverse] at found
  rw [keyRow, Record.get?_ofFields, zip_groupKey, ← List.map_reverse,
    ← found, ← List.filterMap_eq_map]
  rfl

theorem get?_keyRow_of_mem_zip {field : String × Value}
    (h : field ∈ fields.zip (groupKey fields record)) :
    (keyRow fields (groupKey fields record)).get? field.1 = some field.2 := by
  rw [zip_groupKey] at h
  obtain ⟨name, hname, rfl⟩ := List.mem_map.mp h
  rw [get?_keyRow, if_pos hname]

theorem names_keyRow : (keyRow fields (groupKey fields record)).names = fields.eraseDups := by
  rw [keyRow, Record.names_ofFields, List.map_fst_zip (by rw [groupKey, List.length_map])]

end

namespace PivotConfig

variable {config : PivotConfig} {records members : List Record} {record : Record} {key : List Value}
  {columns : List String} {column : String}

/-- The cells of a group. -/
def cells (config : PivotConfig) (columns : List String) (members : List Record) : Record :=
  columns.filterMap fun column => (config.cell? members column).map (column, ·)

theorem names_cells (columns : List String) (members : List Record) :
    (config.cells columns members).names = columns.filter fun column =>
      (config.cell? members column).isSome := by
  rw [Record.names, cells, List.map_filterMap, ← List.filterMap_eq_filter]
  refine List.filterMap_congr fun column _ => ?_
  cases found : config.cell? members column <;> simp [Option.guard, found]

theorem get?_cells (columns : List String) (members : List Record) (name : String) :
    (config.cells columns members).get? name =
      if name ∈ columns then config.cell? members name else none :=
  lookup_filterMap columns (config.cell? members) name

/-- A row is that of the key with the cells put into it. -/
theorem row_eq_overwrite (columns : List String) (key : List Value) (members : List Record) :
    config.row columns key members =
      (keyRow config.groupBy key).overwrite (config.cells columns members) := by
  rw [row, Record.overwrite, cells, List.foldl_filterMap]
  refine congrArg (fun add => columns.foldl add (keyRow config.groupBy key))
    (funext fun row => funext fun column => ?_)
  cases config.cell? members column <;> rfl

variable (nodup : columns.Nodup)

include nodup

theorem nodup_names_cells (members : List Record) : (config.cells columns members).names.Nodup := by
  rw [names_cells]
  exact nodup.filter _

theorem get?_row (key : List Value) (members : List Record) (name : String) :
    (config.row columns key members).get? name =
      (if name ∈ columns then config.cell? members name else none).or
        ((keyRow config.groupBy key).get? name) := by
  rw [row_eq_overwrite, Record.get?_overwrite _ (nodup_names_cells nodup members), get?_cells]

theorem names_row (key : List Value) (members : List Record) :
    (config.row columns key members).names =
    (keyRow config.groupBy key).names ++ columns.filter fun column =>
      column ∉ (keyRow config.groupBy key).names ∧ (config.cell? members column).isSome := by
  rw [row_eq_overwrite, Record.names_overwrite _ (nodup_names_cells nodup members),
    names_cells, List.filter_filter]
  simp only [Bool.decide_and, Bool.decide_eq_true]

omit nodup

/-! ### Columns and cells -/

theorem nodup_columns (config : PivotConfig) (records : List Record) :
    (config.columns records).Nodup :=
  nodup_keepFirst_id _ _

/-- The cell of a column that some records of the group count to. -/
theorem cell?_of_exists {column : String}
    (h : ∃ record ∈ members, config.column? record = some column) :
    config.cell? members column = some (config.aggregation.fold config.valueField
      (members.filter fun record => config.column? record == some column)) := by
  obtain ⟨record, hrecord, counted⟩ := h
  have some : record ∈ members.filter fun record => config.column? record == some column :=
    List.mem_filter.mpr ⟨hrecord, by simp [counted]⟩
  rw [cell?]
  split
  next none => rw [none] at some; cases some
  next => rfl

/-- The cell of a column that no record of the group counts to. -/
theorem cell?_of_forall {column : String}
    (h : ∀ record ∈ members, config.column? record ≠ some column) :
    config.cell? members column = config.aggregation.empty? := by
  have none : members.filter (fun record => config.column? record == some column) = [] :=
    List.filter_eq_nil_iff.mpr fun record hrecord => by simpa using h record hrecord
  rw [cell?, none]

/-- A column whose name is not that of a field of the key has its cell. -/
theorem get?_row_of_notMem {first : Record} {name : String} (column : name ∈ config.columns records)
    (new : name ∉ config.groupBy) :
    (config.row (config.columns records) (groupKey config.groupBy first) members).get? name =
      config.cell? members name := by
  rw [get?_row (nodup_columns config records), if_pos column, get?_keyRow,
    if_neg new, Option.or_none]

/-! ### The key of a group in its row -/

/-- What a row has in the fields of the key of its group. A field is that of the key unless a column
has its name. The cell of such a column takes its place if a record of the group counts to it, or if
the function has a value for no records. -/
structure IsRowOfGroup (config : PivotConfig) (records : List Record)
    (group : List Value × List Record) (row : Record) : Prop where
  kept : ∀ field ∈ config.groupBy.zip group.1,
    (∀ record ∈ records, config.column? record ≠ some field.1) → row.get? field.1 = some field.2
  replaced : ∀ name ∈ config.groupBy, (∃ record ∈ group.2, config.column? record = some name) →
    row.get? name = some (config.aggregation.fold config.valueField
      (group.2.filter fun record => config.column? record == some name))
  filled : ∀ field ∈ config.groupBy.zip group.1,
    (∃ record ∈ records, config.column? record = some field.1) →
    (∀ record ∈ group.2, config.column? record ≠ some field.1) →
    row.get? field.1 = some (config.aggregation.empty?.getD field.2)

theorem isRowOfGroup_row (config : PivotConfig) (first : Record) (within : members ⊆ records) :
    config.IsRowOfGroup records (groupKey config.groupBy first, members)
      (config.row (config.columns records) (groupKey config.groupBy first) members) where
  kept field hfield free := by
    have new : field.1 ∉ config.columns records := fun h =>
      have ⟨record, hrecord, counted⟩ := mem_columns_iff.mp h
      free record hrecord counted
    rw [get?_row (nodup_columns config records), if_neg new, Option.none_or,
      get?_keyRow_of_mem_zip _ _ hfield]
  replaced name _ counted := by
    have column : name ∈ config.columns records :=
      mem_columns_iff.mpr (counted.imp fun record h => ⟨within h.1, h.2⟩)
    rw [get?_row (nodup_columns config records), if_pos column,
      cell?_of_exists counted, Option.some_or]
  filled field hfield column free := by
    rw [get?_row (nodup_columns config records), if_pos (mem_columns_iff.mpr column),
      cell?_of_forall free, get?_keyRow_of_mem_zip _ _ hfield]
    cases config.aggregation.empty? <;> rfl

/-- **The row of a group has the key of the group in the fields whose names are no columns.** A
value of the pivot field that is the name of such a field makes a column of it, and the cell of the
column takes the place of the value by which the group is known: in the rows of the groups with such
a record, and for functions that count also in all others. -/
theorem process_pivot_keys (now : Timestamp) (config : PivotConfig) (records : List Record) :
    ∃ rows, StepConfig.process now [records] (.pivot config) = .ok ⟨rows, records.length⟩ ∧
      List.Forall₂ (fun group row => ∃ first others,
        group = (groupKey config.groupBy first, first :: others) ∧
          (∀ record ∈ others,
            (groupKey config.groupBy first == groupKey config.groupBy record) = true) ∧
          config.IsRowOfGroup records group row)
        (gather (groupKey config.groupBy) records) rows := by
  refine ⟨_, rfl, List.forall₂_map_right_iff.mpr (List.forall₂_same.mpr fun group hgroup => ?_)⟩
  have within : group.2 ⊆ records := fun record => IsLongForm.mem_of_mem_group hgroup
  obtain ⟨first, others, rfl, each⟩ := eq_cons_of_mem_gather hgroup
  exact ⟨first, others, rfl, each, isRowOfGroup_row config first within⟩

/-- Events by region, with the amounts of each kind in a column. -/
def eventsByRegion : PivotConfig where
  source := "events"
  output := "totals"
  groupBy := ["region"]
  pivotField := "kind"
  valueField := "amount"
  aggregation := .sum

/-- Events of two regions, one of which is of the kind that has the name
of the field of the regions. -/
def events : List Record :=
  [[("region", .text "north"), ("kind", .text "region"), ("amount", .int 3)],
    [("region", .text "south"), ("kind", .text "sale"), ("amount", .int 5)]]

/-- The amount of a column takes the place of the region by which its row is known. -/
theorem process_pivot_events :
    StepConfig.process .epoch [events] (.pivot eventsByRegion) =
      .ok ⟨[[("region", .int 3)], [("region", .text "south"), ("sale", .int 5)]], 2⟩ ∧
    ¬∀ (now : Timestamp) (config : PivotConfig) (records : List Record), config.groupBy.Nodup →
      ∀ output, StepConfig.process now [records] (.pivot config) = .ok output →
        List.Forall₂ (fun group row => ∀ field ∈ config.groupBy.zip group.1,
          row.get? field.1 = some field.2)
          (gather (groupKey config.groupBy) records) output.records := by
  have rows : StepConfig.process .epoch [events] (.pivot eventsByRegion) =
      .ok ⟨[[("region", .int 3)], [("region", .text "south"), ("sale", .int 5)]], 2⟩ := by rfl
  refine ⟨rows, fun keeps => ?_⟩
  have groups : gather (groupKey eventsByRegion.groupBy) events =
      [([.text "north"], events.take 1), ([.text "south"], events.drop 1)] := by rfl
  have keys := keeps _ _ _ (by decide) _ rows
  rw [groups, List.forall₂_cons] at keys
  have kept := keys.1 ("region", .text "north") (List.mem_cons_self ..)
  cases kept

/-! ### A pivot as an aggregation -/

/-- The aggregation by the key and the field of the columns, which
computes the cells in a column. -/
def asAggregate (config : PivotConfig) (column : String) : AggregateConfig where
  source := config.source
  output := config.output
  groupBy := config.groupBy ++ [config.pivotField]
  aggregations := [⟨config.valueField, config.aggregation, column⟩]
  having := []

/-- The texts of the pivot field, in the order in which they come up. -/
def texts (config : PivotConfig) (records : List Record) : List String :=
  (records.filterMap fun record => (record.getPath? config.pivotField).bind Value.asText?).eraseDups

/-- The values of some fields of a row. -/
def valuesOf (fields : List String) (row : Record) : List Value :=
  fields.map fun name => (row.get? name).getD .null

/-- The records with the key of a record. -/
def membersOf (config : PivotConfig) (records : List Record) (first : Record) : List Record :=
  records.filter fun record => groupKey config.groupBy record == groupKey config.groupBy first

/-- The row of a pivot for a key, got from the rows of the aggregation: it has the key, for each
text the value that the aggregation has for the key with this text, and where the aggregation has
none, zero if the function counts. -/
structure IsRowOfKey (config : PivotConfig) (texts : List String) (column : String)
    (aggregated : List Record) (key : List Value) (row : Record) : Prop where
  kept : ∀ field ∈ config.groupBy.zip key, field.1 ∉ texts → row.get? field.1 = some field.2
  cell : ∀ text ∉ config.groupBy, ∀ out ∈ aggregated,
    (valuesOf (config.groupBy ++ [config.pivotField]) out == key ++ [.text text]) = true →
    text ∈ texts ∧ row.get? text = out.get? column ∧ (out.get? column).isSome = true
  empty : ∀ text ∈ texts, text ∉ config.groupBy →
    (∀ out ∈ aggregated,
      (valuesOf (config.groupBy ++ [config.pivotField]) out == key ++ [.text text]) = false) →
    row.get? text = if config.aggregation = .count ∨
    config.aggregation = .countDistinct then some (.int 0) else none
  names : row.names =
    config.groupBy.eraseDups ++ texts.filter fun text => text ∉ config.groupBy ∧
    (row.get? text).isSome = true

theorem groupKey_concat (fields : List String) (field : String) (record : Record) :
    groupKey (fields ++ [field]) record =
      groupKey fields record ++ [(record.getPath? field).getD .null] :=
  List.map_append ..

theorem valuesOf_keyRow (fields : List String) (record : Record) :
    valuesOf fields (keyRow fields (groupKey fields record)) = groupKey fields record :=
  List.map_congr_left fun name hname => by rw [get?_keyRow, if_pos hname, Option.getD_some]

section

variable (named : config.valueField ≠ "*")

include named

/-- A row of the aggregation has the key and one more column. -/
theorem row_asAggregate (key : List Value) (members : List Record) :
    (config.asAggregate column).row key members =
    (keyRow (config.groupBy ++ [config.pivotField]) key).insert column
      (config.aggregation.fold config.valueField members) := by
  have value : Aggregation.value ⟨config.valueField, config.aggregation, column⟩ members =
      config.aggregation.fold config.valueField members := if_neg fun h => named h.2
  rw [AggregateConfig.row, asAggregate, List.foldl_cons, List.foldl_nil, value]

theorem get?_row_asAggregate (key : List Value) (members : List Record) :
    ((config.asAggregate column).row key members).get? column =
      some (config.aggregation.fold config.valueField members) := by
  rw [row_asAggregate named, Record.get?_insert, if_pos rfl]

theorem valuesOf_row_asAggregate (new : column ∉ config.groupBy ++ [config.pivotField])
    (record : Record) (members : List Record) :
    let fields := config.groupBy ++ [config.pivotField]
    valuesOf fields ((config.asAggregate column).row (groupKey fields record) members) =
      groupKey fields record := by
  intro fields
  rw [row_asAggregate named]
  refine (List.map_congr_left fun name hname => ?_).trans (valuesOf_keyRow fields record)
  have other : name ≠ column := fun same => new (same ▸ hname)
  rw [Record.get?_insert, if_neg other]

end

/-- The keys of the aggregation are those of records. -/
theorem exists_of_mem_keys (distinct : ∀ record ∈ records, (Value.object record).HasDistinctNames)
    (hkey : key ∈ (config.asAggregate column).keys records) :
    ∃ other ∈ records, groupKey (config.groupBy ++ [config.pivotField]) other = key := by
  have comparison :=
    AggregateConfig.isKeyComparison_groupKey (config.groupBy ++ [config.pivotField]) distinct
  rw [AggregateConfig.keys, if_neg (by simp [asAggregate])] at hkey
  exact exists_of_mem_eraseDups comparison hkey

theorem empty?_eq (function : AggregateFunction) :
    function.empty? = if function = .count ∨
      function = .countDistinct then some (.int 0) else none := by
  cases function <;> rfl

section

variable (texts : ∀ record ∈ records, ∀ value, record.getPath? config.pivotField = some value → ∃ s,
      value = .text s)

include texts

theorem columns_eq_texts : config.columns records = config.texts records := by
  rw [columns_eq, PivotConfig.texts]
  refine congrArg _ (List.filterMap_congr fun record hrecord => ?_)
  rw [column?]
  cases found : record.getPath? config.pivotField with
  | none => rfl
  | some value =>
    obtain ⟨s, rfl⟩ := texts record hrecord value found
    rfl

/-- A record counts to a column if its pivot field is the text. -/
theorem column?_eq_iff (hrecord : record ∈ records) {text : String} :
    config.column? record = some text ↔
    (((record.getPath? config.pivotField).getD .null) == .text text) = true := by
  rw [column?]
  cases found : record.getPath? config.pivotField with
  | none => simp [Value.null_same_iff]
  | some value =>
    obtain ⟨s, rfl⟩ := texts record hrecord value found
    simp [Value.text_same_iff, Value.display]

section

variable (free : ∀ record ∈ records, (Value.list (groupKey config.groupBy record)).IsNaNFree)
  (distinct : ∀ record ∈ records, (Value.object record).HasDistinctNames)

theorem isNaNFree_groupKey_concat (hrecord : record ∈ records)
    (free : (Value.list (groupKey config.groupBy record)).IsNaNFree) :
    (Value.list (groupKey (config.groupBy ++ [config.pivotField]) record)).IsNaNFree := by
  rw [groupKey_concat]
  cases free with
  | list each =>
    refine .list (List.forall_mem_append.mpr ⟨each, List.forall_mem_singleton.mpr ?_⟩)
    cases found : record.getPath? config.pivotField with
    | none => exact .null
    | some value =>
      obtain ⟨s, rfl⟩ := texts record hrecord value found
      exact .text s

include distinct

theorem mem_membersOf_self (hrecord : record ∈ records)
    (free : (Value.list (groupKey config.groupBy record)).IsNaNFree) (column : String) :
    record ∈ (config.asAggregate column).membersOf records
      (groupKey (config.groupBy ++ [config.pivotField]) record) := by
  refine List.mem_filter.mpr ⟨hrecord, ?_⟩
  rw [asAggregate, beq_eq_list_same]
  exact Value.same_refl (isNaNFree_groupKey_concat texts hrecord free)
    (AggregateConfig.hasDistinctNames_groupKey _ (distinct record hrecord))

/-- The records of a group that count to a column are those that the aggregation
gathers by the key with its text. -/
theorem filter_column? {first other : Record} (hfirst : first ∈ records) (hother : other ∈ records)
    {text : String} (same : (groupKey (config.groupBy ++ [config.pivotField]) other ==
      groupKey config.groupBy first ++ [.text text]) = true) (column : String) :
    (config.membersOf records first).filter (fun record => config.column? record == some text) =
      (config.asAggregate column).membersOf records
        (groupKey (config.groupBy ++ [config.pivotField]) other) := by
  have key (record : Record) (hrecord : record ∈ records) :=
    AggregateConfig.hasDistinctNames_groupKey (config.groupBy ++ [config.pivotField])
      (distinct record hrecord)
  have extended : (Value.list (groupKey config.groupBy first ++ [.text text])).HasDistinctNames :=
    .list (List.forall_mem_append.mpr ⟨Value.hasDistinctNames_list_iff.mp
      (AggregateConfig.hasDistinctNames_groupKey config.groupBy (distinct first hfirst)),
      List.forall_mem_singleton.mpr (.text text)⟩)
  rw [membersOf, AggregateConfig.membersOf, List.filter_filter]
  refine List.filter_congr fun record hrecord => ?_
  have comparison : IsKeyComparison [groupKey (config.groupBy ++ [config.pivotField]) record,
      groupKey (config.groupBy ++ [config.pivotField]) other,
      groupKey config.groupBy first ++ [.text text]] :=
    isKeyComparison_of_hasDistinctNames
      (by simpa using ⟨key record hrecord, key other hother, extended⟩)
  have counted : (config.column? record == some text) =
      (((record.getPath? config.pivotField).getD .null) == .text text) := by
    rw [Bool.eq_iff_iff, beq_iff_eq, column?_eq_iff texts hrecord]
  rw [asAggregate, comparison.congr_right (by simp) (by simp) (by simp) same, groupKey_concat,
    concat_beq_concat, counted, Bool.and_comm]

include free

theorem rows_asAggregate (column : String) : (config.asAggregate column).rows records =
    ((config.asAggregate column).keys records).map fun key =>
      (config.asAggregate column).row key ((config.asAggregate column).membersOf records key) := by
  rw [AggregateConfig.rows, AggregateConfig.groups_eq (fun record hrecord =>
    isNaNFree_groupKey_concat texts hrecord (free record hrecord)) distinct, List.map_map]
  exact List.filter_eq_self.mpr fun _ _ => rfl

variable (named : config.valueField ≠ "*") (new : column ∉ config.groupBy ++ [config.pivotField])

include named new

/-- The aggregation has a row with a key that a record has. -/
theorem exists_mem_rows (hrecord : record ∈ records)
    (same : (groupKey (config.groupBy ++ [config.pivotField]) record == key) = true) :
    ∃ out ∈ (config.asAggregate column).rows records,
      (valuesOf (config.groupBy ++ [config.pivotField]) out == key) = true := by
  have hkey (record : Record) (hrecord : record ∈ records) :=
    AggregateConfig.hasDistinctNames_groupKey (config.groupBy ++ [config.pivotField])
      (distinct record hrecord)
  -- The record is gathered by a key of the aggregation, which is that of some other record.
  have gathered : ∃! key, key ∈ (config.asAggregate column).keys records ∧
      record ∈ (config.asAggregate column).membersOf records key :=
    AggregateConfig.existsUnique_key
      (fun record hrecord => isNaNFree_groupKey_concat texts hrecord (free record hrecord))
      distinct hrecord
  obtain ⟨_, ⟨hmem, hmember⟩, -⟩ := gathered
  have own := (List.mem_filter.mp hmember).2
  obtain ⟨other, hother, rfl⟩ := exists_of_mem_keys distinct hmem
  rw [rows_asAggregate texts free distinct]
  refine ⟨_, List.mem_map_of_mem hmem, ?_⟩
  rw [asAggregate, beq_eq_list_same] at own
  rw [valuesOf_row_asAggregate named new, beq_eq_list_same]
  rw [beq_eq_list_same] at same
  exact Value.same_trans (Value.same_symm (hkey record hrecord) (hkey other hother) own) same

/-- The column of a text has the value that the aggregation has for the key with the text. -/
theorem get?_row_of_mem_rows {first out : Record} (hfirst : first ∈ records) {text : String}
    (htext : text ∉ config.groupBy) (hout : out ∈ (config.asAggregate column).rows records)
    (same : (valuesOf (config.groupBy ++ [config.pivotField]) out ==
      groupKey config.groupBy first ++ [.text text]) = true) :
    text ∈ config.columns records ∧
      (config.row (config.columns records) (groupKey config.groupBy first)
        (config.membersOf records first)).get? text =
        out.get? column ∧ (out.get? column).isSome = true := by
  rw [rows_asAggregate texts free distinct] at hout
  obtain ⟨_, hmem, rfl⟩ := List.mem_map.mp hout
  obtain ⟨other, hother, rfl⟩ := exists_of_mem_keys distinct hmem
  rw [valuesOf_row_asAggregate named new] at same
  -- The record that the key was taken from is one of those that count to the column.
  have members := filter_column? texts distinct hfirst hother same column
  have own := mem_membersOf_self texts distinct hother (free other hother) column
  rw [← members] at own
  obtain ⟨hmember, counted⟩ := List.mem_filter.mp own
  have counted : config.column? other = some text := by simpa using counted
  have hmem : text ∈ config.columns records := mem_columns_iff.mpr ⟨other, hother, counted⟩
  rw [get?_row_of_notMem hmem htext, cell?_of_exists ⟨other, hmember, counted⟩, members,
    get?_row_asAggregate named]
  exact ⟨hmem, rfl, rfl⟩

/-- If the aggregation has no value for the key with a text, the column has that for no records. -/
theorem get?_row_of_forall_rows {first : Record} {text : String}
    (hmem : text ∈ config.columns records) (htext : text ∉ config.groupBy)
    (none : ∀ out ∈ (config.asAggregate column).rows records,
      (valuesOf (config.groupBy ++ [config.pivotField]) out ==
        groupKey config.groupBy first ++ [.text text]) = false) :
    (config.row (config.columns records) (groupKey config.groupBy first)
      (config.membersOf records first)).get? text = config.aggregation.empty? := by
  rw [get?_row_of_notMem hmem htext]
  refine cell?_of_forall fun record hmember counted => ?_
  obtain ⟨hrecord, same⟩ := List.mem_filter.mp hmember
  have extended : (groupKey (config.groupBy ++ [config.pivotField]) record ==
      groupKey config.groupBy first ++ [.text text]) = true := by
    rw [groupKey_concat, concat_beq_concat, same, (column?_eq_iff texts hrecord).mp counted,
      Bool.and_self]
  obtain ⟨out, hout, found⟩ := exists_mem_rows texts free distinct named new hrecord extended
  rw [none out hout] at found
  cases found

/-- The row of a group is that of its key. -/
theorem isRowOfKey_row {first : Record} (hfirst : first ∈ records) :
    config.IsRowOfKey (config.texts records) column ((config.asAggregate column).rows records)
      (groupKey config.groupBy first)
      (config.row (config.columns records) (groupKey config.groupBy first)
        (config.membersOf records first)) := by
  rw [← columns_eq_texts texts]
  constructor
  case kept =>
    intro field hfield absent
    refine (isRowOfGroup_row config first (List.filter_subset_self _)).kept field hfield
      fun record hrecord counted => ?_
    exact absent (mem_columns_iff.mpr ⟨record, hrecord, counted⟩)
  case cell =>
    intro text htext out hout same
    exact get?_row_of_mem_rows texts free distinct named new hfirst htext hout same
  case empty =>
    intro text hmem htext none
    rw [get?_row_of_forall_rows texts free distinct named new hmem htext none, empty?_eq]
  case names =>
    -- The column of a field of the key is not behind the key but in the place of the field.
    rw [names_row (nodup_columns config records), names_keyRow]
    refine congrArg _ (List.filter_congr fun text hmem => ?_)
    by_cases htext : text ∈ config.groupBy
    · simp [htext]
    · simp [htext, get?_row_of_notMem hmem htext]

end

end

/-- **A pivot is an aggregation in another shape.** It has a row for each of the different keys, in
the order in which they come up. In the row of a key, the column of a text has the value that the
aggregation by the key and the pivot field has for this key with the text. If the aggregation has
none, the column has zero for functions that count and is not there for others. The columns come
behind the key, in the order in which their texts come up among all records. -/
theorem process_pivot_aggregate (now : Timestamp) (config : PivotConfig) (records : List Record)
    (named : config.valueField ≠ "*")
    (free : ∀ record ∈ records, (Value.list (groupKey config.groupBy record)).IsNaNFree)
    (distinct : ∀ record ∈ records, (Value.object record).HasDistinctNames)
    (texts : ∀ record ∈ records, ∀ value, record.getPath? config.pivotField = some value → ∃ s,
      value = .text s) (column : String) (new : column ∉ config.groupBy ++ [config.pivotField]) :
    ∃ pivoted aggregated,
      StepConfig.process now [records] (.pivot config) = .ok ⟨pivoted, records.length⟩ ∧
      StepConfig.process now [records]
      (.aggregate (config.asAggregate column)) = .ok ⟨aggregated, records.length⟩ ∧
      List.Forall₂ (config.IsRowOfKey (config.texts records) column aggregated)
        (records.map (groupKey config.groupBy)).eraseDups pivoted := by
  refine ⟨_, _, rfl, rfl, ?_⟩
  have comparison := AggregateConfig.isKeyComparison_groupKey config.groupBy distinct
  rw [rows, AggregateConfig.gather_groupKey free distinct, byKey, List.map_map]
  refine List.forall₂_map_right_iff.mpr (List.forall₂_same.mpr fun key hkey => ?_)
  obtain ⟨first, hfirst, rfl⟩ := exists_of_mem_eraseDups comparison hkey
  exact isRowOfKey_row texts free distinct named new hfirst

/-- Takings of each region, with a column for each quarter. -/
def takingsByRegion : PivotConfig where
  source := "takings"
  output := "quarters"
  groupBy := ["region"]
  pivotField := "quarter"
  valueField := "amount"
  aggregation := .sum

/-- Takings of two regions. The first one comes up as an integer and as a float,
and once without a quarter. -/
def takings : List Record :=
  [[("region", .int 1), ("quarter", .text "first"), ("amount", .int 10)],
    [("region", .int 2), ("quarter", .text "second"), ("amount", .int 5)],
    [("region", .float 1.0), ("quarter", .text "first"), ("amount", .int 20)],
    [("region", .int 1), ("amount", .int 7)]]

theorem process_pivot_aggregate_takings :
    let pivoted : List Record :=
      [[("region", .int 1), ("first", .int 30)], [("region", .int 2), ("second", .int 5)]]
    let aggregated : List Record :=
      [[("region", .int 1), ("quarter", .text "first"), ("value", .int 30)],
        [("region", .int 2), ("quarter", .text "second"), ("value", .int 5)],
        [("region", .int 1), ("quarter", .null), ("value", .int 7)]]
    StepConfig.process .epoch [takings] (.pivot takingsByRegion) = .ok ⟨pivoted, 4⟩ ∧
    StepConfig.process .epoch [takings] (.aggregate (takingsByRegion.asAggregate "value")) = .ok
    ⟨aggregated, 4⟩ ∧ List.Forall₂ (takingsByRegion.IsRowOfKey
      ["first", "second"] "value" aggregated) [[.int 1], [.int 2]] pivoted := by
  intro pivoted aggregated
  have texts : ∀ record ∈ takings, ∀ value,
      record.getPath? takingsByRegion.pivotField = some value → ∃ s, value = .text s := by
    simp only [takings, List.forall_mem_cons]
    refine ⟨?_, ?_, ?_, ?_, List.forall_mem_nil _⟩ <;> rintro value found <;>
      cases found <;> exact ⟨_, rfl⟩
  obtain ⟨rows, groups, hrows, hgroups, each⟩ :=
    process_pivot_aggregate .epoch takingsByRegion takings (by decide) (by decide) (by decide)
      texts "value" (by decide)
  have pivot : StepConfig.process .epoch [takings] (.pivot takingsByRegion) =
    .ok ⟨pivoted, 4⟩ := by rfl
  have aggregate : StepConfig.process .epoch [takings]
      (.aggregate (takingsByRegion.asAggregate "value")) = .ok ⟨aggregated, 4⟩ := by rfl
  obtain rfl : pivoted = rows :=
    congrArg StepOutput.records (Except.ok.inj (pivot.symm.trans hrows))
  obtain rfl : aggregated = groups :=
    congrArg StepOutput.records (Except.ok.inj (aggregate.symm.trans hgroups))
  have keys : (takings.map (groupKey takingsByRegion.groupBy)).eraseDups =
    [[.int 1], [.int 2]] := by rfl
  have columns : takingsByRegion.texts takings = ["first", "second"] := by rfl
  rw [keys, columns] at each
  exact ⟨pivot, aggregate, each⟩

end PivotConfig

end RecordFlow
