import RecordFlow.Proofs.Step.Grouping
import RecordFlow.Proofs.Value.Path
import RecordFlow.Step.Process

/-!
# Pivots that are undone

A pivot spreads the values of a field over columns, with one row for each group, and an unpivot
brings each column of a row back into a record of its own. If every group has at most one value
for each column, nothing is lost.

## Main definitions

* `IsLongForm` — records with the fields of a group, a field that names a
  column and a field with its value

## Main results

* `PivotConfig.row_eq`, `UnpivotConfig.row_eq` — the fields of the rows
* `process_pivot_undo` — the records are there again
-/

namespace RecordFlow

/-! ### Lists -/

/-- The items that are kept are the different ones that are new. -/
theorem keepFirst_id_eq (items seen : List String) :
    keepFirst id items seen = (items.filter (· ∉ seen)).eraseDups := by
  have comparison (names : List String) : IsKeyComparison names :=
    ⟨fun _ _ _ _ same => by rw [eq_of_beq same, beq_self_eq_true],
      fun _ _ _ _ _ _ left right => by rwa [eq_of_beq left]⟩
  have new : items.filter (fun item => !seen.any (· == id item)) = items.filter (· ∉ seen) :=
    List.filter_congr fun item _ => by simp [List.any_beq']
  rw [← List.nil_append seen, keepFirst_append_seen, List.nil_append, new,
    keepFirst_id_eq_eraseDups (comparison _)]

theorem mem_keepFirst_id {items seen : List String} {item : String} :
    item ∈ keepFirst id items seen ↔ item ∈ items ∧ item ∉ seen := by
  rw [keepFirst_id_eq, List.mem_eraseDups, List.mem_filter, decide_eq_true_iff]

theorem nodup_keepFirst_id (items seen : List String) : (keepFirst id items seen).Nodup := by
  induction items generalizing seen with
  | nil => exact List.nodup_nil
  | cons first items ih =>
    rw [keepFirst]
    split
    · exact ih seen
    · refine List.nodup_cons.mpr ⟨fun again => ?_, ih _⟩
      exact (mem_keepFirst_id.mp again).2 (List.mem_cons_self ..)

/-- Items with different labels are found by their labels. -/
theorem perm_filterMap_find? {α β : Type} [DecidableEq β] {items : List α}
    {label : α → Option β} {labels : List β} (nodup : labels.Nodup)
    (labeled : ∀ item ∈ items, ∃ b ∈ labels, label item = some b)
    (apart : (items.map label).Nodup) :
    (labels.filterMap fun b => items.find? fun item => label item == some b).Perm items := by
  have found {b : β} {item : α} (h : items.find? (fun item => label item == some b) = some item) :
      item ∈ items ∧ label item = some b :=
    ⟨List.mem_of_find?_eq_some h, by simpa using List.find?_some h⟩
  refine (List.perm_ext_iff_of_nodup ?_ (.of_map label apart)).mpr fun item => ?_
  · refine nodup.filterMap fun b c item hb hc => ?_
    exact Option.some.inj ((found hb).2.symm.trans (found hc).2)
  · rw [List.mem_filterMap]
    refine ⟨fun ⟨b, _, h⟩ => (found h).1, fun hitem => ?_⟩
    obtain ⟨b, hb, hlabel⟩ := labeled item hitem
    refine ⟨b, hb, ?_⟩
    cases h : items.find? fun item => label item == some b with
    | none => exact absurd hlabel (by simpa using List.find?_eq_none.mp h item hitem)
    | some other =>
      exact congrArg some
        (List.inj_on_of_nodup_map apart (found h).1 hitem ((found h).2.trans hlabel.symm))

theorem forall₂_filterMap {α β γ : Type} {R : β → γ → Prop} {f : α → Option β}
    {g : α → Option γ} {items : List α} (each : ∀ item ∈ items, Option.Rel R (f item) (g item)) :
    List.Forall₂ R (items.filterMap f) (items.filterMap g) := by
  induction items with
  | nil => exact .nil
  | cons item items ih =>
    obtain ⟨first, rest⟩ := List.forall_mem_cons.mp each
    rw [List.filterMap_cons, List.filterMap_cons]
    generalize f item = b, g item = c at first ⊢
    cases first with
    | none => exact ih rest
    | some related => exact .cons related (ih rest)

theorem forall₂_flatMap {α β γ : Type} {R : β → γ → Prop} {f : α → List β}
    {g : α → List γ} {items : List α} (each : ∀ item ∈ items, List.Forall₂ R (f item) (g item)) :
    List.Forall₂ R (items.flatMap f) (items.flatMap g) := by
  induction items with
  | nil => exact .nil
  | cons item items ih =>
    obtain ⟨first, rest⟩ := List.forall_mem_cons.mp each
    exact List.rel_append first (ih rest)

theorem forall_mem_zip {α β γ : Type} {R : γ → β → Prop} {f : α → β} {names : List α} {key : List γ}
    (each : List.Forall₂ R key (names.map f)) : ∀ field ∈ names.zip key, R field.2 (f field.1) := by
  induction names generalizing key with
  | nil => simp
  | cons name names ih =>
    cases each with
    | cons first rest => exact List.forall_mem_cons.mpr ⟨first, ih rest⟩

/-! ### Records in long form -/

/-- Each record has the fields of a group, a field with the name of a column and a field with its
value, and no group has two values for a column. -/
structure IsLongForm (groupBy : List String) (pivotField valueField : String)
    (records : List Record) : Prop where
  plain : ∀ name ∈ groupBy ++ [pivotField, valueField], IsPlainName name
  nodup : (groupBy ++ [pivotField, valueField]).Nodup
  names : ∀ record ∈ records, record.names.Perm (groupBy ++ [pivotField, valueField])
  columns : ∀ record ∈ records, ∃ column, record.get? pivotField = some (.text column) ∧
    IsPlainName column ∧ column ∉ groupBy
  free : ∀ record ∈ records, (Value.object record).IsNaNFree
  distinct : ∀ record ∈ records, (Value.object record).HasDistinctNames
  apart : records.Pairwise fun record other =>
    (groupKey groupBy record == groupKey groupBy other) = true →
      record.get? pivotField ≠ other.get? pivotField

/-! ### The rows of a pivot -/

namespace PivotConfig

variable {config : PivotConfig} {records members : List Record} {record : Record} {key : List Value}

/-- The columns of a pivot are those that records count to. -/
theorem columns_eq (config : PivotConfig) (records : List Record) :
    config.columns records = (records.filterMap config.column?).eraseDups := by
  rw [PivotConfig.columns, keepFirst_id_eq, List.filter_eq_self.mpr fun _ _ => by simp]

theorem mem_columns_iff {column : String} :
    column ∈ config.columns records ↔ ∃ record ∈ records, config.column? record = some column := by
  rw [columns_eq, List.mem_eraseDups, List.mem_filterMap]

theorem fold_first_cons (record : Record) (records : List Record) (field : String) :
    AggregateFunction.first.fold field (record :: records) =
      (record.getPath? field).getD .null := by
  have kept (value : Value) (records : List Record) :
      records.foldl (fun state record => state.add (record.getPath? field)) (.first (some value)) =
        Accumulator.first (some value) := by
    induction records with
    | nil => rfl
    | cons record records ih => exact ih
  exact congrArg Accumulator.result (kept _ records)

/-- The first value of a column is that of the first record of the column. -/
theorem cell?_of_first (first : config.aggregation = .first)
    (members : List Record) (column : String) :
    config.cell? members column =
      (members.find? fun record => config.column? record == some column).map
      fun record => (record.getPath? config.valueField).getD .null := by
  rw [cell?, ← List.head?_filter, first]
  cases members.filter fun record => config.column? record == some column with
  | nil => rfl
  | cons record cell => exact congrArg some (fold_first_cons record cell _)

/-- The row of a group has the fields of the group and those of its columns. -/
theorem row_eq {columns : List String} (nodup : config.groupBy.Nodup) (nodupColumns : columns.Nodup)
    (new : ∀ column ∈ columns, column ∉ config.groupBy)
    (length : key.length = config.groupBy.length) :
    config.row columns key members = config.groupBy.zip key ++
      columns.filterMap fun column => (config.cell? members column).map (column, ·) := by
  have names : (config.groupBy.zip key).map Prod.fst = config.groupBy := List.map_fst_zip length.ge
  rw [row, keyRow, Record.ofFields_of_nodup (by rwa [names])]
  refine Record.foldl_insert _ nodupColumns fun column hcolumn => ?_
  rw [Record.names, names]
  exact new column hcolumn

end PivotConfig

/-! ### The rows of an unpivot -/

theorem lookup_filterMap (columns : List String) (value? : String → Option Value)
    (column : String) :
    (columns.filterMap fun column => (value? column).map (column, ·)).lookup column =
      if column ∈ columns then value? column else none := by
  induction columns with
  | nil => rfl
  | cons first columns ih =>
    by_cases same : column = first
    · subst same
      cases found : value? column <;> simp [found, ih]
    · cases found : value? first <;> simp [found, ih, same, List.lookup_cons, beq_false_of_ne same]

/-- Fields are found in front of others. -/
theorem filterMap_lookup_append (fields : Record) (nodup : fields.names.Nodup) (rest : Record) :
    fields.names.filterMap (fun name => (Record.get? (fields ++ rest) name).map (name, ·)) =
      fields := by
  have each (field : String × Value) (h : field ∈ fields) :
      ((Record.get? (fields ++ rest) field.1).map (field.1, ·)) = some field := by
    rw [Record.get?, List.lookup_append, (lookup_eq_some_iff_mem nodup).mpr h]
    rfl
  rw [Record.names, List.filterMap_map]
  exact (List.filterMap_congr each).trans List.filterMap_some

namespace UnpivotConfig

/-- The row of a column has the fields of the group, the name of the column and its value. -/
theorem row_eq (config : UnpivotConfig) {key : List Value}
    (nodup : (config.idFields ++ [config.nameField, config.valueField]).Nodup)
    (plain : ∀ name ∈ config.idFields, IsPlainName name)
    (length : key.length = config.idFields.length) (cells : Record)
    (column : String) (value : Value) : config.row (config.idFields.zip key ++ cells) column value =
      config.idFields.zip key ++
        [(config.nameField, .text column), (config.valueField, value)] := by
  have names : Record.names (config.idFields.zip key) = config.idFields :=
    List.map_fst_zip length.ge
  obtain ⟨nodupIds, nodupOthers, apart⟩ := List.nodup_append.mp nodup
  have ids : config.idFields.foldl (fun (ids : Record) id =>
      (((Record.getPath? (config.idFields.zip key ++ cells) id).map (ids.insert id)).getD ids)) [] =
        config.idFields.zip key := by
    rw [Record.foldl_insert _ nodupIds (by simp [Record.names]), List.nil_append]
    have found := filterMap_lookup_append (config.idFields.zip key) (by rwa [names]) cells
    rw [names] at found
    refine (List.filterMap_congr fun id hid => ?_).trans found
    rw [Record.getPath?_of_isPlainName (plain id hid)]
  rw [row, ids, Record.insert_of_notMem, Record.insert_of_notMem, List.append_assoc]
  · rfl
  · rw [names]
    exact fun h => apart _ h _ (by simp) rfl
  · rw [Record.insert_of_notMem, Record.names_append, names]
    · intro h
      rcases List.mem_append.mp h with h | h
      · exact apart _ h _ (by simp) rfl
      · have same : config.valueField = config.nameField := List.mem_singleton.mp h
        simp [same] at nodupOthers
    · rw [names]
      exact fun h => apart _ h _ (by simp) rfl

end UnpivotConfig

/-! ### Records in long form -/

namespace IsLongForm

variable {groupBy : List String} {pivotField valueField : String}
    {records : List Record} {record : Record}

section

variable (form : IsLongForm groupBy pivotField valueField records) (hrecord : record ∈ records)

include form hrecord

/-- Each name is that of a field. -/
theorem exists_get? (name : String) (h : name ∈ groupBy ++ [pivotField, valueField]) :
    ∃ value, record.get? name = some value ∧ record.getPath? name = some value ∧ value.IsNaNFree ∧
      value.HasDistinctNames := by
  have named : name ∈ record.names := (form.names record hrecord).mem_iff.mpr h
  obtain ⟨⟨name, value⟩, hmem, rfl⟩ := List.mem_map.mp named
  obtain ⟨nodup, each⟩ := Value.hasDistinctNames_object_iff.mp (form.distinct record hrecord)
  have found : record.get? name = some value := (lookup_eq_some_iff_mem nodup).mpr hmem
  refine ⟨value, found, (Record.getPath?_of_isPlainName (form.plain name h) record).trans found, ?_,
    each _ hmem⟩
  cases form.free record hrecord with
  | object free => exact free _ hmem

/-- A record counts to the column that its field names. -/
theorem column?_eq (config : PivotConfig) (h : config.pivotField = pivotField) :
    ∃ column, config.column? record = some column ∧ record.get? pivotField = some (.text column) ∧
      IsPlainName column ∧ column ∉ groupBy := by
  obtain ⟨column, found, plain, new⟩ := form.columns record hrecord
  refine ⟨column, ?_, found, plain, new⟩
  rw [PivotConfig.column?, h, Record.getPath?_of_isPlainName (form.plain pivotField (by simp)),
    found]
  rfl

theorem groupKey_sound : (Value.list (groupKey groupBy record)).IsNaNFree ∧
    (Value.list (groupKey groupBy record)).HasDistinctNames := by
  have each (name : String) (h : name ∈ groupBy) : ((record.getPath? name).getD .null).IsNaNFree ∧
      ((record.getPath? name).getD .null).HasDistinctNames := by
    obtain ⟨value, -, found, free, distinct⟩ :=
      form.exists_get? hrecord name (List.mem_append_left _ h)
    rw [found]
    exact ⟨free, distinct⟩
  exact ⟨.list (by simpa [groupKey] using fun name h => (each name h).1),
    .list (by simpa [groupKey] using fun name h => (each name h).2)⟩

end

/-! ### Groups of records in long form -/

section

variable (form : IsLongForm groupBy pivotField valueField records)
  {key : List Value} {members : List Record}
  (hgroup : (key, members) ∈ gather (groupKey groupBy) records)

include hgroup

theorem mem_of_mem_group (hmember : record ∈ members) : record ∈ records :=
  (flatMap_gather _ _).mem_iff.mp (List.mem_flatMap.mpr ⟨_, hgroup, hmember⟩)

theorem length_key : key.length = groupBy.length := by
  obtain ⟨first, others, h, -⟩ := eq_cons_of_mem_gather hgroup
  rw [(Prod.mk.inj h).1, groupKey, List.length_map]

include form

/-- The records of a group have its key. -/
theorem key_same (hmember : record ∈ members) :
    (Value.list key == Value.list (groupKey groupBy record)) = true := by
  obtain ⟨first, others, h, each⟩ := eq_cons_of_mem_gather hgroup
  obtain ⟨rfl, rfl⟩ := Prod.mk.inj h
  rcases List.mem_cons.mp hmember with rfl | hother
  · obtain ⟨free, distinct⟩ := form.groupKey_sound (mem_of_mem_group hgroup hmember)
    exact Value.same_refl free distinct
  · rw [← beq_eq_list_same]
    exact each record hother

/-- The records of a group count to different columns. -/
theorem nodup_columns (config : PivotConfig) (h : config.pivotField = pivotField) :
    (members.map config.column?).Nodup := by
  have same_key {r s : Record} (hr : r ∈ members) (hs : s ∈ members) :
      (groupKey groupBy r == groupKey groupBy s) = true := by
    have distinct {t : Record} (ht : t ∈ members) :=
      (form.groupKey_sound (mem_of_mem_group hgroup ht)).2
    have keyDistinct : (Value.list key).HasDistinctNames := by
      obtain ⟨first, others, h, -⟩ := eq_cons_of_mem_gather hgroup
      obtain ⟨rfl, rfl⟩ := Prod.mk.inj h
      exact distinct (List.mem_cons_self ..)
    rw [beq_eq_list_same]
    exact Value.same_trans (Value.same_symm keyDistinct (distinct hr) (form.key_same hgroup hr))
      (form.key_same hgroup hs)
  -- Two records of one group are apart in the order in which they come up in the groups.
  have apart : members.Pairwise fun r s => r.get? pivotField ≠ s.get? pivotField := by
    have both : records.Pairwise fun r s =>
        ((groupKey groupBy r == groupKey groupBy s) = true →
          r.get? pivotField ≠ s.get? pivotField) ∧
            ((groupKey groupBy s == groupKey groupBy r) = true →
              s.get? pivotField ≠ r.get? pivotField) := by
      refine form.apart.imp_of_mem fun hr hs apart => ⟨apart, fun same => (apart ?_).symm⟩
      rw [beq_eq_list_same] at same ⊢
      exact Value.same_symm (form.groupKey_sound hs).2 (form.groupKey_sound hr).2 same
    have grouped := (flatMap_gather (groupKey groupBy) records).symm.pairwise both fun h => h.symm
    have within := (List.pairwise_flatMap.mp grouped).1 _ hgroup
    exact within.imp_of_mem fun hr hs h => h.1 (same_key hr hs)
  rw [List.Nodup, List.pairwise_map]
  refine apart.imp_of_mem fun hr hs different same => ?_
  obtain ⟨c, hc, foundr, -⟩ := form.column?_eq (mem_of_mem_group hgroup hr) config h
  obtain ⟨d, hd, founds, -⟩ := form.column?_eq (mem_of_mem_group hgroup hs) config h
  obtain rfl : c = d := Option.some.inj (hc.symm.trans (same.trans hd))
  exact different (foundr.trans founds.symm)

/-- A record is the key of its group with its column and its value. -/
theorem restored_same (hmember : record ∈ members) {column : String} {value : Value}
    (hcolumn : record.get? pivotField = some (.text column))
    (hvalue : record.get? valueField = some value) :
    (Value.object (groupBy.zip key ++ [(pivotField, .text column), (valueField, value)]) ==
      .object record) = true := by
  have hrecord := mem_of_mem_group hgroup hmember
  have length : record.length = groupBy.length + 2 := by
    have := (form.names record hrecord).length_eq
    rwa [Record.names, List.length_map, List.length_append] at this
  refine Value.object_same_iff.mpr ⟨record, rfl, ?_, fun field hfield => ?_⟩
  · rw [List.length_append, List.length_zip, length_key hgroup, min_self, length]
    rfl
  · rcases List.mem_append.mp hfield with hfield | hfield
    · obtain ⟨_, h, same⟩ := Value.list_same_iff.mp (form.key_same hgroup hmember)
      obtain rfl := Value.list.inj h
      have named : field.1 ∈ groupBy := (List.of_mem_zip hfield).1
      obtain ⟨y, found, reached, -⟩ :=
        form.exists_get? hrecord field.1 (List.mem_append_left _ named)
      have same := forall_mem_zip same field hfield
      rw [reached] at same
      exact ⟨y, found, same⟩
    · rcases List.mem_cons.mp hfield with rfl | hfield
      · exact ⟨_, hcolumn, Value.text_same_iff.mpr rfl⟩
      · obtain rfl := List.mem_singleton.mp hfield
        obtain ⟨y, found, -, free, distinct⟩ := form.exists_get? hrecord valueField (by simp)
        obtain rfl := Option.some.inj (hvalue.symm.trans found)
        exact ⟨_, found, Value.same_refl free distinct⟩

end

end IsLongForm

/-! ### The way back -/

/-- The unpivot that brings columns back into the fields that a pivot has read. -/
def PivotConfig.undo (config : PivotConfig) (source output : String) (columns : List String) :
    UnpivotConfig where
  source := source
  output := output
  idFields := config.groupBy
  unpivotFields := columns
  nameField := config.pivotField
  valueField := config.valueField

section

variable {pivot : PivotConfig} {records members : List Record} {key : List Value}
  (form : IsLongForm pivot.groupBy pivot.pivotField pivot.valueField records)

include form

/-- The columns of a pivot are the names that occur. -/
theorem IsLongForm.mem_columns_iff {column : String} : column ∈ pivot.columns records ↔
    ∃ record ∈ records, record.get? pivot.pivotField = some (.text column) := by
  refine PivotConfig.mem_columns_iff.trans
    (exists_congr fun record => and_congr_right fun hrecord => ?_)
  obtain ⟨name, counted, found, -⟩ := form.column?_eq hrecord pivot rfl
  simp [counted, found]

/-- A column of a row is brought back as the record of the group that counts to it. -/
theorem IsLongForm.related (first : pivot.aggregation = .first)
    (hgroup : (key, members) ∈ gather (groupKey pivot.groupBy) records) (source output : String)
    (columns : List String) {column : String}
    (occurs : ∃ record ∈ records, record.get? pivot.pivotField = some (.text column)) :
    let row := pivot.row (pivot.columns records) key members
    Option.Rel (fun out record => (Value.object out == .object record) = true)
      ((row.getPath? column).map ((pivot.undo source output columns).row row column))
      (members.find? fun record => pivot.column? record == some column) := by
  have length := length_key hgroup
  have nodup := (List.nodup_append.mp form.nodup).1
  have new (other : String) (h : other ∈ pivot.columns records) :
      IsPlainName other ∧ other ∉ pivot.groupBy := by
    obtain ⟨record, hrecord, found⟩ := form.mem_columns_iff.mp h
    obtain ⟨name, found', plain, new⟩ := form.columns record hrecord
    obtain rfl := Value.text.inj (Option.some.inj (found.symm.trans found'))
    exact ⟨plain, new⟩
  have hcolumn := form.mem_columns_iff.mpr occurs
  intro row
  have hrow : row = _ :=
    PivotConfig.row_eq nodup (nodup_keepFirst_id _ _) (fun other h => (new other h).2) length
  have cell : row.getPath? column = pivot.cell? members column := by
    rw [Record.getPath?_of_isPlainName (new column hcolumn).1, hrow,
      Record.get?, List.lookup_append]
    have absent : (pivot.groupBy.zip key).lookup column = none := by
      refine List.lookup_eq_none_iff.mpr fun field hfield => ?_
      have named := (List.of_mem_zip hfield).1
      exact bne_iff_ne.mpr fun same => (new column hcolumn).2 (same ▸ named)
    rw [absent, Option.none_or, lookup_filterMap, if_pos hcolumn]
  rw [cell, PivotConfig.cell?_of_first first]
  cases found : members.find? fun record => pivot.column? record == some column with
  | none => exact .none
  | some record =>
    have hmember := List.mem_of_find?_eq_some found
    have hrecord := IsLongForm.mem_of_mem_group hgroup hmember
    obtain ⟨value, hvalue, reached, -⟩ := form.exists_get? hrecord pivot.valueField (by simp)
    obtain ⟨name, counted, hname, -⟩ := form.column?_eq hrecord pivot rfl
    obtain rfl : name = column :=
      Option.some.inj (counted.symm.trans (by simpa using List.find?_some found))
    have plain (other : String) (h : other ∈ pivot.groupBy) :=
      form.plain other (List.mem_append_left _ h)
    have back (cells : Record) :
        (pivot.undo source output columns).row (pivot.groupBy.zip key ++ cells) name value =
          pivot.groupBy.zip key ++ [(pivot.pivotField, .text name), (pivot.valueField, value)] :=
      UnpivotConfig.row_eq (pivot.undo source output columns) form.nodup
        plain length cells name value
    refine .some ?_
    simp only [reached, Option.getD_some]
    rw [hrow, back]
    exact form.restored_same hgroup hmember hname hvalue

/-- A pivot that takes the first value of each column is undone by an unpivot of all columns: the
records are there again, in some order, with equal values. -/
theorem process_pivot_undo (first : pivot.aggregation = .first)
    (now : Timestamp) (source output : String) {columns : List String} (nodup : columns.Nodup)
    (occurring : ∀ column, column ∈ columns ↔
      ∃ record ∈ records, record.get? pivot.pivotField = some (.text column)) :
    ∃ pivoted restored kept,
      StepConfig.process now [records] (.pivot pivot) = .ok pivoted ∧
      StepConfig.process now [pivoted.records]
      (.unpivot (pivot.undo source output columns)) = .ok restored ∧ kept.Perm records ∧
      List.Forall₂ (fun out record => (Value.object out == .object record) =
        true) restored.records kept := by
  -- The record of a group that counts to a column stands for the row of that column.
  let groups := gather (groupKey pivot.groupBy) records
  let kept := groups.flatMap fun group =>
    columns.filterMap fun column => group.2.find? fun record => pivot.column? record == some column
  refine ⟨_, _, kept, rfl, rfl, ?_, ?_⟩
  · refine (List.Perm.flatMap_left groups fun group hgroup => ?_).trans (flatMap_gather ..)
    refine perm_filterMap_find? nodup (fun record hmember => ?_)
      (form.nodup_columns hgroup pivot rfl)
    have hrecord := IsLongForm.mem_of_mem_group hgroup hmember
    obtain ⟨column, counted, found, -⟩ := form.column?_eq hrecord pivot rfl
    exact ⟨column, (occurring column).mpr ⟨record, hrecord, found⟩, counted⟩
  · rw [UnpivotConfig.rows, PivotConfig.rows, List.flatMap_map]
    exact forall₂_flatMap fun group hgroup => forall₂_filterMap fun column hcolumn =>
      form.related first hgroup source output columns ((occurring column).mp hcolumn)

end

/-- Sales of two regions, one of which is written as an integer and as a float. -/
def salesPivot : PivotConfig where
  source := "sales"
  output := "pivoted"
  groupBy := ["region"]
  pivotField := "quarter"
  valueField := "amount"
  aggregation := .first

def sales : List Record :=
  [[("region", .int 1), ("quarter", .text "first"), ("amount", .int 10)],
    [("amount", .null), ("region", .float 1.0), ("quarter", .text "second")],
    [("region", .int 2), ("quarter", .text "second"), ("amount", .list [.int 3])]]

theorem sales_isLongForm :
    IsLongForm salesPivot.groupBy salesPivot.pivotField salesPivot.valueField sales where
  plain := by
    intro name h
    simp only [salesPivot, List.cons_append, List.nil_append, List.mem_cons,
      List.not_mem_nil, or_false] at h
    rcases h with rfl | rfl | rfl <;> exact ⟨by decide, by decide⟩
  nodup := by decide
  names := by decide
  columns := by
    intro record h
    simp only [sales, List.mem_cons, List.not_mem_nil, or_false] at h
    rcases h with rfl | rfl | rfl
    · exact ⟨"first", rfl, ⟨by decide, by decide⟩, by decide⟩
    · exact ⟨"second", rfl, ⟨by decide, by decide⟩, by decide⟩
    · exact ⟨"second", rfl, ⟨by decide, by decide⟩, by decide⟩
  free := by decide
  distinct := by decide
  apart := by
    refine List.pairwise_cons.mpr ⟨fun other h _ => ?_, List.pairwise_pair.mpr fun same => ?_⟩
    · simp only [List.mem_cons, List.not_mem_nil, or_false] at h
      rcases h with rfl | rfl <;> simp [salesPivot, Record.get?, List.lookup]
    · exact absurd same (by decide +kernel)

theorem process_pivot_undo_sales : ∃ pivoted restored kept,
    StepConfig.process .epoch [sales] (.pivot salesPivot) = .ok pivoted ∧
    StepConfig.process .epoch [pivoted.records]
      (.unpivot (salesPivot.undo "pivoted" "sales" ["first", "second"])) = .ok restored ∧
    kept.Perm sales ∧
    List.Forall₂ (fun out record => (Value.object out == .object record) =
      true) restored.records kept := by
  refine process_pivot_undo sales_isLongForm rfl .epoch "pivoted" "sales" (by decide) fun column =>
    ?_
  simp [sales, salesPivot, Record.get?, List.lookup, eq_comm]

end RecordFlow
