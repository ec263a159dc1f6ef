import RecordFlow.Proofs.Step.Deduplicating

/-!
# What is distinct

A union without repetitions remembers what it has seen, a step that removes repetitions gathers
groups, and so does an aggregation by another kind of keys, and a count of different values
remembers these. All of them go by one comparison, so that they agree, whatever the values are: also
NaN, which differs from itself, is new each time for each of them.

## Main definitions

* `Record.lacks` — a record has no value for a field, or null
* `AreCounted` — how many items have a value, and that at most one has none

## Main results

* `DeduplicateConfig.rows_eq_keepFirst` — the first record of each identity is kept
* `UnionConfig.process_union_distinct` — a union without repetitions is
  its concatenation without them
* `areCounted_gather` — the groups of the values of a field
* `process_distinct_counts` — different values, groups and identities are counted alike
-/

namespace RecordFlow

/-! ### Unions -/

/-- Without an order the first record of each identity is kept. -/
theorem DeduplicateConfig.rows_eq_keepFirst {config : DeduplicateConfig}
    (first : config.keep = .first) (unordered : config.orderBy = []) (records : List Record) :
    config.rows records = keepFirst (identity config.keys) records [] := by
  have head (members : List Record) : config.chosen? members = members.head? := by
    rw [chosen?_eq, first, unordered, sortRecords_nil]
  have heads := congrArg (List.filterMap Prod.snd) (map_head?_gather (identity config.keys) records)
  rw [List.filterMap_map, List.filterMap_map] at heads
  rw [rows_eq]
  simp only [head]
  exact heads.trans List.filterMap_some

/-- **A union without repetitions is its concatenation without repetitions.** It has the records
that a step that removes repetitions keeps of the sets behind one another, if this step goes by the
same keys and keeps the first record. Without keys, whole records are compared. -/
theorem UnionConfig.process_union_distinct (now : Timestamp) (sources : List String)
    (source output target : String) (keys? : Option (List String)) (set : List Record)
    (sets : List (List Record)) :
    ∃ kept, StepConfig.process now (set :: sets) (.union ⟨sources, output, .distinct, keys?⟩) =
        .ok ⟨kept, ((set :: sets).map List.length).sum⟩ ∧
      StepConfig.process now [(set :: sets).flatten]
      (.deduplicate ⟨source, target, keys?.getD [], .first, []⟩) =
        .ok ⟨kept, ((set :: sets).map List.length).sum⟩ ∧
      (keys?.getD [] = [] → kept = keepFirst Value.object (set :: sets).flatten []) := by
  refine ⟨_, rfl, ?_, fun whole => ?_⟩
  · rw [StepConfig.process, StepConfig.onOne, DeduplicateConfig.rows_eq_keepFirst rfl rfl,
      List.length_flatten]
    rfl
  · rw [rows, whole]
    rfl

/-! ### Values that are null -/

namespace Value

theorem null_same (value : Value) : (null == value) = value.isNull := by cases value <;> rfl

theorem same_null (value : Value) : (value == null) = value.isNull := by cases value <;> rfl

/-- Of equal values both are null, or none is. -/
theorem isNull_eq_of_same {k l : Value} (same : (k == l) = true) : k.isNull = l.isNull := by
  cases k <;> cases l <;> first | rfl | cases same

end Value

/-- The value of a field; an absent one counts as null. -/
def Record.valueOrNull (field : String) (record : Record) : Value :=
  (record.getPath? field).getD .null

/-- Whether a record has no value for a field, or null. -/
def Record.lacks (field : String) (record : Record) : Bool := (record.valueOrNull field).isNull

/-- The different values of a field that are not null. -/
def differentValues (field : String) (records : List Record) : List Value :=
  keepFirst id ((records.map (Record.valueOrNull field)).filter (!·.isNull)) []

/-! ### Counting -/

/-- As many items as `count` have a value, and one more has none exactly if a value is `missing`. -/
structure AreCounted {α : Type} (lacks : α → Bool) (items : List α) (count : ℕ)
    (missing : Bool) : Prop where
  known : items.countP (!lacks ·) = count
  unknown : items.countP lacks = missing.toNat

namespace AreCounted

variable {α β : Type} {lacks : α → Bool} {lacks' : β → Bool} {items : List α}
  {others : List β} {count : ℕ} {missing : Bool}

/-- Items that are related to others which have a value where they have one are counted as these. -/
theorem of_forall₂ (h : AreCounted lacks items count missing)
    (related : List.Forall₂ (fun a b => lacks' b = lacks a) items others) :
    AreCounted lacks' others count missing := by
  have each :=
    List.forall₂_map_left_iff.mpr
      (List.forall₂_map_right_iff.mpr (related.imp fun _ _ same => same.symm))
  rw [List.forall₂_eq_eq_eq] at each
  have counts (p : Bool → Bool) : others.countP (p ∘ lacks') = items.countP (p ∘ lacks) := by
    rw [← List.countP_map, ← List.countP_map, each]
  exact ⟨(counts not).trans h.known, (counts id).trans h.unknown⟩

end AreCounted

/-- The values that are kept and pass a check are kept of those that pass it, if the check sees no
difference between equal values. -/
theorem filter_keepFirst {κ : Type} [BEq κ] {check : κ → Bool}
    (same : ∀ k l, (k == l) = true → check k = check l) (keys : List κ) :
    (keepFirst id keys []).filter check = keepFirst id (keys.filter check) [] := by
  induction keys using firstKey_induction (id : κ → κ) with
  | none => rfl
  | first k keys ih =>
    rw [keepFirst_cons]
    cases passes : check k with
    | true =>
      rw [List.filter_cons_of_pos passes, List.filter_cons_of_pos passes,
        keepFirst_cons, ih, List.filter_filter, List.filter_filter]
      simp only [Bool.and_comm]
    | false =>
      -- With the first value all values that equal it fail, so that taking them
      -- out first makes no difference.
      have others : (keys.filter fun other => !(id k == id other)).filter check =
          keys.filter check := by
        rw [List.filter_filter]
        refine List.filter_congr fun other _ => ?_
        cases equal : id k == id other with
        | false => simp
        | true => simp [← same k other equal, passes]
      rw [List.filter_cons_of_neg (by simp [passes]),
        List.filter_cons_of_neg (by simp [passes]), ih, others]

/-- Of values that are null, one is kept. -/
theorem length_keepFirst_isNull (values : List Value) :
    (keepFirst id (values.filter Value.isNull) []).length = (values.any Value.isNull).toNat := by
  cases nulls : values.filter Value.isNull with
  | nil =>
    have none : values.any Value.isNull = false :=
      List.any_eq_false.mpr fun value hvalue => by
        simpa using List.filter_eq_nil_iff.mp nulls value hvalue
    rw [none]
    rfl
  | cons first rest =>
    have null (value : Value) (h : value ∈ first :: rest) : value ∈ values ∧ value.isNull = true :=
      List.mem_filter.mp (nulls ▸ h)
    obtain ⟨hfirst, isNull⟩ := null first (List.mem_cons_self ..)
    have others : rest.filter (fun other => !(id first == id other)) = [] := by
      refine List.filter_eq_nil_iff.mpr fun other hother => ?_
      have isNull' := (null other (List.mem_cons_of_mem _ hother)).2
      cases first <;> cases isNull
      simp [Value.null_same, isNull']
    rw [keepFirst_cons, others, List.any_eq_true.mpr ⟨first, hfirst, isNull⟩]
    rfl

/-- The different values, null among them if it is one of the values. -/
theorem areCounted_keepFirst (values : List Value) :
    AreCounted Value.isNull (keepFirst id values [])
    (keepFirst id (values.filter (!·.isNull)) []).length (values.any Value.isNull) where
  known := by
    rw [List.countP_eq_length_filter, filter_keepFirst fun k l same => by
      rw [Value.isNull_eq_of_same same]]
  unknown := by
    rw [List.countP_eq_length_filter, filter_keepFirst fun k l => Value.isNull_eq_of_same,
      length_keepFirst_isNull]

/-! ### Groups and identities of one field -/

section

variable (field : String) (records : List Record)

/-- Keys of one value are compared as these values are. -/
theorem gather_groupKey_singleton : gather (groupKey [field]) records =
    (gather (Record.valueOrNull field) records).map (Prod.map (fun value => [value]) id) := by
  have alike (k l : Value) : ([k] == [l]) = (k == l) := Bool.and_true (k == l)
  exact gather_view fun k _ l _ => alike k l

theorem gather_identity_singleton : gather (identity [field]) records =
    (gather (Record.valueOrNull field) records).map (Prod.map (fun value => .list [value]) id) := by
  have alike (k l : Value) : (Value.list [k] == Value.list [l]) = (k == l) := Bool.and_true (k == l)
  exact gather_view fun k _ l _ => alike k l

/-- The groups of the values of a field. -/
theorem areCounted_gather : AreCounted (fun group => group.1.isNull)
    (gather (Record.valueOrNull field) records)
    (differentValues field records).length (records.any (Record.lacks field)) := by
  have values := areCounted_keepFirst (records.map (Record.valueOrNull field))
  rw [← map_fst_gather_eq_keepFirst, List.any_map] at values
  exact values.of_forall₂ (List.forall₂_map_left_iff.mpr (List.forall₂_same.mpr fun _ _ => rfl))

/-- Each record of a group has a value if the group has one. -/
theorem lacks_of_mem_group {field : String} {records : List Record} {group : Value × List Record}
    (hgroup : group ∈ gather (Record.valueOrNull field) records) {record : Record}
    (hrecord : record ∈ group.2) : record.lacks field = group.1.isNull := by
  obtain ⟨first, others, rfl, each⟩ := eq_cons_of_mem_gather hgroup
  rcases List.mem_cons.mp hrecord with rfl | behind
  · rfl
  · exact (Value.isNull_eq_of_same (each record behind)).symm

theorem known_getPath? : Value.known (records.map (·.getPath? field)) =
    (records.map (Record.valueOrNull field)).filter (!·.isNull) := by
  induction records with
  | nil => rfl
  | cons record records ih =>
    rw [List.map_cons, List.map_cons, Record.valueOrNull]
    cases record.getPath? field with
    | none => exact ih
    | some value => rw [Value.known_some, ih, Option.getD_some,
      List.filter_cons]; cases value.isNull <;> rfl

theorem fold_countDistinct : AggregateFunction.countDistinct.fold field records =
    .int (Int64.ofNat (differentValues field records).length) := by
  rw [AggregateFunction.fold_eq_foldl, Accumulator.start, Accumulator.foldl_add_countDistinct,
    known_getPath?]
  simp [Accumulator.result, differentValues]

end

/-! ### Rows and records that are kept -/

/-- A row has the value of its group in the field of the group, unless a column takes its place. -/
theorem AggregateConfig.get?_row {config : AggregateConfig} {field : String}
    (single : config.groupBy = [field]) (apart : ∀ a ∈ config.aggregations, a.column ≠ field)
    (value : Value) (members : List Record) :
    (config.row [value] members).get? field = some value := by
  have own : (keyRow [field] [value]).get? field = some value := List.lookup_cons_self ..
  rw [row, single]
  generalize config.aggregations = aggregations, keyRow [field] [value] = row at apart own
  induction aggregations generalizing row with
  | nil => exact own
  | cons a rest ih =>
    obtain ⟨first, apart⟩ := List.forall_mem_cons.mp apart
    exact ih _ apart (by rw [Record.get?_insert, if_neg (Ne.symm first), own])

/-- A field of that name has the value of a group in a record, if it holds this value. -/
theorem lacks_of_get? {field : String} {records : List Record} {group : Value × List Record}
    (hgroup : group ∈ gather (Record.valueOrNull field) records) {row : Record}
    (found : row.get? field = some group.1) : row.lacks field = group.1.isNull := by
  obtain ⟨first, others, rfl, -⟩ := eq_cons_of_mem_gather hgroup
  cases empty : field.isEmpty with
  | true => simp [Record.lacks, Record.valueOrNull, Record.getPath?, empty]
  | false => rw [Record.lacks, Record.valueOrNull, Record.getPath?, empty, found]; rfl

/-- **Different values, groups and identities are counted alike.** As many different values as are
counted for a field, null and absent ones left out, as many rows of an aggregation by this field
alone have another key than null, and as many records that are kept by this field alone have a value
for it. One row more has the key null, and one record more has no value, exactly if some record has
none. The rows of an aggregation show their keys unless a column takes the place of the field. -/
theorem process_distinct_counts (now : Timestamp) (source output column field : String)
    (aggregations : List Aggregation) (keep : Keep) (orderBy : List OrderBy)
    (records : List Record) :
    let grouping : AggregateConfig := ⟨source, output, [field], aggregations, []⟩
    let missing := records.any (Record.lacks field)
    ∃ (count : ℕ) (rows kept : List Record),
      StepConfig.process now [records]
      (.aggregate ⟨source, output, [], [⟨field, .countDistinct, column⟩], []⟩) =
        .ok ⟨[[(column, .int (Int64.ofNat count))]], records.length⟩ ∧
      StepConfig.process now [records] (.aggregate grouping) = .ok ⟨rows, records.length⟩ ∧
      rows = (grouping.groups records).map (fun group => grouping.row group.1 group.2) ∧
      AreCounted (fun group => group.1 == [.null]) (grouping.groups records) count missing ∧
      ((∀ a ∈ aggregations, a.column ≠ field) →
        AreCounted (Record.lacks field) rows count missing) ∧
        StepConfig.process now [records] (.deduplicate ⟨source, output, [field], keep, orderBy⟩) =
        .ok ⟨kept, records.length⟩ ∧
      AreCounted (Record.lacks field) kept count missing := by
  intro grouping missing
  have counted := areCounted_gather field records
  have groups : grouping.groups records =
      (gather (Record.valueOrNull field) records).map (Prod.map (fun value => [value]) id) := by
    rw [AggregateConfig.groups_of_nonempty (List.cons_ne_nil field []), gather_groupKey_singleton]
  refine ⟨(differentValues field records).length, _, _, ?_, rfl,
    AggregateConfig.rows_of_unconditional rfl records, ?_, fun apart => ?_, rfl, ?_⟩
  · rw [StepConfig.process, StepConfig.onOne, AggregateConfig.rows_of_unconditional rfl,
      AggregateConfig.groups_of_empty rfl, ← fold_countDistinct]
    rfl
  · rw [groups]
    refine counted.of_forall₂
      (List.forall₂_map_right_iff.mpr (List.forall₂_same.mpr fun group _ => ?_))
    exact (Bool.and_true _).trans (Value.same_null group.1)
  · rw [AggregateConfig.rows_of_unconditional rfl, groups, List.map_map]
    refine counted.of_forall₂
      (List.forall₂_map_right_iff.mpr (List.forall₂_same.mpr fun group hgroup => ?_))
    exact lacks_of_get? hgroup (AggregateConfig.get?_row rfl apart group.1 group.2)
  · have kept := DeduplicateConfig.forall₂_rows ⟨source, output, [field], keep, orderBy⟩ records
    rw [gather_identity_singleton, List.forall₂_map_left_iff] at kept
    refine counted.of_forall₂
      (((List.forall₂_and_left _ _).mpr ⟨fun _ hgroup => hgroup, kept⟩).imp ?_)
    rintro group record ⟨hgroup, hrecord, -⟩
    exact lacks_of_mem_group hgroup hrecord

end RecordFlow
