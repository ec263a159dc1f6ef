import RecordFlow.Proofs.Step.Joining

/-!
# Lookups and inner joins

A lookup attaches to a record the records that a join on the same two fields finds for it. It
has a table of its own, of records by the value of one field, where a join has one of places
by the values of several fields.

## Main definitions

* `LookupConfig.matching` — the records that match a record
* `JoinConfig.IsPlainOn` — a join that only brings together what matches

## Main results

* `LookupConfig.rows_eq` — a lookup attaches what matches
* `JoinConfig.nestedRows_of_isPlainOn` — the rows of a join that only brings together what matches
* `LookupConfig.process_lookup_join` — a lookup attaches what an inner join brings together
-/

namespace RecordFlow

/-! ### Lookups -/

namespace LookupConfig

variable {config : LookupConfig} {source reference : List Record}

/-- The records of the reference set that match a record. -/
def matching (config : LookupConfig) (reference : List Record) (record : Record) : List Record :=
  reference.filter (JoinKey.agree ⟨config.localField, config.foreignField⟩ record)

theorem hasDistinctNames_of_keyOf? {field : String} {record : Record} {key : Value}
    (distinct : (Value.object record).HasDistinctNames) (h : keyOf? field record = some key) :
    key.HasDistinctNames :=
  record.hasDistinctNames_of_getPath? distinct (Option.filter_eq_some_iff.mp h).1

/-- A record matches those that have its key. -/
theorem agree_eq (key : JoinKey) {l r : Record} {k : Value} (found : keyOf? key.left l = some k)
    (hl : (Value.object l).HasDistinctNames) (hr : (Value.object r).HasDistinctNames) :
    key.agree l r = (keyOf? key.right r).any (· == k) := by
  rw [Bool.eq_iff_iff, JoinKey.agree_iff, Option.any_eq_true]
  refine ⟨?_, fun ⟨m, hm, same⟩ => ⟨k, m, found, hm, ?_⟩⟩
  · rintro ⟨k', m, hk', hm, same⟩
    obtain rfl : k' = k := Option.some.inj (hk'.symm.trans found)
    exact ⟨m, hm, Value.same_symm (hasDistinctNames_of_keyOf? hl found)
      (hasDistinctNames_of_keyOf? hr hm) same⟩
  · exact Value.same_symm (hasDistinctNames_of_keyOf? hr hm)
      (hasDistinctNames_of_keyOf? hl found) same

/-- What is found for a record are the records that match it. -/
theorem found_index (distinct : ∀ record ∈ reference, (Value.object record).HasDistinctNames)
    {record : Record} (hrecord : (Value.object record).HasDistinctNames) :
    ((keyOf? config.localField record).bind fun key => groupOf? key (config.index reference)).getD
      [] = config.matching reference record := by
  cases key : keyOf? config.localField record with
  | none =>
    -- A record without a key matches nothing.
    refine (List.filter_eq_nil_iff.mpr fun other _ agree => ?_).symm
    obtain ⟨k, -, found, -⟩ := JoinKey.agree_iff.mp agree
    exact Option.some_ne_none k (found.symm.trans key)
  | some k =>
    refine (groupOf?_keyed id (Value.isKeyComparison ?_)).trans ?_
    · refine List.forall_mem_cons.mpr ⟨hasDistinctNames_of_keyOf? hrecord key, fun m hm => ?_⟩
      obtain ⟨other, hother, h⟩ := List.mem_filterMap.mp hm
      exact hasDistinctNames_of_keyOf? (distinct other hother) h
    · rw [List.map_id]
      refine List.filter_congr fun other hother => ?_
      exact (agree_eq ⟨config.localField, config.foreignField⟩ key hrecord
        (distinct other hother)).symm

/-- A lookup attaches to each record what matches it. -/
theorem rows_eq (distinctSource : ∀ record ∈ source, (Value.object record).HasDistinctNames)
    (distinctReference : ∀ record ∈ reference, (Value.object record).HasDistinctNames) :
    config.rows source reference = source.map fun record =>
      record.setPath config.target (config.attached (config.matching reference record)) :=
  List.map_congr_left fun record hrecord =>
    congrArg (fun found => record.setPath config.target (config.attached found))
      (found_index distinctReference (distinctSource record hrecord))

end LookupConfig

/-! ### Joins that only bring together what matches -/

namespace JoinConfig

/-- A join on one pair of fields that takes all fields under their names,
and only records that match. -/
structure IsPlainOn (config : JoinConfig) (key : JoinKey) : Prop where
  on : config.on = [key]
  kind : config.kind = .inner
  select : config.select = {}
  prefixes : config.prefixes = {}

theorem named_none (record : Record) : named none record = record := by
  simp [named]

theorem nestedRows_of_isPlainOn {config : JoinConfig} {key : JoinKey} (plain : config.IsPlainOn key)
    {left right : List Record}
    (distinct : ∀ record ∈ left, (Value.object record).HasDistinctNames) :
    config.nestedRows left right = left.flatMap fun l =>
      (right.filter (key.agree l)).map l.overwrite := by
  have agree (l : Record) : config.agree l = key.agree l := by
    funext r
    rw [JoinConfig.agree, plain.on, List.all_cons, List.all_nil, Bool.and_true]
  have keepsLeft : config.keepsLeft = false := by rw [JoinConfig.keepsLeft, plain.kind]; rfl
  have keepsRight : config.keepsRight = false := by rw [JoinConfig.keepsRight, plain.kind]; rfl
  have whole (record : Record) : project none record = record := rfl
  have prefixes (l r : List Record) : config.effectivePrefixes l r = (none, none) := by
    rw [effectivePrefixes, plain.prefixes]
  simp only [nestedRows, plain.select, whole, prefixes, named_none, agree, keepsLeft, keepsRight,
    Bool.false_eq_true, if_false, List.append_nil]
  refine List.flatMap_congr fun l hl => ?_
  have nodup := (Value.hasDistinctNames_object_iff.mp (distinct l hl)).1
  have row (r : Record) : Record.ofFields (l ++ r) = l.overwrite r := by
    rw [Record.ofFields_append, Record.ofFields_of_nodup nodup]
  simp only [row]
  cases right.filter (key.agree l) <;> rfl

end JoinConfig

namespace LookupConfig

/-- **A lookup attaches what an inner join brings together.** An inner join on two fields has for
each record of the source, in order, that record overwritten by each of those that match it. A
lookup of several records attaches these to the record in the same order, and a lookup of one
attaches the first of them, or null if there are none. Each record of the source is kept in its
place, and the path leads to what has been attached. -/
theorem process_lookup_join (now : Timestamp) (config : LookupConfig) (join : JoinConfig)
    (plain : join.IsPlainOn ⟨config.localField, config.foreignField⟩)
    (source reference : List Record)
    (distinctSource : ∀ record ∈ source, (Value.object record).HasDistinctNames)
    (distinctReference : ∀ record ∈ reference, (Value.object record).HasDistinctNames) :
    StepConfig.process now [source, reference] (.join join) =
      .ok ⟨source.flatMap fun record => (config.matching reference record).map record.overwrite,
        source.length + reference.length⟩ ∧
    StepConfig.process now [source, reference] (.lookup { config with multiple := true }) =
      .ok ⟨source.map fun record =>
        record.setPath config.target (.list ((config.matching reference record).map .object)),
          source.length⟩ ∧
    StepConfig.process now [source, reference] (.lookup { config with multiple := false }) =
      .ok ⟨source.map fun record =>
        record.setPath config.target
          (((config.matching reference record).head?.map .object).getD .null), source.length⟩ ∧
    (∀ (record : Record) (attached : Value),
      (record.setPath config.target attached).descend? (pathSegments config.target) =
        some attached) ∧
    (∀ (record : Record), ∀ other ∈ reference, ∀ name,
      (record.overwrite other).get? name = (other.get? name).or (record.get? name)) := by
  refine ⟨?_, ?_, ?_, fun record => record.descend?_setPath config.target,
    fun record other hother => ?_⟩
  · rw [StepConfig.process, plain.on, if_neg (by simp),
      JoinConfig.rows_eq_nestedRows distinctSource distinctReference,
      JoinConfig.nestedRows_of_isPlainOn plain distinctSource]
    rfl
  · rw [StepConfig.process, rows_eq distinctSource distinctReference]
    rfl
  · rw [StepConfig.process, rows_eq distinctSource distinctReference]
    rfl
  · exact record.get?_overwrite
      (Value.hasDistinctNames_object_iff.mp (distinctReference other hother)).1

/-- Who made a visit, in an object of its own. -/
def visitors : LookupConfig where
  source := "visits"
  reference := "people"
  localField := "person"
  foreignField := "id"
  target := "by.found"
  multiple := true
  output := "visitors"

def visitsOfPeople : JoinConfig where
  left := "visits"
  right := "people"
  output := "joined"
  on := [⟨"person", "id"⟩]
  kind := .inner
  select := {}
  prefixes := {}

def visits : List Record :=
  [[("person", .int 1), ("name", .text "first")], [("person", .null)], [("person", .int 2)]]

def people : List Record :=
  [[("id", .null)], [("id", .float 1.0), ("name", .text "Alice")],
    [("name", .text "Bob")], [("id", .int 1)]]

theorem process_lookup_join_visits :
    StepConfig.process .epoch [visits, people] (.join visitsOfPeople) =
      .ok ⟨[[("person", .int 1), ("name", .text "Alice"), ("id", .float 1.0)],
        [("person", .int 1), ("name", .text "first"), ("id", .int 1)]], 7⟩ ∧
    StepConfig.process .epoch [visits, people] (.lookup visitors) =
      .ok ⟨[[("person", .int 1), ("name", .text "first"), ("by", .object [("found", .list
          [.object [("id", .float 1.0), ("name", .text "Alice")], .object [("id", .int 1)]])])],
        [("person", .null), ("by", .object [("found", .list [])])],
        [("person", .int 2), ("by", .object [("found", .list [])])]], 3⟩ ∧
    StepConfig.process .epoch [visits, people] (.lookup { visitors with multiple := false }) =
      .ok ⟨[[("person", .int 1), ("name", .text "first"), ("by", .object [("found",
          .object [("id", .float 1.0), ("name", .text "Alice")])])],
        [("person", .null), ("by", .object [("found", .null)])],
        [("person", .int 2), ("by", .object [("found", .null)])]], 3⟩ := by
  have plain : visitsOfPeople.IsPlainOn ⟨"person", "id"⟩ := ⟨rfl, rfl, rfl, rfl⟩
  obtain ⟨join, many, one, -⟩ :=
    process_lookup_join .epoch visitors visitsOfPeople plain visits people (by decide) (by decide)
  exact ⟨join.trans rfl, many.trans rfl, one.trans rfl⟩

end LookupConfig

end RecordFlow
