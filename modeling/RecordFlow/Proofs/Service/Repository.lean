import RecordFlow.Proofs.Document.Structures
import RecordFlow.Proofs.Run.MemoryHost
import RecordFlow.Service.Repository

/-!
# Records of items on a store in memory

On a store in memory that refuses nothing, what the repository does to the records of a
collection is told exactly. When the records are those of the items of a list, it keeps
this list: what is saved replaces the items of its key, and what is found and deleted are
the items that a filter selects.

## Main definitions

* `World.records` — the records of a collection that may be absent
* `replaceKeyed` — the items of a list when one is saved
* `Keeping`, `Keeping.Holds` — how items are kept, and which are held

## Main results

* `replaceById_run`, `findBy_run`, `deleteWhere_run` — what is done to records
* `Keeping.Holds.save`, `Keeping.Holds.find`, `Keeping.Holds.delete` — what is done to items
-/

namespace RecordFlow

variable {ω α β : Type} {env : Environment ω}

/-! ### Items with keys -/

section

variable {key : α → String} {as : List α} {a b : α}

/-- Among items with different keys one is found by its key. -/
theorem find?_key_iff (nodup : (as.map key).Nodup) {id : String} :
    as.find? (fun a => key a == id) = some a ↔ a ∈ as ∧ key a = id := by
  constructor
  · intro found
    exact ⟨List.mem_of_find?_eq_some found, by simpa using List.find?_some found⟩
  · rintro ⟨ha, rfl⟩
    cases found : as.find? (fun other => key other == key a) with
    | none => exact absurd (beq_self_eq_true (key a)) (List.find?_eq_none.mp found a ha)
    | some other =>
      have same : key other = key a := by simpa using List.find?_some found
      rw [List.inj_on_of_nodup_map nodup (List.mem_of_find?_eq_some found) ha same]

/-- Items when one of them is saved: it replaces those of its key. -/
def replaceKeyed (key : α → String) (a : α) (as : List α) : List α :=
  as.filter (key · != key a) ++ [a]

theorem mem_replaceKeyed_iff : b ∈ replaceKeyed key a as ↔ b ∈ as ∧ key b ≠ key a ∨ b = a := by
  simp [replaceKeyed]

theorem nodup_filter_key (nodup : (as.map key).Nodup) (select : α → Bool) :
    ((as.filter select).map key).Nodup :=
  (List.filter_sublist.map key).nodup nodup

theorem nodup_replaceKeyed (nodup : (as.map key).Nodup) (a : α) :
    ((replaceKeyed key a as).map key).Nodup := by
  rw [replaceKeyed, List.map_append, List.map_singleton, ← List.concat_eq_append]
  refine (nodup_filter_key nodup _).concat fun hmem => ?_
  obtain ⟨b, hb, same⟩ := List.mem_map.mp hmem
  simpa [same] using (List.mem_filter.mp hb).2

/-- An item that replaces one that was saved before leaves nothing of it. -/
theorem replaceKeyed_replaceKeyed (as : List α) (same : key a = key b) :
    replaceKeyed key b (replaceKeyed key a as) = replaceKeyed key b as := by
  simp [replaceKeyed, List.filter_append, same]

end

/-! ### Records -/

/-- The records of a collection; none if there is no such collection. -/
def World.records (w : World ω) (name : String) : List Record := (w.stored.records? name).getD []

theorem RecordStore.deleteWhere_memory_run (name : String) (filter : RecordFilter) (w : World ω) :
    ((RecordStore.memory : RecordStore (StateM (World ω))).deleteWhere name filter).run.run w =
      (.ok ((w.records name).length - ((w.records name).filter (!filter.holds ·)).length),
        { w with stored := if (w.stored.records? name).isSome then
          w.stored.put name ((w.records name).filter (!filter.holds ·)) else w.stored }) := by
  simp only [RecordStore.memory, run_exceptBind, getThe_run, World.records]
  cases w.stored.records? name <;> rfl

/-- A deletion that selects no records makes no collection and puts back what was there. -/
theorem World.put_of_none_selected {w : World ω} {name : String} {filter : RecordFilter}
    (none : ∀ record ∈ w.records name, filter.holds record = false) :
    (if (w.stored.records? name).isSome then
      w.stored.put name ((w.records name).filter (!filter.holds ·)) else w.stored) = w.stored := by
  split
  next there =>
    obtain ⟨records, found⟩ := Option.isSome_iff_exists.mp there
    rw [List.filter_eq_self.mpr fun record hrecord => by rw [none record hrecord]; rfl,
      World.records, found]
    exact Collections.put_eq_self found
  next => rfl

section

variable (never : env.NeverRefuses) (name : String) (filter : RecordFilter) (w : World ω)

include never

/-- The records that a filter selects are found. -/
theorem findRecords_run : ∃ around,
    (findRecords (memoryHost env).store name filter).run.run w =
      (.ok ((w.records name).filter filter.holds), { w with around }) := by
  obtain ⟨around, has⟩ := allowed_run never ⟨.has, name⟩ (RecordStore.memory.has name) w
  obtain ⟨around', find⟩ :=
    allowed_run never ⟨.find, name⟩ (RecordStore.memory.find name filter) { w with around }
  have asked : ((memoryHost env).store.has name).run.run w =
      (.ok (w.stored.records? name).isSome, { w with around }) := has
  rw [findRecords, run_exceptBind, asked]
  -- A collection that is not there is not asked for its records, so the
  -- store is called once or twice.
  cases found : w.stored.records? name with
  | none =>
    refine ⟨around, ?_⟩
    simp only [Option.isSome_none, Bool.false_eq_true, if_false, World.records, found]
    rfl
  | some records =>
    refine ⟨around', ?_⟩
    simp only [Option.isSome_some, if_true, World.records, found, Option.getD_some]
    refine find.trans ?_
    simp only [RecordStore.memory, run_exceptBind, getThe_run, found]
    rfl

/-- What is read from the records that a filter selects. -/
theorem findBy_run (reader : Reader Json α) : ∃ around,
    (findBy (memoryHost env).store reader name filter).run.run w =
      (((w.records name).filter filter.holds).mapM (decodeRecord reader), { w with around }) := by
  obtain ⟨around, found⟩ := findRecords_run never name filter w
  refine ⟨around, ?_⟩
  rw [findBy, run_exceptBind, found]
  rfl

/-- The records that a filter selects are deleted and counted; a collection
that is not there is not made. -/
theorem deleteWhere_run : ∃ around,
    ((memoryHost env).store.deleteWhere name filter).run.run w =
      (.ok ((w.records name).length - ((w.records name).filter (!filter.holds ·)).length),
        ⟨if (w.stored.records? name).isSome then
          w.stored.put name ((w.records name).filter (!filter.holds ·))
          else w.stored, around⟩) := by
  obtain ⟨around, done⟩ :=
    allowed_run never ⟨.deleteWhere, name⟩ (RecordStore.memory.deleteWhere name filter) w
  exact ⟨around, Eq.trans done (RecordStore.deleteWhere_memory_run name filter _)⟩

/-- Behind a deletion the records are left that the filter does not select, and if it
selects none nothing has happened. -/
theorem exists_deleteWhere_run : ∃ w',
    ((memoryHost env).store.deleteWhere name filter).run.run w =
      (.ok ((w.records name).countP filter.holds), w') ∧
      w'.records name = (w.records name).filter (!filter.holds ·) ∧
      (∀ other ≠ name, w'.stored.records? other = w.stored.records? other) ∧
      ((∀ record ∈ w.records name, filter.holds record = false) → w'.stored = w.stored) := by
  obtain ⟨around, deleted⟩ := deleteWhere_run never name filter w
  have counted : (w.records name).length - ((w.records name).filter (!filter.holds ·)).length =
      (w.records name).countP filter.holds := by
    rw [← List.countP_eq_length_filter, List.length_eq_countP_add_countP filter.holds]
    simp
  rw [counted] at deleted
  refine ⟨_, deleted, ?_, fun other different => ?_, World.put_of_none_selected⟩
  · cases there : w.stored.records? name with
    | none => simp [World.records, there]
    | some records => simp [World.records, there, Collections.records?_put_self]
  · dsimp only
    split
    · exact Collections.records?_put_of_ne different
    · rfl

/-- Records are put behind those of a collection. -/
theorem Environment.NeverRefuses.createMany_run (records : List Record) : ∃ around,
    ((memoryHost env).store.createMany name records).run.run w =
      (.ok records.length, ⟨w.stored.put name (w.records name ++ records), around⟩) := by
  obtain ⟨around, done⟩ :=
    allowed_run never ⟨.createMany, name⟩ (RecordStore.memory.createMany name records) w
  exact ⟨around, done⟩

/-- A record is saved behind the records of other ids. -/
theorem replaceById_run (id : String) (record : Record) : ∃ around,
    (replaceById (memoryHost env).store name id record).run.run w =
      (.ok (), ⟨w.stored.put name
        ((w.records name).filter (!(fieldIs "id" id).holds ·) ++ [record]), around⟩) := by
  obtain ⟨around, deleted⟩ := deleteWhere_run never name (fieldIs "id" id) w
  rw [replaceById, run_exceptBind, deleted]
  generalize hkept : (w.records name).filter (!(fieldIs "id" id).holds ·) = kept
  cases there : w.stored.records? name with
  | none =>
    -- The collection is made with the first record.
    obtain ⟨around', created⟩ := never.createMany_run name ⟨w.stored, around⟩ [record]
    refine ⟨around', ?_⟩
    rw [World.records, there, Option.getD_none, List.filter_nil] at hkept
    simp only [Option.isSome_none, Bool.false_eq_true, if_false, run_exceptBind, created]
    simp only [World.records, there, Option.getD_none, ← hkept]
    rfl
  | some records =>
    -- The collection is put twice, and the second time replaces the first.
    obtain ⟨around', created⟩ := never.createMany_run name ⟨w.stored.put name kept, around⟩ [record]
    refine ⟨around', ?_⟩
    simp only [Option.isSome_some, if_true, run_exceptBind, created]
    simp only [World.records, Collections.records?_put_self, Option.getD_some, Collections.put_put]
    rfl

end

/-- A field with a text is found by it. -/
theorem holds_fieldIs {record : Record} {name text : String} (named : name.isEmpty = false)
    (h : record.get? name = some (.text text)) (wanted : String) :
    (fieldIs name wanted).holds record = (text == wanted) := by
  have found : record.getPath? name = some (.text text) := by
    rw [Record.getPath?, named, h]
    rfl
  simp only [fieldIs, RecordFilter.holds, FieldFilter.holds,
    FilterOp.comparison, Comparison.test, found, Option.getD_some]
  simp only [BEq.beq, Value.same]

/-! ### Records of documents -/

/-- The fields of a document are those of its record. -/
theorem get?_recordOfObject (fields : List (String × Json)) (name : String) :
    (recordOfObject (.obj fields)).get? name = (fields.lookup name).map Json.toValue := by
  rw [recordOfObject, Json.toValue, Json.toFields_eq_map, Record.get?]
  induction fields with
  | nil => rfl
  | cons field fields ih =>
    rw [List.map_cons, List.lookup_cons, List.lookup_cons]
    cases name == field.1 with
    | true => rfl
    | false => exact ih

/-- A document is read again from its record if its integers are signed integers of 64 bits. -/
theorem decodeRecord_recordOfObject {reader : Reader Json α} {fields : List (String × Json)} {a : α}
    (fits : (Json.obj fields).Fits int64Limit) (read : reader (.obj fields) = .ok a) :
    decodeRecord reader (recordOfObject (.obj fields)) = .ok a := by
  have same : Json.ofRecord (recordOfObject (.obj fields)) = .obj fields := by
    have back := Json.ofValue_toValue fits
    rwa [Json.toValue, Json.ofValue] at back
  rw [decodeRecord, same, read, mapError_ok]

/-- What is read from a record is read from a document whose integers are
signed integers of 64 bits. -/
theorem exists_of_decodeRecord {reader : Reader Json α} {record : Record} {a : α}
    (h : decodeRecord reader record = .ok a) :
    ∃ json, json.Fits int64Limit ∧ reader json = .ok a := by
  refine ⟨.ofRecord record, .obj (Json.fits_ofFields record), ?_⟩
  rw [decodeRecord] at h
  cases read : reader (.ofRecord record) with
  | error rejection => simp [read] at h
  | ok same =>
    rw [read, mapError_ok, Except.ok.injEq] at h
    rw [h]

/-! ### Records of items -/

section

variable {toRecord : α → Record} {filter : RecordFilter} {select : α → Bool}

/-- The records that a filter selects are those of the items that it selects. -/
theorem filter_records (agrees : ∀ a, filter.holds (toRecord a) = select a) (items : List α) :
    (items.map toRecord).filter filter.holds = (items.filter select).map toRecord := by
  rw [List.filter_map]
  exact congrArg (List.map toRecord) (List.filter_congr fun a _ => agrees a)

/-- The others are those of the other items. -/
theorem filter_not_records (agrees : ∀ a, filter.holds (toRecord a) = select a) (items : List α) :
    (items.map toRecord).filter (!filter.holds ·) = (items.filter (!select ·)).map toRecord := by
  rw [List.filter_map]
  exact congrArg (List.map toRecord) (List.filter_congr fun a _ => congrArg (!·) (agrees a))

end

/-- How items are kept: in which collection, as which records, and by which keys. Not all items can
be read again from their records. -/
structure Keeping (α : Type) where
  collection : String
  toRecord : α → Record
  key : α → String
  IsReadable : α → Prop
  keyed : ∀ id a, (fieldIs "id" id).holds (toRecord a) = (key a == id)

/-- The collection holds certain items, that can be read again. -/
structure Keeping.Holds (keeping : Keeping α) (w : World ω) (items : List α) : Prop where
  records : w.records keeping.collection = items.map keeping.toRecord
  readable : ∀ a ∈ items, keeping.IsReadable a

namespace Keeping.Holds

variable {keeping : Keeping α} {items : List α} {w w' : World ω} {filter : RecordFilter}
  {select : α → Bool}

/-- The items are still held where their collection is as it was. -/
theorem of_records?_eq (holds : keeping.Holds w items)
    (same : w'.stored.records? keeping.collection = w.stored.records? keeping.collection) :
    keeping.Holds w' items where
  records := (congrArg (Option.getD · []) same).trans holds.records
  readable := holds.readable

/-- Of the items those are found that a filter selects. -/
theorem find (never : env.NeverRefuses) (holds : keeping.Holds w items)
    (agrees : ∀ a, filter.holds (keeping.toRecord a) = select a)
    {reader : Reader Json β} {read : α → β}
    (reads : ∀ a, keeping.IsReadable a → decodeRecord reader (keeping.toRecord a) = .ok (read a)) :
    ∃ around, (findBy (memoryHost env).store reader keeping.collection filter).run.run w =
      (.ok ((items.filter select).map read), { w with around }) := by
  obtain ⟨around, found⟩ := findBy_run never keeping.collection filter w reader
  refine ⟨around, ?_⟩
  rw [found, holds.records, filter_records agrees]
  congr 1
  rw [mapM_eq_ok_iff, List.forall₂_map_left_iff, List.forall₂_map_right_iff]
  exact List.forall₂_same.mpr fun a ha => reads a (holds.readable a (List.mem_filter.mp ha).1)

/-- An item is saved in the place of those of its key. -/
theorem save (never : env.NeverRefuses) (holds : keeping.Holds w items) {a : α}
    (readable : keeping.IsReadable a) : ∃ w',
    (replaceById (memoryHost env).store keeping.collection (keeping.key a)
      (keeping.toRecord a)).run.run w =
        (.ok (), w') ∧
      keeping.Holds w' (replaceKeyed keeping.key a items) ∧
      ∀ name ≠ keeping.collection, w'.stored.records? name = w.stored.records? name := by
  obtain ⟨around, saved⟩ :=
    replaceById_run never keeping.collection w (keeping.key a) (keeping.toRecord a)
  refine ⟨_, saved, ⟨?_, fun b hb => ?_⟩,
    fun name different => Collections.records?_put_of_ne different⟩
  · rw [World.records, Collections.records?_put_self, Option.getD_some, holds.records,
      filter_not_records (keeping.keyed (keeping.key a)), replaceKeyed,
      List.map_append, List.map_singleton]
    rfl
  · obtain ⟨old, -⟩ | rfl := mem_replaceKeyed_iff.mp hb
    · exact holds.readable b old
    · exact readable

/-- The items that a filter selects are deleted and counted. If there are none, nothing happens. -/
theorem delete (never : env.NeverRefuses) (holds : keeping.Holds w items)
    (agrees : ∀ a, filter.holds (keeping.toRecord a) = select a) : ∃ w',
    ((memoryHost env).store.deleteWhere keeping.collection filter).run.run w =
        (.ok (items.countP select), w') ∧
      keeping.Holds w' (items.filter (!select ·)) ∧
      (∀ name ≠ keeping.collection, w'.stored.records? name = w.stored.records? name) ∧
      ((∀ a ∈ items, select a = false) → w'.stored = w.stored) := by
  obtain ⟨w', deleted, left, others, unchanged⟩ :=
    exists_deleteWhere_run never keeping.collection filter w
  rw [holds.records] at deleted left unchanged
  refine ⟨w', ?_, ⟨?_, fun a ha => holds.readable a (List.mem_filter.mp ha).1⟩, others,
    fun none => ?_⟩
  · rw [deleted, List.countP_map]
    exact congrArg (fun n => (Except.ok n, w')) (List.countP_congr fun a _ => by simp [agrees a])
  · rw [left, filter_not_records agrees]
  · exact unchanged (List.forall_mem_map.mpr fun a ha => (agrees a).trans (none a ha))

end Keeping.Holds

end RecordFlow
