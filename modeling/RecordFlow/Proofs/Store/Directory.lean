import Mathlib.Data.List.Nodup
import Mathlib.Data.List.TakeWhile
import Mathlib.Logic.Function.Basic
import RecordFlow.Proofs.Action
import RecordFlow.Proofs.Source.JsonFile
import RecordFlow.Proofs.Store.Collections
import RecordFlow.Store.OnFiles

/-!
# Collections in a directory

A file system that keeps the files of a directory keeps collections in it, each in a file of its
own: they are found and read again, and what is saved is what the directory holds from then on.

## Main definitions

* `FileSystem.KeepsFiles` — a file system keeps the files of a directory
* `Collections.files` — the files in which collections are kept
* `Collections.IsStorable` — collections that can be kept in files

## Main results

* `collectionOfFile?_eq_some_iff` — a collection and its file know each other by their names
* `KeepsFiles.exists_locate_run`, `KeepsFiles.exists_load?_run`, `KeepsFiles.exists_save_run`
  — what is found, read and saved
-/

namespace RecordFlow

variable {σ : Type}

/-! ### Directories that keep their files -/

/-- A file system keeps the files of a directory under the names that it takes.
`Shows w contents` says that in the state `w` the directory is there, and that it holds the files
`contents` and nothing else. -/
structure FileSystem.KeepsFiles (files : FileSystem (StateM σ))
    (directory : String) (Takes : String → Prop) (Shows : σ → (String → Option ByteArray) → Prop) :
    Prop where
  exists_kind?_run {w : σ} {contents : String → Option ByteArray} {name : String} :
    Shows w contents → Takes name → ∃ w', Shows w' contents ∧
      (files.kind? (joinPath directory name)).run w = ((contents name).map fun _ => .file, w')
  exists_read_run {w : σ} {contents : String → Option ByteArray}
    {name : String} {bytes : ByteArray} :
    Shows w contents → Takes name → contents name = some bytes → ∃ w', Shows w' contents ∧
      (files.read (joinPath directory name)).run.run w = (.ok bytes, w')
  exists_write_run {w : σ} {contents : String → Option ByteArray}
    {name : String} (bytes : ByteArray) :
    Shows w contents → Takes name → ∃ w', Shows w' (Function.update contents name (some bytes)) ∧
      (files.write (joinPath directory name) bytes).run.run w = (.ok (), w')
  exists_remove_run {w : σ} {contents : String → Option ByteArray} {name : String} :
    Shows w contents → Takes name → (contents name).isSome →
      ∃ w', Shows w' (Function.update contents name none) ∧
        (files.remove (joinPath directory name)).run.run w = (.ok (), w')
  exists_entries_run {w : σ} {contents : String → Option ByteArray} :
    Shows w contents → ∃ entries w', Shows w' contents ∧
      (files.entries directory).run.run w = (.ok entries, w') ∧ (entries.map Prod.fst).Nodup ∧
      ∀ name kind, (name, kind) ∈ entries ↔ (contents name).isSome ∧ kind = .file

/-! ### Names of collections and of files -/

/-- A name is cut at its last dot, unless there is nothing in front of it. -/
theorem splitExtension?_append (front : String) {behind : String} (noDot : '.' ∉ behind.toList) :
    splitExtension? (front ++ "." ++ behind) = if front =
      "" then none else some (front, behind) := by
  have reversed : (front ++ "." ++ behind).toList.reverse =
      behind.toList.reverse ++ '.' :: front.toList.reverse := by simp
  have taken : (behind.toList.reverse ++ '.' :: front.toList.reverse).takeWhile (· != '.') =
      behind.toList.reverse := by
    rw [List.takeWhile_append_of_pos, List.takeWhile_cons_of_neg (by simp), List.append_nil]
    rintro c hc
    simpa using fun same : c = '.' => noDot (same ▸ List.mem_reverse.mp hc)
  rw [splitExtension?]
  simp only [reversed]
  rw [taken, List.drop_left]
  split
  next c c' cs cut =>
    have whole : front.toList.reverse = c' :: cs := (List.cons.inj cut).2
    have nonempty : front ≠ "" := by rintro rfl; cases whole
    rw [if_neg nonempty, ← whole, List.reverse_reverse, List.reverse_reverse, String.ofList_toList,
      String.ofList_toList]
  next other =>
    have empty : front.toList.reverse = [] := by
      by_contra h
      obtain ⟨c, cs, hcs⟩ := List.exists_cons_of_ne_nil h
      exact other '.' c cs (hcs ▸ rfl)
    rw [if_pos (by simpa using empty)]

theorem splitExtension?_eq_some_iff {file front behind : String} :
    splitExtension? file = some (front, behind) ↔
      front ≠ "" ∧ '.' ∉ behind.toList ∧ file = front ++ "." ++ behind := by
  constructor
  · intro cut
    by_cases dot : '.' ∈ file.toList.reverse
    · obtain ⟨a, b, reversed, noDot⟩ := List.eq_append_cons_of_mem dot
      have whole : file = String.ofList b.reverse ++ "." ++ String.ofList a.reverse := by
        apply String.toList_injective
        rw [← List.reverse_inj, reversed]
        simp
      rw [whole, splitExtension?_append _ (by simpa using noDot),
        Option.ite_none_left_eq_some] at cut
      obtain ⟨nonempty, same⟩ := cut
      cases same
      exact ⟨nonempty, by simpa using noDot, whole⟩
    · -- Without a dot there is nothing left in front of what is taken.
      have taken : file.toList.reverse.takeWhile (· != '.') = file.toList.reverse := by
        refine List.takeWhile_eq_self_iff.mpr fun c hc => ?_
        simpa using fun same : c = '.' => dot (same ▸ hc)
      simp only [splitExtension?, taken, List.drop_length] at cut
      cases cut
  · rintro ⟨nonempty, noDot, rfl⟩
    rw [splitExtension?_append front noDot, if_neg nonempty]

/-- A collection and its file know each other by their names. -/
theorem collectionOfFile?_eq_some_iff {entry : String × FileKind} {name : String} :
    collectionOfFile? entry = some name ↔ name ≠ "" ∧ entry = (name ++ ".json", .file) := by
  obtain ⟨file, _ | _⟩ := entry
  · have cut : collectionOfFile? (file, .file) = some name ↔
        splitExtension? file = some (name, "json") := by
      rw [collectionOfFile?]
      split
      next front found => simp [found]
      next other => simpa using other name
    rw [cut, splitExtension?_eq_some_iff, String.append_assoc]
    simp
  · simp [collectionOfFile?]

theorem ne_empty_of_isFileName {name : String} (h : isFileName name = true) : name ≠ "" := by
  rintro rfl
  cases h

/-! ### Collections and their files -/

/-- The file of a collection as it is written. -/
def fileOfRecords (records : List Record) : ByteArray :=
  Text.bytesOfText (JsonFile.text true records)

/-- A record can be kept in a file: it can be written and read again, and it does
not lie too deep for the file. -/
def Record.IsStorable (record : Record) : Prop :=
  record.IsWritable ∧ (Json.ofRecord record).depth ≤ 126

theorem Record.isStorable_of_ofRecords {records : List Record}
    (writable : ∀ record ∈ records, record.IsWritable)
    (shallow : (Json.ofRecords records).depth ≤ 127) : ∀ record ∈ records, record.IsStorable :=
  fun record hrecord => ⟨writable record hrecord,
    Json.depth_arr_le_iff.mp shallow _ (List.mem_map_of_mem hrecord)⟩

/-- Records that can be kept in a file are read again from it. -/
theorem records_fileOfRecords {records : List Record}
    (storable : ∀ record ∈ records, record.IsStorable) (file : String) :
    JsonFile.records file none (fileOfRecords records) = .ok records := by
  have writable : ∀ record ∈ records, record.IsWritable :=
    fun record hrecord => (storable record hrecord).1
  have shallow : (Json.ofRecords records).depth ≤ 127 :=
    Json.depth_arr_le_iff.mpr
      (List.forall_mem_map.mpr fun record hrecord => (storable record hrecord).2)
  rw [JsonFile.records, fileOfRecords, JsonFile.document_text writable true shallow]
  exact JsonFile.recordsAt_ofRecords writable file

namespace Collections

variable {collections : Collections} {name : String} {records : List Record}

/-- The files in which collections are kept. -/
def files (collections : Collections) (file : String) : Option ByteArray :=
  ((collectionOfFile? (file, .file)).bind collections.records?).map fileOfRecords

@[simp] theorem files_nil : files [] = fun _ => none := by
  funext file
  rw [files]
  cases collectionOfFile? (file, .file) <;> rfl

theorem files_eq (collections : Collections) (nonempty : name ≠ "") :
    collections.files (name ++ ".json") = (collections.records? name).map fileOfRecords := by
  rw [files, collectionOfFile?_eq_some_iff.mpr ⟨nonempty, rfl⟩, Option.bind_some]

theorem isSome_files_iff (nonempty : name ≠ "") :
    (collections.files (name ++ ".json")).isSome ↔ name ∈ collections.map Prod.fst := by
  rw [files_eq collections nonempty, Option.isSome_map, Option.isSome_iff_ne_none, Ne,
    records?_eq_none_iff_not_mem, not_not]

/-- Collections that differ in one of them have the same files but for one. -/
theorem files_eq_update {changed : Collections} (nonempty : name ≠ "")
    (others : ∀ other ≠ name, changed.records? other = collections.records? other) :
    changed.files =
      Function.update collections.files (name ++ ".json")
      ((changed.records? name).map fileOfRecords) := by
  funext file
  by_cases same : file = name ++ ".json"
  · rw [same, Function.update_self, files_eq changed nonempty]
  · rw [Function.update_of_ne same, files, files]
    cases of : collectionOfFile? (file, .file) with
    | none => rfl
    | some other =>
      have different : other ≠ name := by
        rintro rfl
        exact same (congrArg Prod.fst (collectionOfFile?_eq_some_iff.mp of).2)
      rw [Option.bind_some, Option.bind_some, others other different]

theorem files_put (nonempty : name ≠ "") : (collections.put name records).files =
    Function.update collections.files (name ++ ".json") (some (fileOfRecords records)) := by
  rw [files_eq_update nonempty fun other different => records?_put_of_ne different,
    records?_put_self]
  rfl

theorem files_remove (nonempty : name ≠ "") :
    (collections.remove name).files = Function.update collections.files (name ++ ".json") none := by
  rw [files_eq_update nonempty fun other different => records?_remove.trans (if_neg different),
    records?_remove, if_pos rfl]
  rfl

/-- Collections can be kept in files: their names are ones for files and occur
once, and so can their records. -/
structure IsStorable (collections : Collections) : Prop where
  nodup : (collections.map Prod.fst).Nodup
  isFileName {name : String} : name ∈ collections.map Prod.fst → isFileName name = true
  records {name : String} {records : List Record} :
    collections.records? name = some records → ∀ record ∈ records, record.IsStorable

namespace IsStorable

theorem nil : IsStorable [] where
  nodup := .nil
  isFileName none := by cases none
  records none := by cases none

theorem put (storable : collections.IsStorable) (valid : RecordFlow.isFileName name = true)
    (each : ∀ record ∈ records, record.IsStorable) : (collections.put name records).IsStorable where
  nodup := nodup_put storable.nodup
  isFileName hname := (mem_put_iff.mp hname).elim storable.isFileName fun same => same ▸ valid
  records found := by
    rw [records?_put] at found
    split at found
    · exact Option.some.inj found ▸ each
    · exact storable.records found

theorem remove (storable : collections.IsStorable) : (collections.remove name).IsStorable where
  nodup := nodup_remove storable.nodup
  isFileName hname := storable.isFileName ((List.filter_sublist.map Prod.fst).mem hname)
  records found := by
    rw [records?_remove, Option.ite_none_left_eq_some] at found
    exact storable.records found.2

end IsStorable

end Collections

/-! ### What is found, read and saved -/

theorem pathOf_run {name : String} (valid : isFileName name = true) (directory : String) (w : σ) :
    (pathOf directory name : ExceptT StorageError (StateM σ) String).run.run w =
      (.ok (joinPath directory (name ++ ".json")), w) := by
  rw [pathOf, collectionPath, if_pos valid]
  rfl

namespace FileSystem.KeepsFiles

variable {files : FileSystem (StateM σ)} {directory : String} {Takes : String → Prop}
  {Shows : σ → (String → Option ByteArray) → Prop} (keeps : files.KeepsFiles directory Takes Shows)
  {w : σ} {collections : Collections} (shown : Shows w collections.files) {name : String}
  (valid : isFileName name = true) (takes : Takes (name ++ ".json"))

include keeps shown valid takes

theorem exists_locate_run : ∃ w', Shows w' collections.files ∧
    (locate files directory name).run.run w =
      (.ok (joinPath directory (name ++ ".json"), (collections.records? name).isSome), w') := by
  obtain ⟨w', shown', kind⟩ := keeps.exists_kind?_run shown takes
  refine ⟨w', shown', ?_⟩
  simp only [locate, run_exceptBind, pathOf_run valid, run_lift, kind]
  rw [collections.files_eq (ne_empty_of_isFileName valid), Option.isSome_map, Option.isSome_map]
  rfl

theorem exists_load?_run (storable : collections.IsStorable) : ∃ w', Shows w' collections.files ∧
    (load? files directory name).run.run w = (.ok (collections.records? name), w') := by
  obtain ⟨w', shown', located⟩ := keeps.exists_locate_run shown valid takes
  cases found : collections.records? name with
  | none =>
    refine ⟨w', shown', ?_⟩
    rw [load?, run_exceptBind, located, found]
    rfl
  | some records =>
    have kept : collections.files (name ++ ".json") = some (fileOfRecords records) := by
      rw [collections.files_eq (ne_empty_of_isFileName valid), found, Option.map_some]
    obtain ⟨w'', shown'', read⟩ := keeps.exists_read_run shown' takes kept
    refine ⟨w'', shown'', ?_⟩
    rw [load?, run_exceptBind, located, found]
    simp only [Option.isSome_some, if_true]
    simp only [run_exceptBind, run_adapt, readJsonRecords, readData, read, mapError_ok]
    rw [records_fileOfRecords (storable.records found)]
    rfl

theorem exists_save_run (records : List Record) :
    ∃ w', Shows w' (collections.put name records).files ∧
      (save files directory name records).run.run w = (.ok (), w') := by
  obtain ⟨w', shown', written⟩ := keeps.exists_write_run (fileOfRecords records) shown takes
  refine ⟨w', ?_, ?_⟩
  · rwa [Collections.files_put (ne_empty_of_isFileName valid)]
  · rw [fileOfRecords] at written
    simp only [save, writeJsonRecords, run_exceptBind, run_adapt, pathOf_run valid, written,
      mapError_ok]

end FileSystem.KeepsFiles

end RecordFlow
