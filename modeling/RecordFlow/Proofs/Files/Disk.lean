import RecordFlow.Files.Disk
import RecordFlow.Proofs.Store.Directory
import RecordFlow.Proofs.Text.Split

/-!
# Directories of a disk

A disk keeps the files of each of its directories: below a directory every name leads to a place of
its own, and what is written there changes nothing else.

## Main definitions

* `Disk.TakesName` — names of files
* `Disk.ShowsFiles` — a directory of a disk holds certain files and nothing else

## Main results

* `Disk.follow_joinPath` — where a name in a directory leads to
* `Disk.keepsFiles` — a disk keeps the files of a directory
-/

namespace RecordFlow

namespace Disk

variable {disk other : Disk} {place place' : List String} {names : List String}

theorem followFrom_append (rest : List String) : disk.followFrom place (names ++ rest) =
    (disk.followFrom place names).bind fun reached => disk.followFrom reached rest := by
  induction names generalizing place with
  | nil => rfl
  | cons name names ih =>
    simp only [List.cons_append, followFrom]
    cases disk.obstacle? place with
    | some error => rfl
    | none =>
      simp only
      split_ifs
      · exact ih
      · exact ih
      · rfl
      · exact ih

theorem obstacle?_eq_none_iff :
    disk.obstacle? place = none ↔ disk.entry? place = some .directory := by
  rw [obstacle?]
  split <;> simp_all

/-- A path leads to the same place where the same directories are. -/
theorem followFrom_of_directories
    (kept : ∀ place, disk.entry? place = some .directory → other.entry? place = some .directory)
    (h : disk.followFrom place names = .ok place') : other.followFrom place names = .ok place' := by
  induction names generalizing place with
  | nil => exact h
  | cons name names ih =>
    rw [followFrom] at h ⊢
    cases free : disk.obstacle? place with
    | some error => rw [free] at h; cases h
    | none =>
      rw [obstacle?_eq_none_iff.mpr (kept _ (obstacle?_eq_none_iff.mp free))]
      rw [free] at h
      simp only at h ⊢
      split_ifs at h ⊢
      · exact ih h
      · exact ih h
      · exact ih h

/-! ### Names in a directory -/

/-- A name that a disk takes for a file: it leads no further than to one place below the
directory, and is not too long. -/
structure TakesName (name : String) : Prop where
  ne_empty : name ≠ ""
  ne_dot : name ≠ "."
  ne_dots : name ≠ ".."
  noSlash : '/' ∉ name.toList
  short : name.utf8ByteSize ≤ longestName

/-- A directory of a disk holds certain files and nothing else. -/
structure ShowsFiles (directory : String) (place : List String) (disk : Disk)
    (contents : String → Option ByteArray) : Prop where
  follow : disk.follow directory = .ok place
  isDirectory : disk.entry? place = some .directory
  nodup : (disk.entries.map Prod.fst).Nodup
  lookup_concat : ∀ name, disk.entry? (place ++ [name]) = (contents name).map .file

/-- A name in a directory leads to a place below the one of the directory. -/
theorem follow_joinPath {directory name : String} (noEnd : directory.endsWith "/" = false)
    (leads : disk.follow directory = .ok place) (isDirectory : disk.entry? place = some .directory)
    (takes : TakesName name) : disk.follow (joinPath directory name) = .ok (place ++ [name]) := by
  have nonempty : ¬ directory.isEmpty = true := fun empty => by
    rw [follow, if_pos empty] at leads
    cases leads
  have joined : joinPath directory name = directory ++ String.singleton '/' ++ name := by
    rw [joinPath, noEnd, Bool.or_false, if_neg nonempty]
    rfl
  have unempty : ¬ (directory ++ String.singleton '/' ++ name).isEmpty = true := by simp
  -- What stands in front of the slash tells whether the path starts at the root.
  have start : (directory ++ String.singleton '/' ++ name).startsWith "/" =
      directory.startsWith "/" := by
    obtain ⟨c, cs, chars⟩ :=
      List.exists_cons_of_ne_nil (l := directory.toList) (by simpa using nonempty)
    rw [Bool.eq_iff_iff, String.startsWith_string_iff, String.startsWith_string_iff]
    simp [chars]
  have last : disk.followFrom place [name] = .ok (place ++ [name]) := by
    rw [followFrom, obstacle?_eq_none_iff.mpr isDirectory]
    simp only
    rw [if_neg (not_or.mpr ⟨takes.ne_empty, takes.ne_dot⟩), if_neg takes.ne_dots,
      if_neg (Nat.not_lt.mpr takes.short), followFrom]
  rw [follow, if_neg nonempty] at leads
  rw [follow, joined, if_neg unempty, start, Text.splitAtChar_append takes.noSlash,
    followFrom_append, leads]
  exact last

/-! ### What is put and erased -/

theorem lookup_of_ne_nil (nonempty : place ≠ []) :
    disk.entry? place = disk.entries.lookup place := by
  cases place with
  | nil => exact absurd rfl nonempty
  | cons name rest => rfl

theorem lookup_erase (nonempty : place ≠ []) :
    Disk.entry? (disk.erase place) place' = if place' =
      place then none else disk.entry? place' := by
  by_cases root : place' = []
  · rw [root, if_neg (Ne.symm nonempty)]
    rfl
  · rw [lookup_of_ne_nil root, lookup_of_ne_nil root]
    exact lookup_filter_ne disk.entries place place'

theorem lookup_put (nonempty : place ≠ []) (entry : DiskEntry) :
    Disk.entry? (disk.put place entry) place' = if place' =
      place then some entry else disk.entry? place' := by
  by_cases root : place' = []
  · rw [root, if_neg (Ne.symm nonempty)]
    rfl
  · rw [lookup_of_ne_nil root, lookup_of_ne_nil root, put, lookup_cons_eq_ite, lookup_filter_ne]
    split <;> rfl

/-! ### Files of a directory -/

/-- What stands at a place is found there if no place occurs twice. -/
theorem lookup_eq_some_iff (nodup : (disk.entries.map Prod.fst).Nodup) (nonempty : place ≠ [])
    (entry : DiskEntry) : disk.entry? place = some entry ↔ (place, entry) ∈ disk.entries := by
  rw [lookup_of_ne_nil nonempty]
  exact lookup_eq_some_iff_mem nodup

/-- The name of an entry that is in a directory. -/
def nameIn? (place : List String) : List String × DiskEntry → Option (String × FileKind)
  | (other, entry) =>
    match other.getLast? with
    | some name => if other.dropLast = place then some (name, entry.kind) else none
    | none => none

theorem nameIn?_eq_some_iff {stored : List String × DiskEntry} {named : String × FileKind} :
    nameIn? place stored = some named ↔
      stored.1 = place ++ [named.1] ∧ stored.2.kind = named.2 := by
  obtain ⟨other, entry⟩ := stored
  obtain ⟨name, kind⟩ := named
  rcases other.eq_nil_or_concat with rfl | ⟨front, last, rfl⟩
  · simp [nameIn?]
  · simp only [nameIn?, List.concat_eq_append, List.getLast?_concat, List.dropLast_concat,
      Option.ite_none_right_eq_some, Option.some.injEq, Prod.mk.injEq]
    rw [List.append_singleton_inj, and_assoc]

namespace ShowsFiles

variable {directory name : String} {contents : String → Option ByteArray}
  (shown : ShowsFiles directory place disk contents)

include shown

/-- What is done to one file leaves the directory where it is, and the other files as they are. -/
theorem changed {changed : Disk} {bytes? : Option ByteArray} (home : changed.home = disk.home)
    (nodup : (changed.entries.map Prod.fst).Nodup)
    (entries : ∀ other, changed.entry? other =
      if other = place ++ [name] then bytes?.map .file else disk.entry? other) :
    ShowsFiles directory place changed (Function.update contents name bytes?) := by
  have directories :
      ∀ other, disk.entry? other = some .directory → changed.entry? other = some .directory := by
    intro other isDirectory
    have different : other ≠ place ++ [name] := by
      rintro rfl
      rw [shown.lookup_concat] at isDirectory
      cases there : contents name <;> simp [there] at isDirectory
    rw [entries, if_neg different, isDirectory]
  -- The path of the directory leads through directories only, so it still leads there.
  refine ⟨?_, directories place shown.isDirectory, nodup, fun other => ?_⟩
  · have leads := shown.follow
    rw [Disk.follow] at leads ⊢
    split at leads
    · cases leads
    · next nonempty =>
      rw [if_neg nonempty, home]
      exact followFrom_of_directories directories leads
  · by_cases same : other = name
    · rw [entries, same, if_pos rfl, Function.update_self]
    · rw [entries, if_neg (by simpa using same), Function.update_of_ne same, shown.lookup_concat]

theorem put (name : String) (bytes : ByteArray) :
    ShowsFiles directory place (disk.put (place ++ [name]) (.file bytes))
      (Function.update contents name (some bytes)) := by
  refine shown.changed rfl (List.nodup_cons.mpr ⟨?_, ?_⟩) fun other =>
    lookup_put (List.concat_ne_nil _ _) _
  · simp
  · exact shown.nodup.sublist (List.filter_sublist.map Prod.fst)

theorem erase (name : String) :
    ShowsFiles directory place (disk.erase (place ++ [name]))
    (Function.update contents name none) :=
  shown.changed rfl (shown.nodup.sublist (List.filter_sublist.map Prod.fst)) fun _ =>
    lookup_erase (List.concat_ne_nil _ _)

/-- The names in the directory are those of the files. -/
theorem exists_namesIn : ∃ entries, disk.namesIn directory = .ok entries ∧
    (entries.map Prod.fst).Nodup ∧
      ∀ name kind, (name, kind) ∈ entries ↔ (contents name).isSome ∧ kind = .file := by
  refine ⟨disk.entries.filterMap (nameIn? place), ?_, ?_, fun name kind => ?_⟩
  · simp only [namesIn, shown.follow, bind, Except.bind, shown.isDirectory]
    rfl
  · rw [List.Nodup, List.pairwise_map, List.pairwise_filterMap]
    refine (List.pairwise_map.mp shown.nodup).imp fun different named hnamed named' hnamed' same =>
      different ?_
    rw [(nameIn?_eq_some_iff.mp hnamed).1, (nameIn?_eq_some_iff.mp hnamed').1, same]
  · have listed : (name, kind) ∈ disk.entries.filterMap (nameIn? place) ↔
        ∃ entry, disk.entry? (place ++ [name]) = some entry ∧ entry.kind = kind := by
      rw [List.mem_filterMap]
      have stored :=
        fun entry => lookup_eq_some_iff shown.nodup (List.concat_ne_nil name place) entry
      constructor
      · rintro ⟨⟨other, entry⟩, hentry, named⟩
        obtain ⟨rfl, kind⟩ := nameIn?_eq_some_iff.mp named
        exact ⟨entry, (stored entry).mpr hentry, kind⟩
      · rintro ⟨entry, found, kind⟩
        exact ⟨_, (stored entry).mp found, nameIn?_eq_some_iff.mpr ⟨rfl, kind⟩⟩
    rw [listed, shown.lookup_concat]
    cases contents name with
    | none => simp
    | some bytes => simp [DiskEntry.kind, eq_comm]

end ShowsFiles

theorem write_run {changed : Disk} {path : String} {bytes : ByteArray}
    (h : disk.write path bytes = .ok changed) :
    ((fileSystem : FileSystem (StateM Disk)).write path bytes).run.run disk =
      (.ok (), changed) := by
  change (ExceptT.mk (pure (disk.write path bytes)) >>= fun changed => set changed :
    ExceptT IoError (StateM Disk) Unit).run.run disk = _
  rw [run_exceptBind, h]
  rfl

theorem remove_run {changed : Disk} {path : String} (h : disk.remove path = .ok changed) :
    ((fileSystem : FileSystem (StateM Disk)).remove path).run.run disk = (.ok (), changed) := by
  change (ExceptT.mk (pure (disk.remove path)) >>= fun changed => set changed :
    ExceptT IoError (StateM Disk) Unit).run.run disk = _
  rw [run_exceptBind, h]
  rfl

/-- **A disk keeps the files of its directories.** What the path of a directory leads to stands
there, whatever is done to the files in it, and each file holds what was last written to it. -/
theorem keepsFiles {directory : String} (noEnd : directory.endsWith "/" = false)
    (place : List String) :
    (fileSystem : FileSystem (StateM Disk)).KeepsFiles directory TakesName
      (ShowsFiles directory place) where
  exists_kind?_run {disk contents name} shown takes := by
    have leads := follow_joinPath noEnd shown.follow shown.isDirectory takes
    have kind : disk.kind? (joinPath directory name) = (contents name).map fun _ => .file := by
      simp only [kind?, leads, shown.lookup_concat, Option.map_map]
      rfl
    exact ⟨disk, shown, congrArg (·, disk) kind⟩
  exists_read_run {disk contents name bytes} shown takes there := by
    have leads := follow_joinPath noEnd shown.follow shown.isDirectory takes
    have found : disk.read (joinPath directory name) = .ok bytes := by
      simp only [read, leads, bind, Except.bind, shown.lookup_concat, there]
      rfl
    exact ⟨disk, shown, congrArg (·, disk) found⟩
  exists_write_run {disk contents name} bytes shown takes := by
    have leads := follow_joinPath noEnd shown.follow shown.isDirectory takes
    have written : disk.write (joinPath directory name) bytes =
        .ok (disk.put (place ++ [name]) (.file bytes)) := by
      simp only [write, leads, bind, Except.bind, shown.lookup_concat]
      cases contents name <;> rfl
    exact ⟨_, shown.put name bytes, write_run written⟩
  exists_remove_run {disk contents name} shown takes there := by
    have leads := follow_joinPath noEnd shown.follow shown.isDirectory takes
    obtain ⟨bytes, there⟩ := Option.isSome_iff_exists.mp there
    have removed : disk.remove (joinPath directory name) = .ok (disk.erase (place ++ [name])) := by
      simp only [remove, leads, bind, Except.bind, shown.lookup_concat, there]
      rfl
    exact ⟨_, shown.erase name, remove_run removed⟩
  exists_entries_run {disk contents} shown := by
    obtain ⟨entries, listed, nodup, mem⟩ := shown.exists_namesIn
    exact ⟨entries, disk, shown, congrArg (·, disk) listed, nodup, mem⟩

end Disk

end RecordFlow
