import RecordFlow.Proofs.Files.Disk

/-!
# A store in a directory instead of one in memory

What is asked of a store in a directory is answered as if the collections were in memory,
and behind it the directory holds what would be in memory. This is so for each request,
and so for any number of them.

## Main definitions

* `StoreRequest`, `StoreAnswer` — what is asked of a store, and what it answers
* `RecordStore.answers` — several requests, one after the other
* `Mirrors` — an action on a directory does what one on collections in memory does

## Main results

* `mirrors_answer` — one request
* `answers_onFiles_eq_memory` — any number of requests
-/

namespace RecordFlow

variable {σ ε α β : Type}

/-! ### Requests -/

/-- What is asked of a store. -/
inductive StoreRequest where
  | has (name : String)
  | create (name : String)
  | find (name : String) (filter : RecordFilter)
  | createMany (name : String) (records : List Record)
  | clear (name : String)
  | deleteWhere (name : String) (filter : RecordFilter)
  | drop (name : String)
  | list

namespace StoreRequest

/-- The collection that is asked for. -/
def name? : StoreRequest → Option String
  | has name | create name | find name _ | createMany name _ | clear name | deleteWhere name
    _ | drop name =>
    some name
  | list => none

/-- The records that are brought. -/
def records : StoreRequest → List Record
  | createMany _ records => records
  | _ => []

/-- A request suits a directory: the collection has the name of a file, and one that is taken, and
the records can be written and read again and do not lie too deep in the file. -/
structure Suits (Takes : String → Prop) (request : StoreRequest) : Prop where
  isFileName : ∀ name ∈ request.name?, isFileName name = true
  takes : ∀ name ∈ request.name?, Takes (name ++ ".json")
  isWritable : ∀ record ∈ request.records, record.IsWritable
  shallow : (Json.ofRecords request.records).depth ≤ 127

end StoreRequest

/-- What a store answers. -/
inductive StoreAnswer where
  | done
  | found (there : Bool)
  | records (records : List Record)
  | count (number : Nat)
  | names (names : List String)

namespace RecordStore

variable {m : Type → Type} [Monad m]

/-- Answers a request. -/
def answer (store : RecordStore m) : StoreRequest → ExceptT StorageError m StoreAnswer
  | .has name => do return .found (← store.has name)
  | .create name => do
    store.create name
    return .done
  | .find name filter => do return .records (← store.find name filter)
  | .createMany name records => do return .count (← store.createMany name records)
  | .clear name => do
    store.clear name
    return .done
  | .deleteWhere name filter => do return .count (← store.deleteWhere name filter)
  | .drop name => do
    store.drop name
    return .done
  | .list => do return .names (← store.list)

/-- Answers requests one after the other; one that fails does not keep the
others from being answered. -/
def answers (store : RecordStore m) : List StoreRequest → m (List (Except StorageError StoreAnswer))
  | [] => pure []
  | request :: requests => do
    let answer ← (store.answer request).run
    let others ← store.answers requests
    return answer :: others

/-- A store in memory of which nothing is known but its collections. -/
abbrev ofCollections : RecordStore (StateM Collections) := memory

end RecordStore

/-! ### Actions that do the same -/

/-- An action on a directory does what one on collections in memory does: they give the same, and
behind them the directory shows the files of the collections. -/
def Mirrors (Shows : σ → (String → Option ByteArray) → Prop) (w : σ) (collections : Collections)
    (action : ExceptT ε (StateM σ) α) (other : ExceptT ε (StateM Collections) α) : Prop :=
  ∃ result w' changed, Shows w' (Collections.files changed) ∧ Collections.IsStorable changed ∧
    action.run.run w = (result, w') ∧ other.run.run collections = (result, changed)

namespace Mirrors

variable {Shows : σ → (String → Option ByteArray) → Prop} {w w' : σ} {collections : Collections}

theorem pure (shown : Shows w collections.files) (storable : collections.IsStorable) (a : α) :
    Mirrors Shows w collections (pure a : ExceptT ε (StateM σ) α) (pure a) :=
  ⟨.ok a, w, collections, shown, storable, rfl, rfl⟩

theorem throw (shown : Shows w collections.files) (storable : collections.IsStorable) (error : ε) :
    Mirrors Shows w collections (MonadExcept.throw error : ExceptT ε (StateM σ) α)
    (MonadExcept.throw error) :=
  ⟨.error error, w, collections, shown, storable, rfl, rfl⟩

theorem bind {action : ExceptT ε (StateM σ) α} {other : ExceptT ε (StateM Collections) α}
    {next : α → ExceptT ε (StateM σ) β} {next' : α → ExceptT ε (StateM Collections) β}
    (h : Mirrors Shows w collections action other)
    (hnext : ∀ a w' changed, Shows w' (Collections.files changed) → changed.IsStorable →
      Mirrors Shows w' changed (next a) (next' a)) :
    Mirrors Shows w collections (action >>= next) (other >>= next') := by
  obtain ⟨result, w', changed, shown, storable, done, same⟩ := h
  rw [Mirrors, run_exceptBind, run_exceptBind, done, same]
  cases result with
  | ok a => exact hnext a w' changed shown storable
  | error error => exact ⟨.error error, w', changed, shown, storable, rfl, rfl⟩

theorem map {action : ExceptT ε (StateM σ) α} {other : ExceptT ε (StateM Collections) α}
    (h : Mirrors Shows w collections action other) (f : α → β) :
    Mirrors Shows w collections (do return f (← action)) (do return f (← other)) :=
  h.bind fun a _ _ shown storable => .pure shown storable (f a)

/-- On the one side something is done that changes the state of the file system alone. -/
theorem run_bind {first : ExceptT ε (StateM σ) α} {a : α} (done : first.run.run w = (.ok a, w'))
    {next : α → ExceptT ε (StateM σ) β} {other : ExceptT ε (StateM Collections) β}
    (h : Mirrors Shows w' collections (next a) other) :
    Mirrors Shows w collections (first >>= next) other := by
  rw [Mirrors, run_exceptBind, done]
  exact h

/-- On the other side the collections are looked at. -/
theorem get_bind {action : ExceptT ε (StateM σ) α}
    {next : Collections → ExceptT ε (StateM Collections) α}
    (h : Mirrors Shows w collections action (next collections)) :
    Mirrors Shows w collections action (getThe Collections >>= next) := h

end Mirrors

/-! ### What the two stores do -/

/-- The order in which names were found does not count once they are sorted. -/
theorem mergeSort_eq_of_perm {names others : List String} (perm : names.Perm others) :
    names.mergeSort (fun a b => decide (a ≤ b)) = others.mergeSort fun a b => decide (a ≤ b) := by
  have sorted (l : List String) :
      (l.mergeSort fun a b => decide (a ≤ b)).Pairwise fun a b => decide (a ≤ b) = true :=
    List.pairwise_mergeSort (by simpa using fun a b c => @String.le_trans a b c)
      (by simpa using String.le_total) l
  refine List.Perm.eq_of_pairwise (fun a b _ _ le ge => ?_) (sorted names) (sorted others)
    (((List.mergeSort_perm names _).trans perm).trans (List.mergeSort_perm others _).symm)
  exact String.le_antisymm (of_decide_eq_true le) (of_decide_eq_true ge)

section

variable {files : FileSystem (StateM σ)} {directory : String} {Takes : String → Prop}
  {Shows : σ → (String → Option ByteArray) → Prop} (keeps : files.KeepsFiles directory Takes Shows)
  {w : σ} {collections : Collections} (shown : Shows w collections.files)
  (storable : collections.IsStorable)

include keeps shown storable

section

variable {name : String} (valid : isFileName name = true) (takes : Takes (name ++ ".json"))

include valid takes

theorem mirrors_save {records : List Record} (each : ∀ record ∈ records, record.IsStorable) :
    Mirrors Shows w collections (save files directory name records)
    (set (collections.put name records)) := by
  obtain ⟨w', shown', saved⟩ := keeps.exists_save_run shown valid takes records
  exact ⟨.ok (), w', _, shown', storable.put valid each, saved, rfl⟩

theorem mirrors_has : Mirrors Shows w collections ((RecordStore.onFiles files directory).has name)
    (RecordStore.memory.has name) := by
  obtain ⟨w', shown', located⟩ := keeps.exists_locate_run shown valid takes
  exact .run_bind located (.get_bind (.pure shown' storable _))

theorem mirrors_create :
    Mirrors Shows w collections ((RecordStore.onFiles files directory).create name)
    (RecordStore.memory.create name) := by
  obtain ⟨w', shown', located⟩ := keeps.exists_locate_run shown valid takes
  refine .run_bind located (.get_bind ?_)
  cases collections.records? name with
  | some records => exact .pure shown' storable ()
  | none => exact mirrors_save keeps shown' storable valid takes (List.forall_mem_nil _)

theorem mirrors_find (filter : RecordFilter) :
    Mirrors Shows w collections ((RecordStore.onFiles files directory).find name filter)
      (RecordStore.memory.find name filter) := by
  obtain ⟨w', shown', loaded⟩ := keeps.exists_load?_run shown valid takes storable
  refine .run_bind loaded (.get_bind ?_)
  cases collections.records? name with
  | some records => exact .pure shown' storable _
  | none => exact .throw shown' storable _

theorem mirrors_createMany {records : List Record} (each : ∀ record ∈ records, record.IsStorable) :
    Mirrors Shows w collections ((RecordStore.onFiles files directory).createMany name records)
      (RecordStore.memory.createMany name records) := by
  obtain ⟨w', shown', loaded⟩ := keeps.exists_load?_run shown valid takes storable
  have all : ∀ record ∈ (collections.records? name).getD [] ++ records, record.IsStorable := by
    rw [List.forall_mem_append]
    refine ⟨?_, each⟩
    cases found : collections.records? name with
    | some existing => exact storable.records found
    | none => exact List.forall_mem_nil _
  refine .run_bind loaded (.get_bind ?_)
  exact (mirrors_save keeps shown' storable valid takes all).bind fun _ _ _ shown storable =>
    .pure shown storable _

theorem mirrors_clear :
    Mirrors Shows w collections ((RecordStore.onFiles files directory).clear name)
    (RecordStore.memory.clear name) := by
  obtain ⟨w', shown', located⟩ := keeps.exists_locate_run shown valid takes
  refine .run_bind located (.get_bind ?_)
  cases collections.records? name with
  | some records => exact mirrors_save keeps shown' storable valid takes (List.forall_mem_nil _)
  | none => exact .pure shown' storable ()

theorem mirrors_deleteWhere (filter : RecordFilter) :
    Mirrors Shows w collections ((RecordStore.onFiles files directory).deleteWhere name filter)
      (RecordStore.memory.deleteWhere name filter) := by
  obtain ⟨w', shown', loaded⟩ := keeps.exists_load?_run shown valid takes storable
  refine .run_bind loaded (.get_bind ?_)
  cases found : collections.records? name with
  | some records =>
    have kept : ∀ record ∈ records.filter (!filter.holds ·),
        record.IsStorable := fun record hrecord =>
      storable.records found record (List.mem_of_mem_filter hrecord)
    by_cases removed : records.length - (records.filter (!filter.holds ·)).length = 0
    · -- The file is not written again, while in memory the same records are put in their place.
      have whole : records.filter (!filter.holds ·) = records :=
        List.filter_sublist.eq_of_length_le (Nat.le_of_sub_eq_zero removed)
      refine ⟨.ok 0, w', collections, shown', storable, ?_, ?_⟩
      · simp only [if_pos removed]
        rfl
      · change (Except.ok (records.length - (records.filter (!filter.holds ·)).length),
          collections.put name (records.filter (!filter.holds ·))) = _
        rw [removed, whole, Collections.put_eq_self found]
    · simp only [if_neg removed]
      exact (mirrors_save keeps shown' storable valid takes kept).bind fun _ _ _ shown storable =>
        .pure shown storable _
  | none => exact .pure shown' storable 0

theorem mirrors_drop : Mirrors Shows w collections ((RecordStore.onFiles files directory).drop name)
    (RecordStore.memory.drop name) := by
  obtain ⟨w', shown', located⟩ := keeps.exists_locate_run shown valid takes
  refine .run_bind located (.get_bind ?_)
  cases found : collections.records? name with
  | some records =>
    have there : (collections.files (name ++ ".json")).isSome := by
      rw [collections.files_eq (ne_empty_of_isFileName valid), found]
      rfl
    obtain ⟨w'', shown'', removed⟩ := keeps.exists_remove_run shown' takes there
    rw [← Collections.files_remove (ne_empty_of_isFileName valid)] at shown''
    refine ⟨.ok (), w'', collections.remove name, shown'', storable.remove, ?_, rfl⟩
    simp only [Option.isSome_some, if_true, run_adapt, removed, mapError_ok]
  | none => exact .throw shown' storable _

end

theorem mirrors_list : Mirrors Shows w collections (RecordStore.onFiles files directory).list
    RecordStore.memory.list := by
  obtain ⟨entries, w', shown', listed, nodup, mem⟩ := keeps.exists_entries_run shown
  have perm : (entries.filterMap collectionOfFile?).Perm (collections.map Prod.fst) := by
    refine (List.perm_ext_iff_of_nodup ?_ storable.nodup).mpr fun name => ?_
    · refine nodup.of_map.filterMap fun entry other name hentry hother => ?_
      exact (collectionOfFile?_eq_some_iff.mp hentry).2.trans
        (collectionOfFile?_eq_some_iff.mp hother).2.symm
    · simp only [List.mem_filterMap, collectionOfFile?_eq_some_iff]
      constructor
      · rintro ⟨entry, hentry, nonempty, rfl⟩
        exact (Collections.isSome_files_iff nonempty).mp ((mem _ _).mp hentry).1
      · intro hname
        have nonempty := ne_empty_of_isFileName (storable.isFileName hname)
        exact ⟨_, (mem _ _).mpr ⟨(Collections.isSome_files_iff nonempty).mpr hname, rfl⟩,
          nonempty, rfl⟩
  have sorted : (entries.filterMap collectionOfFile?).mergeSort (fun a b => decide (a ≤ b)) =
      collections.names :=
    mergeSort_eq_of_perm perm
  refine ⟨.ok collections.names, w', collections, shown', storable, ?_, rfl⟩
  simp only [RecordStore.onFiles, run_exceptBind, run_adapt, listed, mapError_ok, sorted]
  rfl

/-- What is asked of a store in a directory is answered as if the collections were in memory. -/
theorem mirrors_answer {request : StoreRequest} (suits : request.Suits Takes) :
    Mirrors Shows w collections ((RecordStore.onFiles files directory).answer request)
      (RecordStore.memory.answer request) := by
  obtain ⟨valid, takes, writable, shallow⟩ := suits
  cases request with
  -- In each case the store is asked for one operation, and what it gives is put into the answer.
  | has name =>
    exact (mirrors_has keeps shown storable (valid name rfl) (takes name rfl)).map _
  | create name =>
    exact (mirrors_create keeps shown storable (valid name rfl) (takes name rfl)).map _
  | find name filter =>
    exact (mirrors_find keeps shown storable (valid name rfl) (takes name rfl) filter).map _
  | createMany name records =>
    have each := Record.isStorable_of_ofRecords writable shallow
    exact (mirrors_createMany keeps shown storable (valid name rfl) (takes name rfl) each).map _
  | clear name =>
    exact (mirrors_clear keeps shown storable (valid name rfl) (takes name rfl)).map _
  | deleteWhere name filter =>
    exact (mirrors_deleteWhere keeps shown storable (valid name rfl) (takes name rfl) filter).map _
  | drop name =>
    exact (mirrors_drop keeps shown storable (valid name rfl) (takes name rfl)).map _
  | list => exact (mirrors_list keeps shown storable).map _

omit shown storable in
/-- Requests that are answered one after the other: by induction, with what holds behind each. -/
theorem exists_answers_run {requests : List StoreRequest}
    (suits : ∀ request ∈ requests, request.Suits Takes) (shown : Shows w collections.files)
    (storable : collections.IsStorable) :
    ∃ answers w' changed, Shows w' (Collections.files changed) ∧ Collections.IsStorable changed ∧
      ((RecordStore.onFiles files directory).answers requests).run w = (answers, w') ∧
      (RecordStore.ofCollections.answers requests).run collections = (answers, changed) := by
  induction requests generalizing w collections with
  | nil => exact ⟨[], w, collections, shown, storable, rfl, rfl⟩
  | cons request requests ih =>
    rw [List.forall_mem_cons] at suits
    obtain ⟨answer, w', changed, shown', storable', done, same⟩ :=
      mirrors_answer keeps shown storable suits.1
    obtain ⟨others, w'', final, shown'', storable'', rest, rest'⟩ := ih suits.2 shown' storable'
    refine ⟨answer :: others, w'', final, shown'', storable'', ?_, ?_⟩
    · simp only [RecordStore.answers, run_bind, done, rest, run_pure]
    · simp only [RecordStore.answers, run_bind, same, rest', run_pure]

omit shown storable in
/-- **A directory does for a store what memory does.** Starting with an empty directory and with no
collections in memory, every request of a sequence is answered the same, the failed ones included,
and at the end the same records are read from the directory that are in memory. -/
theorem answers_onFiles_eq_memory {requests : List StoreRequest}
    (suits : ∀ request ∈ requests, request.Suits Takes) (empty : Shows w fun _ => none) :
    (((RecordStore.onFiles files directory).answers requests).run w).1 =
        ((RecordStore.ofCollections.answers requests).run []).1 ∧
      ∀ name, isFileName name = true → Takes (name ++ ".json") →
        ((load? files directory name).run.run
            (((RecordStore.onFiles files directory).answers requests).run w).2).1 =
          .ok (((RecordStore.ofCollections.answers requests).run []).2.records? name) := by
  have shown : Shows w (Collections.files []) := by rwa [Collections.files_nil]
  obtain ⟨answers, w', changed, shown, storable, onFiles, inMemory⟩ :=
    exists_answers_run keeps suits shown .nil
  rw [onFiles, inMemory]
  refine ⟨rfl, fun name valid takes => ?_⟩
  obtain ⟨_, -, loaded⟩ := keeps.exists_load?_run shown valid takes storable
  exact congrArg Prod.fst loaded

end

/-- A disk on which there is nothing but an empty directory. -/
def emptyStore : Disk := ⟨[], [(["store"], .directory)]⟩

/-- Requests of each kind, with some that fail. -/
def ledgerRequests : List StoreRequest :=
  [.createMany "ledger" JsonFile.ledger, .create "notes.json",
    .clear "notes.json", .drop "notes.json", .find "notes.json" .all,
    .deleteWhere "ledger" (.field ⟨"zero", .eq, .float 0⟩), .has "ledger", .list]

theorem emptyStore_showsFiles : Disk.ShowsFiles "store" ["store"] emptyStore fun _ => none where
  follow := by decide +kernel
  isDirectory := rfl
  nodup := by decide
  lookup_concat _ := rfl

theorem ledgerRequests_suit : ∀ request ∈ ledgerRequests, request.Suits Disk.TakesName := by
  have valid : ∀ name ∈ ["ledger", "notes.json"], isFileName name = true := by decide
  have takes : ∀ name ∈ ["ledger", "notes.json"], Disk.TakesName (name ++ ".json") := by
    simp only [List.forall_mem_cons]
    exact ⟨⟨by decide, by decide, by decide, by decide, by decide⟩,
      ⟨by decide, by decide, by decide, by decide, by decide⟩, List.forall_mem_nil _⟩
  have names : ∀ request ∈ ledgerRequests, ∀ name ∈ request.name?,
      name ∈ ["ledger", "notes.json"] := by
    simp [ledgerRequests, StoreRequest.name?]
  have brought : ∀ request ∈ ledgerRequests, request.records = [] ∨
      request.records = JsonFile.ledger := by
    simp [ledgerRequests, StoreRequest.records]
  intro request hrequest
  refine ⟨fun name hname => valid name (names request hrequest name hname),
    fun name hname => takes name (names request hrequest name hname), ?_, ?_⟩
  · rcases brought request hrequest with none | ledger
    · rw [none]; exact List.forall_mem_nil _
    · rw [ledger]; exact JsonFile.ledger_isWritable
  · rcases brought request hrequest with none | ledger
    · rw [none]; decide
    · rw [ledger, show (Json.ofRecords JsonFile.ledger).depth = 5 by decide +kernel]
      decide

theorem answers_onFiles_eq_memory_ledger :
    Disk.fileSystem.KeepsFiles "store" Disk.TakesName (Disk.ShowsFiles "store" ["store"]) ∧
      (∀ request ∈ ledgerRequests, request.Suits Disk.TakesName) ∧
      Disk.ShowsFiles "store" ["store"] emptyStore (fun _ => none) ∧
      (((RecordStore.onFiles (m := StateM Disk) Disk.fileSystem "store").answers ledgerRequests).run
        emptyStore).1 = ((RecordStore.ofCollections.answers ledgerRequests).run []).1 := by
  have noEnd : "store".endsWith "/" = false := by decide +kernel
  have keeps := Disk.keepsFiles noEnd ["store"]
  have same := answers_onFiles_eq_memory keeps ledgerRequests_suit emptyStore_showsFiles
  exact ⟨keeps, ledgerRequests_suit, emptyStore_showsFiles, same.1⟩

end RecordFlow
