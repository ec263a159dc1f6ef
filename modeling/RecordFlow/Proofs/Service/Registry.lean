import RecordFlow.Proofs.Service.History
import RecordFlow.Proofs.Service.Storing

/-!
# The service keeps two maps

On a store in memory that refuses nothing, a service that starts without pipelines and runs
answers every request as its history says: what it has stored are at any time the pipelines and
the runs of the history, each of them once, and every run is one of a pipeline that is there.
What it refuses changes nothing.

## Main definitions

* `Represents` — what is stored are the pipelines and the runs of a history

## Main results

* `Represents.handle` — one request
* `serve_admits` — every request behind any number of others
-/

namespace RecordFlow

variable {ω : Type} {env : Environment ω} {w w' : World ω} {pipelines : List Pipeline}
  {runs : List PipelineRun} {history : List Exchange} {exchange : Exchange} {request : Request}
  {service : Service (StateM (World ω))}

/-! ### What is stored and what a history tells -/

/-- What is stored are the pipelines and the runs of a history. -/
structure Represents (history : List Exchange) (w : World ω) (pipelines : List Pipeline)
    (runs : List PipelineRun) : Prop where
  has : HasStored w pipelines runs
  pipelineIds : (pipelines.map Pipeline.id).Nodup
  runIds : (runs.map PipelineRun.id).Nodup
  live : ∀ pipeline, pipeline ∈ pipelines ↔ Live history pipeline
  recorded : ∀ run, run ∈ runs ↔ Recorded history run
  linked : ∀ run ∈ runs, ∃ pipeline ∈ pipelines, pipeline.id = run.pipelineId

namespace Represents

/-- Where nothing is stored there is no history. -/
theorem nil (noPipelines : w.records pipelinesCollection = [])
    (noRuns : w.records runsCollection = []) : Represents [] w [] [] where
  has :=
    ⟨⟨noPipelines, List.forall_mem_nil _⟩, List.forall_mem_nil _, ⟨noRuns, List.forall_mem_nil _⟩⟩
  pipelineIds := List.nodup_nil
  runIds := List.nodup_nil
  live _ := by simp [Live]
  recorded _ := by simp [Recorded]
  linked := List.forall_mem_nil _

/-- An exchange that neither keeps nor deletes anything. -/
theorem unchanged (represents : Represents history w pipelines runs) (same : w'.stored = w.stored)
    (notKept : exchange.kept? = none) (notDeleted : exchange.deleted? = none)
    (notRan : exchange.ran? = none) : Represents (exchange :: history) w' pipelines runs where
  has := represents.has.of_stored_eq same
  pipelineIds := represents.pipelineIds
  runIds := represents.runIds
  live pipeline := by simp [Live, notKept, notDeleted, represents.live]
  recorded run := by simp [Recorded, notDeleted, notRan, represents.recorded]
  linked := represents.linked

/-- A pipeline is created or updated. -/
theorem keep (represents : Represents history w pipelines runs) {pipeline : Pipeline}
    (has : HasStored w' (replaceKeyed Pipeline.id pipeline pipelines) runs)
    (kept : exchange.kept? = some pipeline) (notDeleted : exchange.deleted? = none)
    (notRan : exchange.ran? = none) :
    Represents (exchange :: history) w' (replaceKeyed Pipeline.id pipeline pipelines) runs where
  has := has
  pipelineIds := nodup_replaceKeyed represents.pipelineIds pipeline
  runIds := represents.runIds
  live other := by
    rw [mem_replaceKeyed_iff, represents.live, Live, kept, notDeleted, or_comm, Option.some.injEq,
      eq_comm (a := other)]
    simp [ne_comm (a := other.id)]
  recorded run := by simp [Recorded, notDeleted, notRan, represents.recorded]
  linked run hrun := by
    obtain ⟨old, hold, same⟩ := represents.linked run hrun
    -- The pipeline of a run may be the one that is replaced; the new one has its id.
    by_cases replaced : old.id = pipeline.id
    · exact ⟨pipeline, mem_replaceKeyed_iff.mpr (.inr rfl), replaced.symm.trans same⟩
    · exact ⟨old, mem_replaceKeyed_iff.mpr (.inl ⟨hold, replaced⟩), same⟩

/-- A pipeline is deleted with its runs. -/
theorem delete (represents : Represents history w pipelines runs) {id : String}
    (has : HasStored w' (pipelines.filter (·.id != id)) (runs.filter (·.pipelineId != id)))
    (notKept : exchange.kept? = none) (deleted : exchange.deleted? = some id)
    (notRan : exchange.ran? = none) :
    Represents (exchange :: history) w' (pipelines.filter (·.id != id))
    (runs.filter (·.pipelineId != id)) where
  has := has
  pipelineIds := nodup_filter_key represents.pipelineIds _
  runIds := nodup_filter_key represents.runIds _
  live pipeline := by
    simp [Live, notKept, deleted, represents.live, eq_comm (a := id)]
  recorded run := by
    simp [Recorded, deleted, notRan, represents.recorded, eq_comm (a := id)]
  linked run hrun := by
    obtain ⟨old, others⟩ := List.mem_filter.mp hrun
    obtain ⟨pipeline, hpipeline, same⟩ := represents.linked run old
    exact ⟨pipeline, List.mem_filter.mpr ⟨hpipeline, by rwa [same]⟩, same⟩

/-- A run has ended. -/
theorem record (represents : Represents history w pipelines runs) {run : PipelineRun}
    (has : HasStored w' pipelines (replaceKeyed PipelineRun.id run runs))
    (notKept : exchange.kept? = none) (notDeleted : exchange.deleted? = none)
    (ran : exchange.ran? = some run) (fresh : ∀ other ∈ endedRuns history, other.id ≠ run.id)
    (linked : ∃ pipeline ∈ pipelines, pipeline.id = run.pipelineId) :
    Represents (exchange :: history) w' pipelines (replaceKeyed PipelineRun.id run runs) where
  has := has
  pipelineIds := represents.pipelineIds
  runIds := nodup_replaceKeyed represents.runIds run
  live pipeline := by simp [Live, notKept, notDeleted, represents.live]
  recorded other := by
    -- A run does not replace one of the history, since its id is fresh.
    have different (old : Recorded history other) : other.id ≠ run.id :=
      fresh other old.mem_endedRuns
    rw [mem_replaceKeyed_iff, represents.recorded, and_iff_left_of_imp different,
      Recorded, ran, notDeleted, or_comm, Option.some.injEq, eq_comm (a := other)]
    simp
  linked other hother := by
    obtain ⟨old, -⟩ | rfl := mem_replaceKeyed_iff.mp hother
    · exact represents.linked other old
    · exact linked

end Represents

/-! ### Requests -/

/-- What is asked of a request: the numbers of its definition are representable, those without a
sign with one too, and the context of a run is a record of finite numbers. -/
def Request.IsRepresentable : Request → Prop
  | create input | update _ input => input.IsRepresentable ∧ input.HasSignedSizes
  | run _ options => options.context.names.Nodup ∧ options.context.IsFinite
  | _ => True

/-- A request is refused. -/
def Answer.IsRefusal : Answer → Prop
  | refused _ => True
  | _ => False

/-- The records that ended runs have read and made can be counted, and
the run has an id of its own. -/
structure Exchange.IsSound (exchange : Exchange) (history : List Exchange) : Prop where
  countable : ∀ run, exchange.ran? = some run → run.IsCountable
  fresh : ∀ run, exchange.ran? = some run → ∀ other ∈ endedRuns history, other.id ≠ run.id

theorem answerBy_run_ok {α : Type} {tell : α → Answer}
    {action : ExceptT ServiceError (StateM (World ω)) α} {a : α}
    (h : action.run.run w = (.ok a, w')) : (answerBy tell action).run w = (tell a, w') := by
  rw [answerBy, run_bind, h]
  rfl

theorem answerBy_run_error {α : Type} {tell : α → Answer}
    {action : ExceptT ServiceError (StateM (World ω)) α} {error : ServiceError}
    (h : action.run.run w = (.error error, w')) :
    (answerBy tell action).run w = (.refused error, w') := by
  rw [answerBy, run_bind, h]
  rfl

/-- A request is answered as a history admits, a refusal changes nothing, and what is stored behind
it are the pipelines and the runs of the longer history. -/
structure IsHandled (history : List Exchange) (w : World ω) (request : Request)
    (handled : Answer × World ω) : Prop where
  admits : Admits history request handled.1
  unchanged : handled.1.IsRefusal → handled.2.stored = w.stored
  represents : Exchange.IsSound ⟨request, handled.1⟩ history →
    ∃ pipelines runs, Represents (⟨request, handled.1⟩ :: history) handled.2 pipelines runs

namespace Represents

/-- A request that only looks at what is stored. -/
theorem look (represents : Represents history w pipelines runs) {answer : Answer}
    (admits : Admits history request answer) (same : w'.stored = w.stored)
    (notKept : Exchange.kept? ⟨request, answer⟩ = none)
    (notDeleted : Exchange.deleted? ⟨request, answer⟩ = none)
    (notRan : Exchange.ran? ⟨request, answer⟩ = none) :
    IsHandled history w request (answer, w') where
  admits := admits
  unchanged _ := same
  represents _ := ⟨pipelines, runs, represents.unchanged same notKept notDeleted notRan⟩

/-- A request that is refused. -/
theorem refuse (represents : Represents history w pipelines runs) {error : ServiceError}
    (admits : Admits history request (.refused error)) (same : w'.stored = w.stored) :
    IsHandled history w request (.refused error, w') :=
  represents.look admits same (by cases request <;> rfl) (by cases request <;> rfl)
    (by cases request <;> rfl)

/-- A pipeline of an id is found, or there is none in the history. -/
theorem find_pipeline (represents : Represents history w pipelines runs) (id : String) :
    (∃ pipeline, pipelines.find? (·.id == id) = some pipeline ∧
      Live history pipeline ∧ pipeline.id = id) ∨
        (pipelines.find? (·.id == id) = none ∧
          ∀ pipeline, Live history pipeline → pipeline.id ≠ id) := by
  cases found : pipelines.find? (·.id == id) with
  | some pipeline =>
    obtain ⟨hmem, named⟩ := (find?_key_iff represents.pipelineIds).mp found
    exact .inl ⟨pipeline, rfl, (represents.live pipeline).mp hmem, named⟩
  | none =>
    refine .inr ⟨rfl, fun pipeline live named => ?_⟩
    rw [(find?_key_iff represents.pipelineIds).mpr ⟨(represents.live pipeline).mpr live, named⟩]
      at found
    cases found

variable (represents : Represents history w pipelines runs) (onMemory : service.RunsIn env)
  (never : env.NeverRefuses)

include represents onMemory never

theorem handle_get (id : String) :
    IsHandled history w (.get id) ((service.handle (.get id)).run w) := by
  obtain ⟨w', same, looked⟩ := Service.get_run onMemory never represents.has id
  rcases represents.find_pipeline id with ⟨pipeline, found, live, named⟩ | ⟨none, absent⟩
  · rw [found] at looked
    rw [Service.handle, answerBy_run_ok looked]
    exact represents.look (.found live named) same rfl rfl rfl
  · rw [none] at looked
    rw [Service.handle, answerBy_run_error looked]
    exact represents.refuse (.unknown rfl absent) same

theorem handle_list : IsHandled history w .list ((service.handle .list).run w) := by
  obtain ⟨w', same, looked⟩ := Service.list_run onMemory never represents.has
  rw [Service.handle, answerBy_run_ok looked]
  have sorted := List.mergeSort_perm pipelines fun a b => !b.createdAt.before a.createdAt
  refine represents.look (.listed ?_ fun pipeline => ?_) same rfl rfl rfl
  · exact (sorted.map Pipeline.id).nodup_iff.mpr represents.pipelineIds
  · rw [sorted.mem_iff, represents.live]

theorem handle_getRun (id : String) :
    IsHandled history w (.getRun id) ((service.handle (.getRun id)).run w) := by
  obtain ⟨w', same, looked⟩ := Service.getRun_run onMemory never represents.has id
  cases found : runs.find? (·.id == id) with
  | some run =>
    obtain ⟨hmem, named⟩ := (find?_key_iff represents.runIds).mp found
    rw [found] at looked
    rw [Service.handle, answerBy_run_ok looked]
    exact represents.look (.foundRun ((represents.recorded run).mp hmem) named) same rfl rfl rfl
  | none =>
    rw [found] at looked
    rw [Service.handle, answerBy_run_error looked]
    refine represents.refuse (.unknownRun fun run recorded named => ?_) same
    rw [(find?_key_iff represents.runIds).mpr ⟨(represents.recorded run).mpr recorded, named⟩]
      at found
    cases found

theorem handle_runsOf (pipelineId : String) :
    IsHandled history w (.runsOf pipelineId) ((service.handle (.runsOf pipelineId)).run w) := by
  obtain ⟨w', same, looked⟩ := Service.runsOf_run onMemory never represents.has pipelineId
  rw [Service.handle, answerBy_run_ok looked]
  have sorted := List.mergeSort_perm (runs.filter (·.pipelineId == pipelineId))
    fun a b => !a.createdAt.before b.createdAt
  refine represents.look (.listedRuns ?_ fun run => ?_) same rfl rfl rfl
  · exact (sorted.map PipelineRun.id).nodup_iff.mpr (nodup_filter_key represents.runIds _)
  · rw [sorted.mem_iff, List.mem_filter, represents.recorded, beq_iff_eq]

theorem handle_delete (id : String) :
    IsHandled history w (.delete id) ((service.handle (.delete id)).run w) := by
  cases there : pipelines.any (·.id == id) with
  | true =>
    obtain ⟨w', deleted, has⟩ := Service.delete_run onMemory never represents.has there
    obtain ⟨pipeline, hmem, named⟩ := List.any_eq_true.mp there
    rw [Service.handle, answerBy_run_ok deleted]
    exact ⟨.deleted ((represents.live pipeline).mp hmem) (beq_iff_eq.mp named), False.elim,
      fun _ => ⟨_, _, represents.delete has rfl rfl rfl⟩⟩
  | false =>
    obtain ⟨w', same, refused⟩ := Service.delete_run_of_absent onMemory never represents.has there
    rw [Service.handle, answerBy_run_error refused]
    refine represents.refuse (.unknown rfl fun pipeline live named => ?_) same
    exact List.any_eq_false.mp there pipeline ((represents.live pipeline).mpr live)
      (beq_iff_eq.mpr named)

variable (clock : ∀ around, (env.now.run around).1.Survives)

include clock

theorem handle_create {input : PipelineInput} (representable : input.IsRepresentable)
    (signed : input.HasSignedSizes) :
    IsHandled history w (.create input) ((service.handle (.create input)).run w) := by
  cases valid : (validate input).valid with
  | true =>
    obtain ⟨pipeline, w', created, made, has⟩ :=
      Service.create_run onMemory never represents.has clock representable signed valid
    rw [Service.handle, answerBy_run_ok created]
    exact ⟨.created valid made, False.elim, fun _ => ⟨_, _, represents.keep has rfl rfl rfl⟩⟩
  | false =>
    rw [Service.handle, answerBy_run_error (Service.create_run_of_invalid service w valid)]
    exact represents.refuse (.notCreated valid) rfl

theorem handle_update (id : String) {input : PipelineInput} (representable : input.IsRepresentable)
    (signed : input.HasSignedSizes) :
    IsHandled history w (.update id input) ((service.handle (.update id input)).run w) := by
  rcases represents.find_pipeline id with ⟨old, found, live, named⟩ | ⟨none, absent⟩
  · cases valid : (validate input).valid with
    | true =>
      obtain ⟨pipeline, w', updated, made, sameId, sameCreation, has⟩ :=
        Service.update_run onMemory never represents.has clock representable signed valid found
      rw [Service.handle, answerBy_run_ok updated]
      exact ⟨.updated live named valid made sameId sameCreation, False.elim,
        fun _ => ⟨_, _, represents.keep has rfl rfl rfl⟩⟩
    | false =>
      obtain ⟨w', same, refused⟩ :=
        Service.update_run_of_invalid onMemory never represents.has found valid
      rw [Service.handle, answerBy_run_error refused]
      exact represents.refuse (.notUpdated live named valid) same
  · obtain ⟨w', same, refused⟩ := Service.update_run_of_absent onMemory never represents.has none
    rw [Service.handle, answerBy_run_error refused]
    exact represents.refuse (.unknown rfl absent) same

theorem handle_run (id : String) {options : RunOptions} (nodup : options.context.names.Nodup)
    (finite : options.context.IsFinite) :
    IsHandled history w (.run id options) ((service.handle (.run id options)).run w) := by
  rcases represents.find_pipeline id with ⟨pipeline, found, live, named⟩ | ⟨none, absent⟩
  · by_cases active : pipeline.status = .active
    · obtain ⟨run, w', ran, ofPipeline, context, ended, has⟩ :=
        Service.run_run onMemory never represents.has clock found active nodup finite
      rw [Service.handle, answerBy_run_ok ran]
      refine ⟨.ran live named active (ofPipeline.trans named) context ended,
        False.elim, fun sound => ?_⟩
      exact ⟨_, _, represents.record (has (sound.countable run rfl)) rfl rfl rfl
        (sound.fresh run rfl) ⟨pipeline, (represents.live pipeline).mpr live, ofPipeline.symm⟩⟩
    · obtain ⟨w', same, refused⟩ :=
        Service.run_run_of_not_active onMemory never represents.has found active options
      rw [Service.handle, answerBy_run_error refused]
      exact represents.refuse (.notActive live named active) same
  · obtain ⟨w', same, refused⟩ :=
      Service.run_run_of_absent onMemory never represents.has none options
    rw [Service.handle, answerBy_run_error refused]
    exact represents.refuse (.unknown rfl absent) same

/-- A request is handled from what is stored. -/
theorem handle (representable : request.IsRepresentable) :
    IsHandled history w request ((service.handle request).run w) := by
  cases request with
  | create input =>
    exact represents.handle_create onMemory never clock representable.1 representable.2
  | update id input =>
    exact represents.handle_update onMemory never clock id representable.1 representable.2
  | delete id => exact represents.handle_delete onMemory never id
  | run id options =>
    exact represents.handle_run onMemory never clock id representable.1 representable.2
  | get id => exact represents.handle_get onMemory never id
  | list => exact represents.handle_list onMemory never
  | getRun id => exact represents.handle_getRun onMemory never id
  | runsOf pipelineId => exact represents.handle_runsOf onMemory never pipelineId

end Represents

/-! ### Requests one after the other -/

theorem Exchange.isSound_of_endedRuns {served : List Exchange}
    (later : exchange :: history <:+ served) (fresh : ((endedRuns served).map PipelineRun.id).Nodup)
    (countable : ∀ run ∈ endedRuns served, run.IsCountable) : exchange.IsSound history where
  countable run ran :=
    countable run (List.mem_filterMap.mpr ⟨exchange, later.subset (.head _), ran⟩)
  fresh run ran other hother := by
    have nodup := ((later.sublist.filterMap Exchange.ran?).map PipelineRun.id).nodup fresh
    rw [List.filterMap_cons_some ran, List.map_cons, List.nodup_cons] at nodup
    exact fun same => nodup.1 (same ▸ List.mem_map_of_mem hother)

/-- A history only grows. -/
theorem suffix_serve (service : Service (StateM (World ω))) (history : List Exchange)
    (requests : List Request) (w : World ω) :
    history <:+ ((service.serve history requests).run w).1 := by
  induction requests generalizing history w with
  | nil => exact List.suffix_rfl
  | cons request requests ih =>
    rw [Service.serve, run_bind]
    exact (List.suffix_cons _ history).trans (ih _ _)

section

variable (onMemory : service.RunsIn env) (never : env.NeverRefuses)
  (clock : ∀ around, (env.now.run around).1.Survives)

include onMemory never clock

/-- Behind any number of requests the pipelines and the runs of the history are stored. -/
theorem Represents.serve (represents : Represents history w pipelines runs)
    {requests : List Request} (representable : ∀ request ∈ requests, request.IsRepresentable)
    (fresh : ((endedRuns ((service.serve history requests).run w).1).map PipelineRun.id).Nodup)
    (countable : ∀ run ∈ endedRuns ((service.serve history requests).run w).1, run.IsCountable) :
    ∃ pipelines runs, Represents ((service.serve history requests).run w).1
      ((service.serve history requests).run w).2 pipelines runs := by
  induction requests generalizing history w pipelines runs with
  | nil => exact ⟨pipelines, runs, represents⟩
  | cons request requests ih =>
    obtain ⟨first, others⟩ := List.forall_mem_cons.mp representable
    -- What is asked of the runs is asked of the whole history, of which
    -- each exchange sees an older part.
    rw [Service.serve, run_bind] at fresh countable ⊢
    have sound := Exchange.isSound_of_endedRuns (suffix_serve service _ requests _) fresh countable
    obtain ⟨pipelines₁, runs₁, represents₁⟩ :=
      (represents.handle onMemory never clock first).represents sound
    exact ih represents₁ others fresh countable

end

/-- **The service keeps two maps.** A service on a store that refuses nothing starts without
pipelines and runs and answers representable requests. When the ids of the runs are all
different and their records can be counted, every stored run is one of a live pipeline;
every further request gets an answer that the history admits; and a request that is refused
changes nothing that is stored. -/
theorem serve_admits (onMemory : service.RunsIn env) (never : env.NeverRefuses)
    (clock : ∀ around, (env.now.run around).1.IsRegular)
    (noPipelines : w.records pipelinesCollection = []) (noRuns : w.records runsCollection = [])
    {requests : List Request} (representable : ∀ request ∈ requests, request.IsRepresentable)
    (served : (service.serve [] requests).run w = (history, w'))
    (fresh : ((endedRuns history).map PipelineRun.id).Nodup)
    (countable : ∀ run ∈ endedRuns history, run.IsCountable) :
    (∀ record ∈ w'.records runsCollection, ∃ run pipeline,
      decodeRecord PipelineRun.reader record = .ok run ∧ Live history pipeline ∧
        pipeline.id = run.pipelineId) ∧
    ∀ request : Request, request.IsRepresentable →
      Admits history request ((service.handle request).run w').1 ∧
      (((service.handle request).run w').1.IsRefusal →
        ((service.handle request).run w').2.stored = w'.stored) := by
  have survives (around : ω) : (env.now.run around).1.Survives := (clock around).survives
  have start : Represents [] w [] [] := .nil noPipelines noRuns
  obtain ⟨pipelines, runs, represents⟩ := start.serve onMemory never survives representable
    (by rwa [served]) (by rwa [served])
  rw [served] at represents
  refine ⟨fun record hrecord => ?_, fun request hrequest => ?_⟩
  · rw [show w'.records runsCollection = _ from represents.has.heldRuns.records] at hrecord
    obtain ⟨run, hrun, rfl⟩ := List.mem_map.mp hrecord
    obtain ⟨pipeline, hpipeline, same⟩ := represents.linked run hrun
    exact ⟨run, pipeline, PipelineRun.decodeRecord_toRecord
      (represents.has.heldRuns.readable run hrun), (represents.live pipeline).mp hpipeline, same⟩
  · have handled := represents.handle onMemory never survives hrequest
    exact ⟨handled.admits, handled.unchanged⟩

/-- Surroundings in which ids are counted and the active runs are kept. -/
def Environment.counting : Environment (Nat × List ActiveRun) where
  now := pure .epoch
  freshId := fun (n, active) => (toString n, (n + 1, active))
  log _ := pure ()
  isCancelled := pure false
  refusal? _ := pure none

/-- A service in them. -/
def Service.counting : Service (StateM (World (Nat × List ActiveRun))) where
  host := memoryHost .counting
  settings := {}
  activeRuns := aside fun around => (around.2, around)
  setActiveRuns active := aside fun around => ((), (around.1, active))

/-- A pipeline is created and run twice. -/
def twoRuns : List Request := [.create (.takeUpTo 10), .run "0" {}, .run "0" {}]

/-- The history of that and what is there behind it. -/
def afterTwoRuns : List Exchange × World (Nat × List ActiveRun) :=
  (Service.counting.serve [] twoRuns).run ⟨[("users", [[("name", .text "Ada")]])], 0, []⟩

theorem Service.counting_runsIn : Service.counting.RunsIn .counting where
  host := rfl
  activeRuns := ⟨_, rfl⟩
  setActiveRuns _ := ⟨_, rfl⟩

/-- A run of it is looked up as its history says. -/
theorem twoRuns_admits : (∀ request ∈ twoRuns, request.IsRepresentable) ∧
    (endedRuns afterTwoRuns.1).map PipelineRun.id = ["2", "1"] ∧
    (∀ run ∈ endedRuns afterTwoRuns.1, run.IsCountable) ∧
    Admits afterTwoRuns.1 (.getRun "2")
    ((Service.counting.handle (.getRun "2")).run afterTwoRuns.2).1 := by
  have context : (({} : RunOptions).context.names.Nodup) ∧ ({} : RunOptions).context.IsFinite :=
    ⟨List.nodup_nil, List.forall_mem_nil _⟩
  have representable : ∀ request ∈ twoRuns, request.IsRepresentable := by
    simp only [twoRuns, List.forall_mem_cons]
    exact ⟨⟨isRepresentable_takeUpTo (by decide), hasSignedSizes_takeUpTo_ten⟩, context,
      context, List.forall_mem_nil _⟩
  have ids : (endedRuns afterTwoRuns.1).map PipelineRun.id = ["2", "1"] := by decide +kernel
  have countable : ∀ run ∈ endedRuns afterTwoRuns.1, run.IsCountable := by
    unfold PipelineRun.IsCountable
    decide +kernel
  have regular (around : Nat × List ActiveRun) :
      (Environment.counting.now.run around).1.IsRegular :=
    fun leap => absurd leap (show ¬ Timestamp.epoch.isLeapSecond = true by decide)
  have served : (Service.counting.serve [] twoRuns).run
    ⟨[("users", [[("name", .text "Ada")]])], 0, []⟩ =
      (afterTwoRuns.1, afterTwoRuns.2) := Prod.mk.eta.symm
  obtain ⟨-, admits⟩ := serve_admits Service.counting_runsIn
    (fun _ _ => rfl) regular rfl rfl representable served (by rw [ids]; decide) countable
  exact ⟨representable, ids, countable, (admits (.getRun "2") trivial).1⟩

end RecordFlow
