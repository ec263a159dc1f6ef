import RecordFlow.Proofs.Pipeline.Soundness
import RecordFlow.Proofs.Run.Recording
import RecordFlow.Proofs.Run.Reserved
import RecordFlow.Proofs.Service.Pipelines
import RecordFlow.Proofs.Service.Runs
import RecordFlow.Service.Basic

/-!
# What the operations of the service do

A service that keeps its pipelines and runs on a store in memory answers each of its calls from the
two lists that are stored there, and it changes the lists in the ways that the call asks for.

## Main definitions

* `Service.RunsIn` — a service on a store in memory
* `HasStored` — the pipelines and runs that are stored
* `PipelineInput.Describes` — a pipeline is made of a definition

## Main results

* `Service.create_run`, `Service.update_run`, `Service.delete_run`,
  `Service.run_run` — what is changed
* `Service.get_run`, `Service.list_run`, `Service.getRun_run`,
  `Service.runsOf_run` — what is only looked at
-/

namespace RecordFlow

variable {ω : Type} {env : Environment ω} {w w' : World ω} {pipelines : List Pipeline}
  {runs : List PipelineRun}

/-- A service on a store in memory. The runs that have not ended are around the store. -/
structure Service.RunsIn (service : Service (StateM (World ω))) (env : Environment ω) : Prop where
  host : service.host = memoryHost env
  activeRuns : ∃ read, service.activeRuns = aside read
  setActiveRuns : ∀ active, ∃ write, service.setActiveRuns active = aside write

/-! ### What is stored -/

/-- No step of a pipeline writes to a reserved collection. -/
def Pipeline.SparesReserved (pipeline : Pipeline) : Prop :=
  ∀ step ∈ pipeline.steps, isReserved step.config.output = false

/-- Certain pipelines and runs are stored. -/
structure HasStored (w : World ω) (pipelines : List Pipeline) (runs : List PipelineRun) : Prop where
  heldPipelines : Keeping.pipelines.Holds w pipelines
  spare : ∀ pipeline ∈ pipelines, pipeline.SparesReserved
  heldRuns : Keeping.runs.Holds w runs

theorem pipelinesCollection_ne_runsCollection : pipelinesCollection ≠ runsCollection := by decide

namespace HasStored

theorem of_records?_eq (has : HasStored w pipelines runs)
    (same : ∀ name, isReserved name = true → w'.stored.records? name = w.stored.records? name) :
    HasStored w' pipelines runs where
  heldPipelines := has.heldPipelines.of_records?_eq (same _ (by decide))
  spare := has.spare
  heldRuns := has.heldRuns.of_records?_eq (same _ (by decide))

theorem of_stored_eq (has : HasStored w pipelines runs) (same : w'.stored = w.stored) :
    HasStored w' pipelines runs :=
  has.of_records?_eq fun _ _ => by rw [same]

/-- A pipeline is saved. -/
theorem savePipeline (never : env.NeverRefuses) (has : HasStored w pipelines runs)
    {pipeline : Pipeline} (readable : Keeping.pipelines.IsReadable pipeline)
    (spares : pipeline.SparesReserved) :
    ∃ w', (savePipeline (memoryHost env).store pipeline).run.run w = (.ok (), w') ∧
      HasStored w' (replaceKeyed Pipeline.id pipeline pipelines) runs := by
  obtain ⟨w', saved, holds, others⟩ := savePipeline_run never has.heldPipelines readable
  refine ⟨w', saved, holds, fun other hother => ?_, ?_⟩
  · obtain ⟨old, -⟩ | rfl := mem_replaceKeyed_iff.mp hother
    · exact has.spare other old
    · exact spares
  · exact has.heldRuns.of_records?_eq (others _ pipelinesCollection_ne_runsCollection.symm)

/-- A run is saved. -/
theorem saveRun (never : env.NeverRefuses) (has : HasStored w pipelines runs) {run : PipelineRun}
    (sound : run.IsSound) : ∃ w',
    (saveRun (memoryHost env).store run).run.run w = (.ok (), w') ∧
      HasStored w' pipelines (replaceKeyed PipelineRun.id run runs) := by
  obtain ⟨w', saved, holds, others⟩ := saveRun_run never has.heldRuns sound
  exact ⟨w', saved, has.heldPipelines.of_records?_eq
    (others _ pipelinesCollection_ne_runsCollection), has.spare, holds⟩

end HasStored

/-! ### Pipelines of definitions -/

/-- A pipeline is made of a definition. -/
structure PipelineInput.Describes (input : PipelineInput) (pipeline : Pipeline) : Prop where
  name : pipeline.name = input.name
  description : pipeline.description = input.description
  steps : List.Forall₂ StepInput.Builds input.steps pipeline.steps
  status : pipeline.status = input.status
  schedule : pipeline.schedule = input.schedule
  metadata : pipeline.metadata = input.metadata

namespace Service

variable {service : Service (StateM (World ω))} {input : PipelineInput}

/-! ### Parts of the operations -/

theorem stored_report (onMemory : service.RunsIn env) (level : LogLevel)
    (text : String) (w : World ω) : ((service.report level text).run w).2.stored = w.stored := by
  rw [report, onMemory.host]
  rfl

/-- To change the active runs changes nothing that is stored. -/
theorem stored_setActiveRuns (onMemory : service.RunsIn env)
    (change : List ActiveRun → List ActiveRun) (w : World ω) :
    ((do service.setActiveRuns (change (← service.activeRuns)) : StateM (World ω) Unit).run
      w).2.stored = w.stored := by
  obtain ⟨read, reads⟩ := onMemory.activeRuns
  rw [run_bind, reads]
  obtain ⟨write, writes⟩ := onMemory.setActiveRuns (change ((aside read).run w).1)
  rw [writes]
  rfl

theorem stored_register (onMemory : service.RunsIn env) (id : String) (w : World ω) :
    ((service.register id).run w).2.stored = w.stored :=
  stored_setActiveRuns onMemory
    (fun active => active.filter (·.id != id) ++ [ActiveRun.mk id false]) w

theorem stored_unregister (onMemory : service.RunsIn env) (id : String) (w : World ω) :
    ((service.unregister id).run w).2.stored = w.stored :=
  stored_setActiveRuns onMemory (fun active => active.filter (·.id != id)) w

theorem ensureValid_run (input : PipelineInput) (w : World ω) :
    (ensureValid input : ExceptT ServiceError (StateM (World ω)) Unit).run.run w =
      (if (validate input).valid then .ok () else .error (.invalid (validate input)), w) := by
  rw [ensureValid]
  split <;> rfl

/-- A definition that is not valid is refused. -/
theorem create_run_of_invalid (service : Service (StateM (World ω))) (w : World ω)
    (invalid : (validate input).valid = false) :
    (service.create input).run.run w = (.error (.invalid (validate input)), w) := by
  rw [create, run_exceptBind, ensureValid_run, invalid]
  rfl

theorem now_run (env : Environment ω) (w : World ω) : (memoryHost env).now.run w =
    ((env.now.run w.around).1, { w with around := (env.now.run w.around).2 }) := rfl

/-- A new run has a fresh id and a reading of the clock. -/
theorem newRun_run (env : Environment ω) (pipeline : Pipeline) (options : RunOptions)
    (w : World ω) : ∃ id read around, (newRun (memoryHost env) pipeline options).run w =
      (PipelineRun.create id (env.now.run read).1 pipeline options, { w with around }) :=
  ⟨_, _, _, rfl⟩

/-- A pipeline that spares the reserved collections is executed. -/
theorem execute_run (onMemory : service.RunsIn env)
    (clock : ∀ around, (env.now.run around).1.Survives) (has : HasStored w pipelines runs)
    {pipeline : Pipeline} (spares : pipeline.SparesReserved) {run : PipelineRun}
    {started : Timestamp} (hstarted : run.startedAt = some started) (sound : run.IsSound)
    (options : RunOptions) : ∃ ended w',
    (execute service.host (isAskedToStop run.id <$> service.activeRuns)
      service.settings pipeline run
      options).run w = (ended, w') ∧ ended.IsRunOf run ∧ (ended.IsCountable → ended.IsSound) ∧
      HasStored w' pipelines runs := by
  obtain ⟨read, reads⟩ := onMemory.activeRuns
  -- Whether the run was asked to stop is something around the store, like the clock.
  let asked : Environment ω := { env with isCancelled := isAskedToStop run.id <$> read }
  rw [onMemory.host, reads]
  refine ⟨_, _, rfl, ?_, ?_, ?_⟩
  · exact isRunOf_execute (memoryHost asked)
      (aside asked.isCancelled) service.settings pipeline options w hstarted
  · exact isSound_execute (memoryHost asked) (aside asked.isCancelled)
      service.settings pipeline options w (fun v => clock v.around) hstarted sound
  · exact has.of_records?_eq fun name reserved =>
      records?_execute_of_free asked service.settings pipeline run options w spares reserved

section

variable (onMemory : service.RunsIn env) (never : env.NeverRefuses)
    (has : HasStored w pipelines runs)

include onMemory never has

/-! ### Looking -/

/-- The pipeline of an id is looked up. -/
theorem get_run (id : String) : ∃ w', w'.stored = w.stored ∧
    (service.get id).run.run w =
      ((pipelines.find? (·.id == id)).elim (.error (.noPipeline id)) .ok, w') := by
  obtain ⟨around, found⟩ := findPipeline?_run never has.heldPipelines id
  refine ⟨{ w with around }, rfl, ?_⟩
  rw [get, onMemory.host, run_exceptBind, run_adapt, found]
  cases pipelines.find? (·.id == id) with
  | none => rfl
  | some pipeline => rfl

/-- All pipelines are listed. -/
theorem list_run : ∃ w', w'.stored = w.stored ∧
    (service.list).run.run w =
      (.ok (pipelines.mergeSort fun a b => !b.createdAt.before a.createdAt), w') := by
  obtain ⟨around, found⟩ := listPipelines_run never has.heldPipelines
  refine ⟨{ w with around }, rfl, ?_⟩
  rw [list, onMemory.host, run_adapt, found]
  rfl

/-- The run of an id is looked up. -/
theorem getRun_run (id : String) : ∃ w', w'.stored = w.stored ∧
    (service.getRun id).run.run w =
      ((runs.find? (·.id == id)).elim (.error (.noRun id)) .ok, w') := by
  obtain ⟨around, found⟩ := findRun?_run never has.heldRuns id
  refine ⟨{ w with around }, rfl, ?_⟩
  rw [getRun, onMemory.host, run_exceptBind, run_adapt, found]
  cases runs.find? (·.id == id) with
  | none => rfl
  | some run => rfl

/-- The runs of a pipeline are listed. -/
theorem runsOf_run (pipelineId : String) : ∃ w', w'.stored = w.stored ∧
    (service.runsOf pipelineId).run.run w =
      (.ok ((runs.filter (·.pipelineId == pipelineId)).mergeSort
        fun a b => !a.createdAt.before b.createdAt), w') := by
  obtain ⟨around, found⟩ := listRuns_run never has.heldRuns pipelineId
  refine ⟨{ w with around }, rfl, ?_⟩
  rw [runsOf, onMemory.host, run_adapt, found]
  rfl

/-! ### Keeping pipelines -/

/-- A pipeline is saved, and that is told. -/
theorem save_run {pipeline : Pipeline} (readable : Keeping.pipelines.IsReadable pipeline)
    (spares : pipeline.SparesReserved) (text : String) : ∃ w', (do
      (savePipeline (memoryHost env).store pipeline).adapt ServiceError.storage
      service.report .info text
      return pipeline : ExceptT ServiceError (StateM (World ω)) Pipeline).run.run w =
        (.ok pipeline, w') ∧
    HasStored w' (replaceKeyed Pipeline.id pipeline pipelines) runs := by
  obtain ⟨w₁, saved, has₁⟩ := has.savePipeline never readable spares
  refine ⟨_, ?_, has₁.of_stored_eq (stored_report onMemory .info text w₁)⟩
  rw [run_exceptBind, run_adapt, saved]
  rfl

/-- A pipeline is made of a valid definition and kept. -/
theorem create_run (clock : ∀ around, (env.now.run around).1.Survives)
    (representable : input.IsRepresentable) (signed : input.HasSignedSizes)
    (valid : (validate input).valid = true) : ∃ pipeline w',
    (service.create input).run.run w = (.ok pipeline, w') ∧ input.Describes pipeline ∧
      HasStored w' (replaceKeyed Pipeline.id pipeline pipelines) runs := by
  have accepted := accepted_of_valid valid
  -- To build the pipeline asks for the time and for ids only, so the store
  -- is as it was when it is saved.
  obtain ⟨id, steps, w₁, built, builds⟩ := Pipeline.ofInput_run_create (memoryHost env).now
    (memoryHost env).freshId input w accepted.readable
  have kept : w₁.stored = w.stored := by
    have keeps := keeps_ofInput (keeps_now env) (keeps_freshId env) input w
    rwa [built] at keeps
  have sound := isSound_create id representable builds (clock w.around)
  obtain ⟨w₂, saved, has₂⟩ := save_run onMemory never (has.of_stored_eq kept)
    ⟨sound, (sizes_lt_iff builds).mpr signed⟩ (accepted.free_outputs builds)
    ("Created pipeline " ++ label (.create id (env.now.run w.around).1 input steps))
  refine ⟨_, w₂, ?_, ⟨rfl, rfl, builds, rfl, rfl, rfl⟩, has₂⟩
  rw [create, onMemory.host, run_exceptBind, ensureValid_run, if_pos valid]
  simp only [run_exceptBind _ _ w, run_adapt, built, mapError_ok]
  exact saved

/-- A pipeline is redefined by a valid definition. -/
theorem update_run (clock : ∀ around, (env.now.run around).1.Survives)
    (representable : input.IsRepresentable) (signed : input.HasSignedSizes)
    (valid : (validate input).valid = true) {id : String} {old : Pipeline}
    (found : pipelines.find? (·.id == id) = some old) : ∃ pipeline w',
    (service.update id input).run.run w = (.ok pipeline, w') ∧ input.Describes pipeline ∧
      pipeline.id = old.id ∧ pipeline.createdAt = old.createdAt ∧
      HasStored w' (replaceKeyed Pipeline.id pipeline pipelines) runs := by
  have accepted := accepted_of_valid valid
  obtain ⟨w₁, same, looked⟩ := get_run onMemory never has id
  obtain ⟨steps, v, w₂, built, builds⟩ := Pipeline.apply_run old (memoryHost env).now
    (memoryHost env).freshId input w₁ accepted.readable
  have kept : w₂.stored = w.stored := by
    have keeps := keeps_apply (keeps_now env) (keeps_freshId env) old input w₁
    rwa [built, same] at keeps
  -- The time of creation is the one of the old pipeline, that could be read again.
  have readable := has.heldPipelines.readable old (List.mem_of_find?_eq_some found)
  have sound := isSound_redefine readable.1 representable builds (clock v.around)
  obtain ⟨w₃, saved, has₃⟩ := save_run onMemory never (has.of_stored_eq kept)
    ⟨sound, (sizes_lt_iff builds).mpr signed⟩ (accepted.free_outputs builds)
    ("Updated pipeline " ++ label (old.redefine (env.now.run v.around).1 input steps))
  refine ⟨old.redefine (env.now.run v.around).1 input steps, w₃, ?_,
    ⟨rfl, rfl, builds, rfl, rfl, rfl⟩, rfl, rfl, has₃⟩
  rw [update, run_exceptBind, looked, found]
  simp only [Option.elim_some]
  rw [onMemory.host, run_exceptBind, ensureValid_run, if_pos valid]
  simp only [run_exceptBind _ _ w₁, run_adapt, built, mapError_ok]
  exact saved

/-- A pipeline that is not there is not redefined. -/
theorem update_run_of_absent {id : String} (absent : pipelines.find? (·.id == id) = none) :
    ∃ w', w'.stored = w.stored ∧
      (service.update id input).run.run w = (.error (.noPipeline id), w') := by
  obtain ⟨w₁, same, looked⟩ := get_run onMemory never has id
  refine ⟨w₁, same, ?_⟩
  rw [update, run_exceptBind, looked, absent]
  rfl

/-- Nor is one redefined by a definition that is not valid. -/
theorem update_run_of_invalid {id : String} {old : Pipeline}
    (found : pipelines.find? (·.id == id) = some old) (invalid : (validate input).valid = false) :
    ∃ w', w'.stored = w.stored ∧
      (service.update id input).run.run w = (.error (.invalid (validate input)), w') := by
  obtain ⟨w₁, same, looked⟩ := get_run onMemory never has id
  refine ⟨w₁, same, ?_⟩
  rw [update, run_exceptBind, looked, found]
  simp only [Option.elim_some, run_exceptBind, ensureValid_run, invalid]
  rfl

/-- A pipeline that is there is deleted with its runs. -/
theorem delete_run {id : String} (there : pipelines.any (·.id == id) = true) : ∃ w',
    (service.delete id).run.run w = (.ok (), w') ∧
      HasStored w' (pipelines.filter (·.id != id)) (runs.filter (·.pipelineId != id)) := by
  obtain ⟨w₁, deleted, held, others, -⟩ := deletePipeline_run never has.heldPipelines id
  have heldRuns := has.heldRuns.of_records?_eq (others _ pipelinesCollection_ne_runsCollection.symm)
  -- The runs go after their pipeline. Each deletion leaves the collection of the other as it is.
  obtain ⟨w₂, cleared, left, others₂⟩ := deleteRuns_run never heldRuns id
  have has₂ : HasStored w₂ (pipelines.filter (·.id != id)) (runs.filter (·.pipelineId != id)) :=
    ⟨held.of_records?_eq (others₂ _ pipelinesCollection_ne_runsCollection),
      fun pipeline hpipeline => has.spare pipeline (List.mem_filter.mp hpipeline).1, left⟩
  refine ⟨_, ?_, has₂.of_stored_eq (stored_report onMemory .info
    ("Deleted pipeline " ++ id ++ " and " ++
      toString (runs.countP (·.pipelineId == id)) ++ " run(s)") w₂)⟩
  rw [delete, onMemory.host, run_exceptBind, run_adapt, deleted, there]
  simp only [mapError_ok, Bool.not_true, Bool.false_eq_true, if_false,
    run_exceptBind, run_adapt, cleared]
  rfl

/-- To delete a pipeline that is not there changes nothing. -/
theorem delete_run_of_absent {id : String} (absent : pipelines.any (·.id == id) = false) :
    ∃ w', w'.stored = w.stored ∧ (service.delete id).run.run w = (.error (.noPipeline id), w') := by
  obtain ⟨w₁, deleted, -, -, unchanged⟩ := deletePipeline_run never has.heldPipelines id
  refine ⟨w₁, unchanged absent, ?_⟩
  rw [delete, onMemory.host, run_exceptBind, run_adapt, deleted, absent]
  rfl

/-! ### Running -/

/-- A run that was started is executed and saved. -/
theorem runToEnd_run (clock : ∀ around, (env.now.run around).1.Survives)
    {pipeline : Pipeline} (spares : pipeline.SparesReserved)
    {run : PipelineRun} {started : Timestamp} (hstarted : run.startedAt = some started)
    (sound : run.IsSound) (options : RunOptions) : ∃ ended w',
    (service.runToEnd pipeline run options).run w = (ended, w') ∧ ended.IsRunOf run ∧
      (ended.IsCountable → HasStored w' pipelines (replaceKeyed PipelineRun.id ended runs)) := by
  have has₁ := has.of_stored_eq (stored_register onMemory run.id w)
  obtain ⟨ended, w₂, executed, runOf, endsSound, has₂⟩ :=
    execute_run onMemory clock has₁ spares hstarted sound options
  have has₃ := has₂.of_stored_eq (stored_unregister onMemory ended.id w₂)
  rw [runToEnd]
  simp only [run_bind, executed]
  rw [onMemory.host]
  by_cases countable : ended.IsCountable
  · obtain ⟨w₄, saved, has₄⟩ := has₃.saveRun never (endsSound countable)
    rw [saved]
    exact ⟨ended, w₄, rfl, runOf, fun _ => has₄⟩
  -- Whether a run that cannot be counted is saved or not, it is the answer.
  · generalize (saveRun (memoryHost env).store ended).run.run _ = saved
    obtain ⟨result, w₄⟩ := saved
    cases result with
    | ok _ => exact ⟨ended, w₄, rfl, runOf, fun h => absurd h countable⟩
    | error error => exact ⟨ended, _, rfl, runOf, fun h => absurd h countable⟩

/-- A run of an active pipeline is kept as it is at its end. -/
theorem run_run (clock : ∀ around, (env.now.run around).1.Survives) {id : String}
    {pipeline : Pipeline} (found : pipelines.find? (·.id == id) = some pipeline)
    (active : pipeline.status = .active) {options : RunOptions}
    (nodup : options.context.names.Nodup) (finite : options.context.IsFinite) : ∃ ended w',
    (service.run id options).run.run w = (.ok ended, w') ∧ ended.pipelineId = pipeline.id ∧
      ended.context = options.context ∧ ended.completedAt.isSome = true ∧
      (ended.IsCountable → HasStored w' pipelines (replaceKeyed PipelineRun.id ended runs)) := by
  obtain ⟨w₁, same, looked⟩ := get_run onMemory never has id
  have spares := has.spare pipeline (List.mem_of_find?_eq_some found)
  obtain ⟨runId, v, around, opened⟩ := newRun_run env pipeline options w₁
  have sound :=
    PipelineRun.isSound_start_create runId pipeline (clock v) (clock around) nodup finite
  have has₁ : HasStored { w₁ with around := (env.now.run around).2 } pipelines runs :=
    has.of_stored_eq same
  obtain ⟨w₂, saved, has₂⟩ := has₁.saveRun never sound
  obtain ⟨ended, w₃, ran, runOf, ends⟩ :=
    runToEnd_run onMemory never has₂ clock spares rfl sound options
  refine ⟨ended, w₃, ?_, runOf.pipelineId, runOf.context, runOf.ended, fun countable => ?_⟩
  · rw [run, run_exceptBind, looked, found]
    simp only [Option.elim_some, if_neg (not_not.mpr active)]
    rw [onMemory.host]
    simp only [run_exceptBind, run_lift, opened, now_run, run_adapt, saved, mapError_ok, ran]
  · -- The run is saved when it starts and once more at its end, where it replaces itself.
    rw [← replaceKeyed_replaceKeyed runs runOf.id.symm]
    exact ends countable

/-- A pipeline that is not there does not run. -/
theorem run_run_of_absent {id : String} (absent : pipelines.find? (·.id == id) = none)
    (options : RunOptions) :
    ∃ w', w'.stored = w.stored ∧
      (service.run id options).run.run w = (.error (.noPipeline id), w') := by
  obtain ⟨w₁, same, looked⟩ := get_run onMemory never has id
  refine ⟨w₁, same, ?_⟩
  rw [run, run_exceptBind, looked, absent]
  rfl

/-- Nor does one that is not active. -/
theorem run_run_of_not_active {id : String} {pipeline : Pipeline}
    (found : pipelines.find? (·.id == id) = some pipeline) (inactive : pipeline.status ≠ .active)
    (options : RunOptions) :
    ∃ w', w'.stored = w.stored ∧
      (service.run id options).run.run w =
        (.error (.notActive pipeline.name pipeline.status), w') := by
  obtain ⟨w₁, same, looked⟩ := get_run onMemory never has id
  refine ⟨w₁, same, ?_⟩
  rw [run, run_exceptBind, looked, found]
  simp only [Option.elim_some, if_pos inactive]
  rfl

end

end Service

end RecordFlow
