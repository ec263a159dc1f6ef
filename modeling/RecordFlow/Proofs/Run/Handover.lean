import RecordFlow.Proofs.Run.MemoryHost
import RecordFlow.Proofs.Run.NewRun

/-!
# Runs that are handed over

A run may be executed that was created before, for the same pipeline or for another one.
It keeps the results that it has when they have the ids of the steps in their order, and
gets new ones otherwise. But a result tells more of its step than the id, and what else
it tells is not looked at again.

## Main definitions

* `StepSubject` — what a result tells of its step, however the step fares
* `lastTurn` — how far a started run is behind its last step

## Main results

* `execute_of_ok`, `execute_of_error` — the course of a run that is handed over
* `map_subject_execute` — its results tell of the steps of which the aligned results told
* `execute_subjects` — when a run that was created for another pipeline tells of the executed steps
* `execute_tells_of_other_step` — a run whose result tells of a step that was not executed
-/

namespace RecordFlow

variable {σ : Type} {pipeline : Pipeline} {order : List Nat}

/-- What a result tells of its step, however the step fares. -/
structure StepSubject where
  id : String
  name : String
  kind : StepKind
  output : String
  deriving DecidableEq

/-- What is to be told of a step. -/
def Step.subject (step : Step) : StepSubject :=
  ⟨step.id, step.name, step.config.kind, step.config.output⟩

/-- What a result tells of its step. -/
def StepResult.subject (result : StepResult) : StepSubject :=
  ⟨result.stepId, result.stepName, result.kind, result.output⟩

theorem map_subject_pending (steps : List Step) :
    (steps.map StepResult.pending).map StepResult.subject = steps.map Step.subject :=
  List.map_map

theorem map_id_subject (results : List StepResult) :
    (results.map StepResult.subject).map StepSubject.id = results.map StepResult.stepId :=
  List.map_map

/-! ### Aligned results -/

theorem map_subject_alignResults (steps : List Step) (results : List StepResult) :
    (alignResults steps results).map StepResult.subject =
      if results.map StepResult.stepId = steps.map Step.id then results.map StepResult.subject
      else steps.map Step.subject := by
  rw [alignResults]
  split
  · rfl
  · exact map_subject_pending steps

theorem map_stepId_alignResults (steps : List Step) (results : List StepResult) :
    (alignResults steps results).map StepResult.stepId = steps.map Step.id := by
  rw [alignResults]
  split
  next same => exact same
  next => exact List.map_map

theorem length_alignResults (steps : List Step) (results : List StepResult) :
    (alignResults steps results).length = steps.length := by
  simpa using congrArg List.length (map_stepId_alignResults steps results)

/-! ### Steps that wait -/

theorem executionSteps_of_ok
    (resolved : resolveOrder (pipeline.steps.map Node.ofStep) = .ok order) :
    executionSteps pipeline = (stepsAt pipeline.steps order).map Prod.snd := by
  rw [executionSteps, resolved]

theorem executionSteps_of_error {cycle : CyclicDependency}
    (cyclic : resolveOrder (pipeline.steps.map Node.ofStep) = .error cycle) :
    executionSteps pipeline = pipeline.steps := by
  rw [executionSteps, cyclic]

theorem length_stepsAt {steps : List Step} {places : List Nat}
    (h : ∀ i ∈ places, i < steps.length) : (stepsAt steps places).length = places.length := by
  simpa using congrArg List.length (map_fst_stepsAt h)

theorem length_executionSteps (pipeline : Pipeline) :
    (executionSteps pipeline).length = pipeline.steps.length := by
  cases resolved : resolveOrder (pipeline.steps.map Node.ofStep) with
  | error cycle => rw [executionSteps_of_error resolved]
  | ok order =>
    rw [executionSteps_of_ok resolved, List.length_map,
      length_stepsAt fun i hi => lt_of_mem_order resolved hi]
    simpa using (resolveOrder_ok resolved).2

theorem mem_steps_of_mem_executionSteps {step : Step} (h : step ∈ executionSteps pipeline) :
    step ∈ pipeline.steps := by
  cases resolved : resolveOrder (pipeline.steps.map Node.ofStep) with
  | error cycle => rwa [executionSteps_of_error resolved] at h
  | ok order =>
    rw [executionSteps_of_ok resolved] at h
    obtain ⟨⟨i, same⟩, hpair, rfl⟩ := List.mem_map.mp h
    obtain ⟨place, -, found⟩ := List.mem_filterMap.mp hpair
    obtain ⟨_, hstep, same⟩ := Option.map_eq_some_iff.mp found
    exact (Prod.ext_iff.mp same).2 ▸ List.mem_of_getElem? hstep

/-- Every step of an order waits, with its place. -/
theorem map_place_slotsOf (pipeline : Pipeline) (order : List Nat) (run : PipelineRun) :
    (slotsOf pipeline order run).map (fun slot => (slot.place, slot.step)) =
      stepsAt pipeline.steps order := by
  rw [slotsOf, ← List.map_uncurry_zip_eq_zipWith, List.map_map]
  refine List.map_fst_zip ?_
  rw [length_alignResults, List.length_map]

/-- The steps wait with the aligned results of the run. -/
theorem map_pending_slotsOf (pipeline : Pipeline) (order : List Nat) (run : PipelineRun) :
    (slotsOf pipeline order run).map Slot.pending =
      alignResults ((stepsAt pipeline.steps order).map Prod.snd) run.stepResults := by
  rw [slotsOf, ← List.map_uncurry_zip_eq_zipWith, List.map_map]
  refine List.map_snd_zip ?_
  rw [length_alignResults, List.length_map]

/-! ### The course of a run -/

namespace Execution

variable {execution : Execution (StateM σ)} {slot : Slot} {slots : List Slot} {progress : Progress}
  {w : σ} {s : Nat}

/-- The result that a turn adds tells of the step of which the waiting result told. -/
theorem Turn.map_subject {after : Progress × σ} (h : execution.Turn slot progress w after) :
    after.1.results.map StepResult.subject =
      progress.results.map StepResult.subject ++ [slot.pending.subject] := by
  cases h with
  | skipped _ _ => exact List.map_append
  | completed _ _ _ => exact List.map_append
  | failed _ _ _ => exact List.map_append

theorem map_subject_reach (execution : Execution (StateM σ)) (slots : List Slot) (start : Progress)
    (w : σ) (hs : s ≤ slots.length) :
    (execution.reach slots start w s).1.results.map StepResult.subject =
      start.results.map StepResult.subject ++ (slots.take s).map fun slot =>
        slot.pending.subject := by
  induction s with
  | zero => simp
  | succ s ih =>
    rw [(execution.reach_turn start w hs).map_subject, ih (by omega),
      List.take_succ_eq_append_getElem hs, List.map_append, List.append_assoc]
    rfl

end Execution

section

variable (host : Host (StateM σ)) (isCancelled : StateM σ Bool) (settings : EngineSettings)
  (run : PipelineRun) (options : RunOptions) (w : σ)

/-- How far a started run is behind the last step of an order, and the world that it is in then. -/
def lastTurn (pipeline : Pipeline) (order : List Nat) : Progress × σ :=
  (Execution.ofRun host isCancelled pipeline run options).reach (slotsOf pipeline order run)
    { error := run.error } w (slotsOf pipeline order run).length

/-- The course of a run that is handed over, if its steps have an order. -/
theorem execute_of_ok (resolved : resolveOrder (pipeline.steps.map Node.ofStep) = .ok order) :
    let opened := (openRun host pipeline run).run w
    let last := lastTurn host isCancelled opened.1 options opened.2 pipeline order
    (execute host isCancelled settings pipeline run options).run w =
      (endRun host settings pipeline opened.1 options last.1).run last.2 := by
  intro opened last
  simp only [execute, run_bind, resolved, executeOrdered]
  rw [← Execution.reach_length]
  rfl

/-- Its end, if they have none. -/
theorem execute_of_error {cycle : CyclicDependency}
    (cyclic : resolveOrder (pipeline.steps.map Node.ofStep) = .error cycle) :
    (execute host isCancelled settings pipeline run options).run w =
      (refuseCycle host pipeline ((openRun host pipeline run).run w).1 cycle).run
        ((openRun host pipeline run).run w).2 := by
  simp only [execute, run_bind, cyclic]

theorem stepResults_openRun (pipeline : Pipeline) :
    ((openRun host pipeline run).run w).1.stepResults = run.stepResults := by
  rw [openRun]
  cases run.startedAt <;> rfl

/-- The results of a run tell of the steps of which the aligned results told. -/
theorem map_subject_execute (pipeline : Pipeline) :
    ((execute host isCancelled settings pipeline run options).run w).1.stepResults.map
      StepResult.subject = (alignResults (executionSteps pipeline) run.stepResults).map
        StepResult.subject := by
  cases resolved : resolveOrder (pipeline.steps.map Node.ofStep) with
  | error cycle =>
    -- No step is run, but the results are aligned with the steps as they are declared.
    rw [execute_of_error host isCancelled settings run options w resolved,
      executionSteps_of_error resolved, ← stepResults_openRun host run w pipeline]
    exact List.map_map
  | ok order =>
    rw [execute_of_ok host isCancelled settings run options w resolved,
      stepResults_endRun, lastTurn, Execution.map_subject_reach _ _ _ _ le_rfl, List.take_length,
      executionSteps_of_ok resolved, ← stepResults_openRun host run w pipeline,
      ← map_pending_slotsOf, List.map_map]
    rfl

end

/-- **Of which steps a run tells that was created for another pipeline.** Its results have
the ids of the executed steps in their order. They tell of these steps unless the other
pipeline has the same ids in its order: then they tell of its steps, and so of the executed
ones only if these are told alike. -/
theorem execute_subjects (host : Host (StateM σ)) (isCancelled : StateM σ Bool)
    (settings : EngineSettings) (pipeline other : Pipeline) (id : String) (created : Timestamp)
    (asked options : RunOptions) (w : σ) :
    let run :=
      ((execute host isCancelled settings pipeline (.create id created other asked) options).run
        w).1
    run.stepResults.length = pipeline.steps.length ∧
    run.stepResults.map StepResult.stepId = (executionSteps pipeline).map Step.id ∧
    run.stepResults.map StepResult.subject =
      (if (executionSteps other).map Step.id = (executionSteps pipeline).map Step.id then
        (executionSteps other).map Step.subject else (executionSteps pipeline).map Step.subject) ∧
    (run.stepResults.map StepResult.subject = (executionSteps pipeline).map Step.subject ↔
      ((executionSteps other).map Step.id = (executionSteps pipeline).map Step.id →
        (executionSteps other).map Step.subject = (executionSteps pipeline).map Step.subject)) := by
  intro run
  have aligned := map_subject_execute host isCancelled settings
    (.create id created other asked) options w pipeline
  -- The ids are right in either case, since results of other ids are not kept.
  have ids : run.stepResults.map StepResult.stepId = (executionSteps pipeline).map Step.id := by
    rw [← map_id_subject, aligned, map_id_subject, map_stepId_alignResults]
  have told : run.stepResults.map StepResult.subject =
      if (executionSteps other).map Step.id = (executionSteps pipeline).map Step.id then
        (executionSteps other).map Step.subject
          else (executionSteps pipeline).map Step.subject := by
    have pending : (PipelineRun.create id created other asked).stepResults.map StepResult.stepId =
        (executionSteps other).map Step.id := List.map_map
    rw [aligned, map_subject_alignResults, pending]
    exact ite_congr rfl (fun _ => map_subject_pending (executionSteps other)) fun _ => rfl
  refine ⟨?_, ids, told, ?_⟩
  · simpa [length_executionSteps] using congrArg List.length ids
  · rw [told]
    split
    next same => exact ⟨fun alike _ => alike, fun alike => alike same⟩
    next different => exact ⟨fun _ same => absurd same different, fun _ => rfl⟩

/-- A pipeline of a step that passes records on to a collection of its own. -/
def copyTo (name output : String) : Pipeline :=
  .ofSteps [{ Step.passOn "copy" "users" output with name }]

/-- A run that was created for a pipeline before it got another output tells of the earlier one. -/
theorem execute_tells_of_other_step :
    let run := ((execute (memoryHost .calm) (aside Environment.calm.isCancelled) {}
      (copyTo "Copy users" "copied") (.create "run" .epoch (copyTo "Keep users" "kept") {}) {}).run
        ⟨[("users", [])], ()⟩).1
    run.stepResults.map StepResult.subject = [⟨"copy", "Keep users", .limit, "kept"⟩] ∧
      run.stepResults.map StepResult.subject ≠
        (executionSteps (copyTo "Copy users" "copied")).map Step.subject := by
  decide +kernel

end RecordFlow
