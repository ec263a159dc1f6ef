import RecordFlow.Proofs.Run.MemoryHost
import RecordFlow.Proofs.Run.Trace

/-!
# New runs of a pipeline

A new run waits with a pending result for every step, in the order of execution. Its course has
three parts: it is opened, its steps take their turns, and it is ended. On a store in memory it is
opened without a change to the collections, and when it is ended only temporary collections are
dropped. All other changes are made by its steps.

## Main definitions

* `beginRun` — a new run in front of its first step
* `runUpTo` — its progress in front of any step
* `freshSlots` — the steps as they wait in a new run
* `storedInFront`, `madeInFront` — what is stored in front of a step of a
  run, and what the run has made
* `attemptInFront` — the surroundings in which the step is attempted

## Main results

* `slotsOf_beginRun` — a new run keeps its pending results
* `runPipeline_of_ok` — the course of a run whose steps have an order
* `runPipeline_of_error` — the end of a run whose steps have none
* `stored_beginRun`, `stored_endRun` — what is stored when a run is opened and when it is ended
-/

namespace RecordFlow

variable {σ : Type} {pipeline : Pipeline} {order : List Nat}

/-- A new run of a pipeline in front of its first step. -/
def beginRun (host : Host (StateM σ)) (pipeline : Pipeline) (options : RunOptions) :
    StateM σ PipelineRun := do
  let run ← newRun host pipeline options
  openRun host pipeline run

/-- A new run of a pipeline, up to the step at a position of its order. -/
def runUpTo (host : Host (StateM σ)) (isCancelled : StateM σ Bool) (pipeline : Pipeline)
    (options : RunOptions) (order : List Nat) (s : Nat) : StateM σ Progress := do
  let run ← beginRun host pipeline options
  (Execution.ofRun host isCancelled pipeline run options).runSteps
    ((slotsOf pipeline order run).take s) {}

/-- The steps of a pipeline as they wait in a new run. -/
def freshSlots (pipeline : Pipeline) (order : List Nat) : List Slot :=
  (stepsAt pipeline.steps order).map fun (place, step) => ⟨place, step, .pending step⟩

/-! ### Steps in an order -/

/-- Every place of an order is one of a step. -/
theorem lt_of_mem_order (resolved : resolveOrder (pipeline.steps.map Node.ofStep) = .ok order)
    {i : Nat} (hi : i ∈ order) : i < pipeline.steps.length := by
  simpa using (resolveOrder_ok resolved).1.lt_length hi

theorem map_fst_stepsAt {steps : List Step} {places : List Nat}
    (h : ∀ i ∈ places, i < steps.length) : (stepsAt steps places).map Prod.fst = places := by
  induction places with
  | nil => rfl
  | cons i rest ih =>
    obtain ⟨hi, hrest⟩ := List.forall_mem_cons.mp h
    have := ih hrest
    simp only [stepsAt] at this
    simp [stepsAt, List.getElem?_eq_getElem hi, this]

theorem map_place_freshSlots
    (resolved : resolveOrder (pipeline.steps.map Node.ofStep) = .ok order) :
    (freshSlots pipeline order).map Slot.place = order := by
  rw [freshSlots, List.map_map]
  exact map_fst_stepsAt fun i hi => lt_of_mem_order resolved hi

theorem length_freshSlots (resolved : resolveOrder (pipeline.steps.map Node.ofStep) = .ok order) :
    (freshSlots pipeline order).length = order.length := by
  simpa using congrArg List.length (map_place_freshSlots resolved)

/-- What waits at a position of a new run stands at that position of the order. -/
theorem getElem?_order (resolved : resolveOrder (pipeline.steps.map Node.ofStep) = .ok order)
    {slot : Slot} {s : Nat} (hslot : (freshSlots pipeline order)[s]? = some slot) :
    order[s]? = some slot.place := by
  rw [← map_place_freshSlots resolved, List.getElem?_map, hslot, Option.map_some]

theorem scheduled_freshSlots
    (resolved : resolveOrder (pipeline.steps.map Node.ofStep) = .ok order) :
    Scheduled (pipeline.steps.map Node.ofStep) ((freshSlots pipeline order).map Slot.place) := by
  rw [map_place_freshSlots resolved]
  exact (resolveOrder_ok resolved).1

/-- What waits in a new run is the step at its place, with a pending result. -/
theorem mem_freshSlots {slot : Slot} (hmem : slot ∈ freshSlots pipeline order) :
    pipeline.steps[slot.place]? = some slot.step ∧ slot.pending = .pending slot.step := by
  simp only [freshSlots, stepsAt, List.mem_map, List.mem_filterMap, Option.map_eq_some_iff] at hmem
  obtain ⟨_, ⟨i, -, step, hstep, rfl⟩, rfl⟩ := hmem
  exact ⟨hstep, rfl⟩

theorem alignResults_pending (steps : List Step) :
    alignResults steps (steps.map StepResult.pending) = steps.map StepResult.pending :=
  ite_self _

/-! ### The parts of a run -/

/-- What a run is like in front of its first step. -/
theorem beginRun_run (host : Host (StateM σ)) (pipeline : Pipeline) (options : RunOptions) (w : σ) :
    ∃ id created started, ((beginRun host pipeline options).run w).1 =
      (PipelineRun.create id created pipeline options).start started :=
  ⟨_, _, _, rfl⟩

theorem slotsOf_beginRun (host : Host (StateM σ)) (options : RunOptions) (w : σ)
    (resolved : resolveOrder (pipeline.steps.map Node.ofStep) = .ok order) :
    slotsOf pipeline order ((beginRun host pipeline options).run w).1 =
      freshSlots pipeline order := by
  obtain ⟨id, created, started, h⟩ := beginRun_run host pipeline options w
  have pending : ((PipelineRun.create id created pipeline options).start started).stepResults =
      ((stepsAt pipeline.steps order).map Prod.snd).map StepResult.pending := by
    simp [PipelineRun.start, PipelineRun.create, executionSteps, resolved]
  rw [h, slotsOf, pending, alignResults_pending, freshSlots, List.map_map, List.zipWith_map_right,
    List.zipWith_self]
  rfl

theorem runUpTo_run (host : Host (StateM σ)) (isCancelled : StateM σ Bool) (options : RunOptions)
    (w : σ) (s : Nat) (resolved : resolveOrder (pipeline.steps.map Node.ofStep) = .ok order) :
    (runUpTo host isCancelled pipeline options order s).run w =
      (Execution.ofRun host isCancelled pipeline
        ((beginRun host pipeline options).run w).1 options).reach
        (freshSlots pipeline order) {} ((beginRun host pipeline options).run w).2 s := by
  rw [runUpTo, run_bind, slotsOf_beginRun host options w resolved]
  rfl

/-- A new run is begun, and what becomes of it depends on whether its steps have an order. -/
theorem runPipeline_run (host : Host (StateM σ)) (isCancelled : StateM σ Bool)
    (settings : EngineSettings) (pipeline : Pipeline) (options : RunOptions) (w : σ) :
    (runPipeline host isCancelled settings pipeline options).run w =
      (match resolveOrder (pipeline.steps.map Node.ofStep) with
        | .ok order => executeOrdered host isCancelled settings pipeline order
            ((beginRun host pipeline options).run w).1 options
        | .error cycle => refuseCycle host pipeline ((beginRun host pipeline options).run w).1
            cycle).run ((beginRun host pipeline options).run w).2 := rfl

/-- The course of a new run whose steps have an order. -/
theorem runPipeline_of_ok (host : Host (StateM σ)) (isCancelled : StateM σ Bool)
    (settings : EngineSettings) (options : RunOptions) (w : σ)
    (resolved : resolveOrder (pipeline.steps.map Node.ofStep) = .ok order) :
    (runPipeline host isCancelled settings pipeline options).run w =
      (endRun host settings pipeline ((beginRun host pipeline options).run w).1 options
        ((runUpTo host isCancelled pipeline options order order.length).run w).1).run
        ((runUpTo host isCancelled pipeline options order order.length).run w).2 := by
  have noError : ((beginRun host pipeline options).run w).1.error = none := rfl
  rw [runPipeline_run, resolved]
  simp only [executeOrdered, run_bind, noError]
  rw [runUpTo_run host isCancelled options w _ resolved, slotsOf_beginRun host options w resolved,
    ← length_freshSlots resolved, Execution.reach_length]

/-- The end of a new run whose steps have no order. -/
theorem runPipeline_of_error {cycle : CyclicDependency} (host : Host (StateM σ))
    (isCancelled : StateM σ Bool) (settings : EngineSettings) (options : RunOptions) (w : σ)
    (cyclic : resolveOrder (pipeline.steps.map Node.ofStep) = .error cycle) :
    (runPipeline host isCancelled settings pipeline options).run w =
      (refuseCycle host pipeline ((beginRun host pipeline options).run w).1 cycle).run
        ((beginRun host pipeline options).run w).2 := by
  rw [runPipeline_run, cyclic]

@[simp] theorem Progress.stepResults_conclude (progress : Progress) (run : PipelineRun) :
    (progress.conclude run).stepResults = progress.results := by
  rw [conclude]
  split <;> rfl

theorem Progress.status_conclude (progress : Progress) (run : PipelineRun) :
    (progress.conclude run).status = if progress.cancelled then .cancelled else
      if progress.results.any (·.status == .failed) then .failed else .completed := by
  rw [conclude]
  split <;> rfl

theorem Progress.error_conclude (progress : Progress) (run : PipelineRun) :
    (progress.conclude run).error = if progress.cancelled then
      progress.error <|> some "Run was cancelled" else progress.error := by
  rw [conclude]
  split <;> rfl

@[simp] theorem PipelineRun.stepResults_finish (run : PipelineRun) (status : RunStatus)
    (now : Timestamp) : (run.finish status now).stepResults = run.stepResults := rfl

@[simp] theorem PipelineRun.status_finish (run : PipelineRun)
    (status : RunStatus) (now : Timestamp) : (run.finish status now).status = status := rfl

@[simp] theorem PipelineRun.error_finish (run : PipelineRun)
    (status : RunStatus) (now : Timestamp) : (run.finish status now).error = run.error := rfl

/-- Ending a run sets its results, status and error by its progress, and its times. -/
theorem endRun_run (host : Host (StateM σ)) (settings : EngineSettings) (pipeline : Pipeline)
    (run : PipelineRun) (options : RunOptions) (progress : Progress) (w : σ) :
    ∃ ended, ((endRun host settings pipeline run options progress).run w).1 =
      (progress.conclude run).finish (progress.conclude run).status ended := by
  rw [endRun]
  split
  · exact ⟨_, rfl⟩
  · exact ⟨_, rfl⟩

theorem stepResults_endRun (host : Host (StateM σ)) (settings : EngineSettings)
    (pipeline : Pipeline) (run : PipelineRun) (options : RunOptions) (progress : Progress) (w : σ) :
    ((endRun host settings pipeline run options progress).run w).1.stepResults =
      progress.results := by
  obtain ⟨ended, h⟩ := endRun_run host settings pipeline run options progress w
  rw [h, PipelineRun.stepResults_finish, Progress.stepResults_conclude]

/-! ### New runs on a store in memory -/

variable {ω : Type}

/-- The execution of a new run on a store in memory. -/
abbrev Execution.ofNewRun (env : Environment ω) (pipeline : Pipeline) (options : RunOptions)
    (w : World ω) : Execution (StateM (World ω)) :=
  .ofRun (memoryHost env) (aside env.isCancelled) pipeline
    ((beginRun (memoryHost env) pipeline options).run w).1 options

/-- The collections that are stored when a new run comes to the step at a position of its order. -/
def storedInFront (env : Environment ω) (pipeline : Pipeline)
    (options : RunOptions) (order : List Nat) (w : World ω) (s : Nat) : Collections :=
  ((runUpTo (memoryHost env) (aside env.isCancelled) pipeline options order s).run w).2.stored

/-- The sets that a new run has made when it comes to the step at a position of its order. -/
def madeInFront (env : Environment ω) (pipeline : Pipeline)
    (options : RunOptions) (order : List Nat) (w : World ω) (s : Nat) : Collections :=
  ((runUpTo (memoryHost env) (aside env.isCancelled) pipeline options order s).run w).1.made

/-- The surroundings in which a new run attempts a step at a position of its order. -/
def attemptInFront (env : Environment ω) (pipeline : Pipeline) (options : RunOptions)
    (order : List Nat) (w : World ω) (s : Nat) (step : Step) : World ω :=
  let reached := (runUpTo (memoryHost env) (aside env.isCancelled) pipeline options order s).run w
  (Execution.ofNewRun env pipeline options w).attemptIn step reached.1 reached.2

/-- Only the removal of temporary collections changes what is stored when a run is ended. -/
theorem stored_endRun (env : Environment ω) (settings : EngineSettings) (pipeline : Pipeline)
    (run : PipelineRun) (options : RunOptions) (progress : Progress) (w : World ω) :
    ∃ gone : List String,
      (∀ name ∈ gone, options.cleanup = true ∧ isTemporary settings name = true ∧
        name ∈ progress.made.map Prod.fst) ∧
      (∀ name, env.AlwaysDrops name → options.cleanup = true → isTemporary settings name = true →
        name ∈ progress.made.map Prod.fst → name ∈ gone) ∧
      ((endRun (memoryHost env) settings pipeline run options progress).run w).2.stored =
        w.stored.removeAll gone := by
  rw [endRun]
  cases cleanup : options.cleanup with
  | false =>
    refine ⟨[], by simp, by simp, ?_⟩
    rw [Collections.removeAll_nil]
    rfl
  | true =>
    obtain ⟨gone, hsub, hall, hstored⟩ := stored_dropTemporary env
      ((progress.made.map Prod.fst).filter (isTemporary settings)) w
    refine ⟨gone, fun name hmem => ?_, fun name always _ temporary made => ?_, hstored⟩
    · obtain ⟨made, temporary⟩ := List.mem_filter.mp (hsub hmem)
      exact ⟨rfl, temporary, made⟩
    · exact hall name (List.mem_filter.mpr ⟨made, temporary⟩) always

theorem stored_beginRun (env : Environment ω) (pipeline : Pipeline) (options : RunOptions)
    (w : World ω) : ((beginRun (memoryHost env) pipeline options).run w).2.stored = w.stored := rfl

/-- A run that is not asked to clean up drops nothing. -/
theorem stored_endRun_of_not_cleanup (env : Environment ω) (settings : EngineSettings)
    (pipeline : Pipeline) (run : PipelineRun) {options : RunOptions}
    (progress : Progress) (w : World ω) (keeps : options.cleanup = false) :
    ((endRun (memoryHost env) settings pipeline run options progress).run w).2.stored =
      w.stored := by
  obtain ⟨gone, hgone, -, hstored⟩ := stored_endRun env settings pipeline run options progress w
  have none : gone = [] := List.eq_nil_iff_forall_not_mem.mpr fun name hmem => by
    cases keeps.symm.trans (hgone name hmem).1
  rw [hstored, none, Collections.removeAll_nil]

end RecordFlow
