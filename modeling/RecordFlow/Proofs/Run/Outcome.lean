import RecordFlow.Proofs.Run.MemoryHost
import RecordFlow.Proofs.Run.Status

/-!
# What a run returns

A run tells how each of its steps has fared, and its own status and error sum that up.
Whatever the store answers and whenever the run is cancelled, no step is started on top of one
that is not completed, and which steps are skipped is a matter of the failures, the
cancellation and the dependencies alone. Steps whose dependencies form a cycle are all
skipped, and the store is never asked for anything.

## Main definitions

* `ResultAt` — the result that a run has for a step
* `StoppedBefore` — the check in front of a step finds the run cancelled
* `Outcome` — how a run ends whose steps have an order
* `Refusal` — how it ends when they have none

## Main results

* `runPipeline_completes_dependencies` — what a started step needs is completed
* `runPipeline_outcome` — how every run ends
-/

namespace RecordFlow

variable {σ : Type} {pipeline : Pipeline} {order : List Nat} {run : PipelineRun} {i j s t : Nat}
  {result : StepResult}

/-- A run in this order has the result at the position `s`, for the step at the place `i`. -/
def ResultAt (order : List Nat) (run : PipelineRun) (s i : Nat) (result : StepResult) : Prop :=
  order[s]? = some i ∧ run.stepResults[s]? = some result

/-- A new run is found cancelled when it comes to the step at a position of its order. -/
def StoppedBefore (host : Host (StateM σ)) (isCancelled : StateM σ Bool) (pipeline : Pipeline)
    (options : RunOptions) (order : List Nat) (w : σ) (s : Nat) : Prop :=
  (isCancelled.run ((runUpTo host isCancelled pipeline options order s).run w).2).1 = true

/-- How a run of steps in an order ends, where `Stopped` tells in front of which of them it is found
cancelled. -/
structure Outcome (pipeline : Pipeline) (options : RunOptions)
    (order : List Nat) (Stopped : Nat → Prop) (run : PipelineRun) : Prop where
  /-- There is a result for every step, in the order of execution. -/
  stepIds : run.stepResults.map (some ·.stepId) = order.map fun i =>
    (pipeline.steps[i]?).map Step.id
  settled : ∀ result ∈ run.stepResults,
    result.status = .completed ∨ result.status = .failed ∨ result.status = .skipped
  cancelled_iff : run.status = .cancelled ↔ ∃ s < order.length, Stopped s
  failed_iff : run.status = .failed ↔
    run.status ≠ .cancelled ∧ ∃ result ∈ run.stepResults, result.status = .failed
  completed_iff : run.status = .completed ↔ ∀ result ∈ run.stepResults, result.status = .completed
  status : run.status = .cancelled ∨ run.status = .failed ∨ run.status = .completed
  /-- A run that continues on errors skips what needs a failed step, and nothing else. -/
  skipped_iff : options.continueOnError = true → run.status ≠ .cancelled →
    ∀ s i result, ResultAt order run s i result → (result.status = .skipped ↔
      ∃ t p failed, ResultAt order run t p failed ∧ failed.status = .failed ∧
        Needs (pipeline.steps.map Node.ofStep) i p)
  /-- A run that halts on errors has at most one failed step. -/
  halts : options.continueOnError = false →
    ∀ s i result, ResultAt order run s i result → result.status = .failed →
      ∀ t j other, ResultAt order run t j other →
        (t < s → other.status = .completed) ∧ (s < t → other.status = .skipped)
  error_eq_none_iff : run.error = none ↔ run.status = .completed
  /-- The error of a run is that of the first failed step. -/
  error_of_failed : ∀ s i result, ResultAt order run s i result → result.status = .failed →
    (∀ t < s, ∀ j other, ResultAt order run t j other → other.status ≠ .failed) →
    ∃ message, result.error = some message ∧
      run.error = some ("Step '" ++ result.stepId ++ "' failed: " ++ message)

/-- How a run ends whose steps have no order. -/
structure Refusal (pipeline : Pipeline) (cycle : CyclicDependency) (run : PipelineRun) : Prop where
  stepIds : run.stepResults.map StepResult.stepId = pipeline.steps.map Step.id
  skipped : ∀ result ∈ run.stepResults, result.status = .skipped
  status : run.status = .failed
  error : run.error = some cycle.message

namespace Execution

variable {execution : Execution (StateM σ)} {slots : List Slot} {w : σ}

/-- A run that ends with the progress behind its last step. -/
structure EndsWith (execution : Execution (StateM σ)) (slots : List Slot)
    (w : σ) (run : PipelineRun) : Prop where
  stepResults : run.stepResults = execution.results slots w
  status : run.status =
    if (execution.reach slots {} w slots.length).1.cancelled then .cancelled else
    if (execution.results slots w).any (·.status == .failed) then .failed else .completed
  error : run.error = if (execution.reach slots {} w slots.length).1.cancelled then
    (execution.reach slots {} w slots.length).1.error <|> some "Run was cancelled"
    else (execution.reach slots {} w slots.length).1.error

theorem exists_statusAt_iff {status : StepStatus} :
    (∃ s, execution.StatusAt slots w s status) ↔
      ∃ result ∈ execution.results slots w, result.status = status := by
  constructor
  · rintro ⟨s, result, hresult, hstatus⟩
    exact ⟨result, List.mem_of_getElem? hresult, hstatus⟩
  · rintro ⟨result, hmem, hstatus⟩
    obtain ⟨s, hresult⟩ := List.getElem?_of_mem hmem
    exact ⟨s, result, hresult, hstatus⟩

namespace EndsWith

theorem status_eq_cancelled_iff (h : execution.EndsWith slots w run) :
    run.status = .cancelled ↔ ∃ s < slots.length, execution.StoppedAt slots w s := by
  rw [← cancelled_reach_iff le_rfl, h.status]
  cases (execution.reach slots {} w slots.length).1.cancelled with
  | true => simp
  | false =>
    by_cases failed : (execution.results slots w).any (·.status == .failed) <;> simp [failed]

/-- A run that does not end as cancelled is never found cancelled. -/
theorem not_stoppedAt (h : execution.EndsWith slots w run)
    (notCancelled : run.status ≠ .cancelled) :
    ∀ t < slots.length, ¬ execution.StoppedAt slots w t :=
  fun t ht stopped => notCancelled (h.status_eq_cancelled_iff.mpr ⟨t, ht, stopped⟩)

theorem status_eq_failed_iff (h : execution.EndsWith slots w run) :
    run.status = .failed ↔
      run.status ≠ .cancelled ∧ ∃ result ∈ run.stepResults, result.status = .failed := by
  rw [h.status, h.stepResults]
  cases (execution.reach slots {} w slots.length).1.cancelled with
  | true => simp
  | false =>
    by_cases failed : ∃ result ∈ execution.results slots w, result.status =
      .failed <;> simp [failed]

theorem status_cases (h : execution.EndsWith slots w run) :
    run.status = .cancelled ∨ run.status = .failed ∨ run.status = .completed := by
  rw [h.status]
  cases (execution.reach slots {} w slots.length).1.cancelled with
  | true => exact .inl rfl
  | false =>
    by_cases failed : (execution.results slots w).any (·.status == .failed) <;> simp [failed]

/-- A run is completed exactly when its steps are. -/
theorem status_eq_completed_iff (h : execution.EndsWith slots w run) :
    run.status = .completed ↔ ∀ result ∈ run.stepResults, result.status = .completed := by
  constructor
  · intro completed result hmem
    have notCancelled : run.status ≠ .cancelled := by simp [completed]
    have notFailed : ∀ t, ¬ execution.StatusAt slots w t .failed := by
      intro t failed
      have some := exists_statusAt_iff.mp ⟨t, failed⟩
      rw [← h.stepResults] at some
      rw [h.status_eq_failed_iff.mpr ⟨notCancelled, some⟩] at completed
      cases completed
    rw [h.stepResults] at hmem
    obtain ⟨s, hresult⟩ := List.getElem?_of_mem hmem
    obtain ⟨hs, -⟩ := effect_of_result hresult
    exact (statusAt_iff hresult).mp (statusAt_completed (h.not_stoppedAt notCancelled) notFailed hs)
  · intro all
    rcases h.status_cases with cancelled | failed | completed
    · -- The step in front of which the run was found cancelled is skipped.
      obtain ⟨s, hs, stopped⟩ := h.status_eq_cancelled_iff.mp cancelled
      obtain ⟨result, hresult, skipped⟩ :=
        (statusAt_skipped_iff hs).mpr (.inl ⟨s, by omega, stopped⟩)
      rw [← h.stepResults] at hresult
      rw [all result (List.mem_of_getElem? hresult)] at skipped
      cases skipped
    · obtain ⟨-, result, hmem, failed⟩ := h.status_eq_failed_iff.mp failed
      rw [all result hmem] at failed
      cases failed
    · exact completed

theorem exists_failed_iff (h : execution.EndsWith slots w run) :
    (∃ result ∈ run.stepResults, result.status = .failed) ↔
      (execution.reach slots {} w slots.length).1.error ≠ none := by
  have noError : (execution.reach slots {} w slots.length).1.error = none ↔
      ∀ t < slots.length, ¬ execution.StatusAt slots w t .failed := error_reach_eq_none_iff le_rfl
  rw [h.stepResults, ← exists_statusAt_iff, Ne, noError]
  push Not
  exact ⟨fun ⟨s, failed⟩ => ⟨s, failed.lt, failed⟩, fun ⟨s, _, failed⟩ => ⟨s, failed⟩⟩

/-- A run has no error exactly when it is completed. -/
theorem error_eq_none_iff (h : execution.EndsWith slots w run) :
    run.error = none ↔ run.status = .completed := by
  have failed_iff := h.exists_failed_iff
  rw [h.stepResults] at failed_iff
  rw [h.error, h.status]
  cases (execution.reach slots {} w slots.length).1.cancelled with
  | true => simp
  | false =>
    by_cases failed : ∃ result ∈ execution.results slots w, result.status = .failed
    · simp [failed, failed_iff.mp failed]
    · simp [failed, not_not.mp (mt failed_iff.mpr failed)]

/-- An error of the steps is the error of the run. -/
theorem error_eq_some {text : String} (h : execution.EndsWith slots w run)
    (error : (execution.reach slots {} w slots.length).1.error = some text) :
    run.error = some text := by
  rw [h.error, error]
  cases (execution.reach slots {} w slots.length).1.cancelled <;> rfl

/-- A result belongs to a step that waited for its turn. -/
theorem exists_slot (h : execution.EndsWith slots w run) (places : slots.map Slot.place = order)
    (at_s : ResultAt order run s i result) :
    ∃ hs : s < slots.length, slots[s].place = i ∧
      (execution.results slots w)[s]? = some result := by
  obtain ⟨hplace, hresult⟩ := at_s
  rw [← places, List.getElem?_map, Option.map_eq_some_iff] at hplace
  obtain ⟨slot, hslot, rfl⟩ := hplace
  obtain ⟨hs, rfl⟩ := List.getElem?_eq_some_iff.mp hslot
  exact ⟨hs, rfl, h.stepResults ▸ hresult⟩

/-- Every step that waited for its turn has a result. -/
theorem exists_resultAt {status : StepStatus} {slot : Slot} (h : execution.EndsWith slots w run)
    (places : slots.map Slot.place = order) (hslot : slots[s]? = some slot)
    (hstatus : execution.StatusAt slots w s status) :
    ∃ result, ResultAt order run s slot.place result ∧ result.status = status := by
  obtain ⟨result, hresult, rfl⟩ := hstatus
  refine ⟨result, ⟨?_, ?_⟩, rfl⟩
  · rw [← places, List.getElem?_map, hslot]
    rfl
  · rw [h.stepResults, hresult]

/-- In a run that continues on errors and is not cancelled, a step is skipped exactly when
it needs one that has failed. -/
theorem skipped_iff (h : execution.EndsWith slots w run) (places : slots.map Slot.place = order)
    (scheduled : Scheduled execution.nodes (slots.map Slot.place))
    (continues : execution.options.continueOnError = true) (notCancelled : run.status ≠ .cancelled)
    (at_s : ResultAt order run s i result) :
    result.status = .skipped ↔ ∃ t p failed, ResultAt order run t p failed ∧
      failed.status = .failed ∧ Needs execution.nodes i p := by
  obtain ⟨hs, rfl, hresult⟩ := h.exists_slot places at_s
  rw [← statusAt_iff hresult, statusAt_skipped_iff_of_continueOnError scheduled hs continues
    (h.not_stoppedAt notCancelled)]
  constructor
  · rintro ⟨t, hfailed, slot, hslot, needs⟩
    obtain ⟨failed, at_t, hstatus⟩ := h.exists_resultAt places hslot hfailed
    exact ⟨t, slot.place, failed, at_t, hstatus, needs⟩
  · rintro ⟨t, p, failed, at_t, hstatus, needs⟩
    obtain ⟨ht, rfl, hfailed⟩ := h.exists_slot places at_t
    exact ⟨t, (statusAt_iff hfailed).mpr hstatus, slots[t], List.getElem?_eq_getElem ht, needs⟩

/-- The error of a run tells the first step that has failed. -/
theorem error_of_failed (h : execution.EndsWith slots w run) (places : slots.map Slot.place = order)
    (at_s : ResultAt order run s i result) (failed : result.status = .failed)
    (first : ∀ t < s, ∀ j other, ResultAt order run t j other → other.status ≠ .failed) :
    ∃ (hs : s < slots.length) (error : StepError), result.stepId = slots[s].pending.stepId ∧
      result.error = some error.message ∧ run.error = some (failureText slots[s].step error) := by
  obtain ⟨hs, rfl, hresult⟩ := h.exists_slot places at_s
  have noneFailed : ∀ t < s, ¬ execution.StatusAt slots w t .failed := by
    intro t hts hfailed
    obtain ⟨other, at_t, hother⟩ :=
      h.exists_resultAt places (List.getElem?_eq_getElem (hts.trans hs)) hfailed
    exact first t hts _ other at_t hother
  obtain ⟨same, error, hsame, hmessage, herror⟩ := error_reach_of_first_failure hs
    ((statusAt_iff hresult).mpr failed) noneFailed hs le_rfl
  obtain rfl : result = same := Option.some.inj (hresult.symm.trans hsame)
  obtain ⟨_, effect⟩ := effect_of_result hresult
  exact ⟨hs, error, effect.stepId, hmessage, h.error_eq_some herror⟩

/-- The sets that a run has made are the outputs of its completed steps. -/
theorem mem_made_iff {name : String} (h : execution.EndsWith slots w run)
    (outputs : ∀ slot ∈ slots, slot.pending.output = slot.step.config.output) :
    name ∈ (execution.reach slots {} w slots.length).1.made.map Prod.fst ↔
      ∃ result ∈ run.stepResults, result.status = .completed ∧ result.output = name := by
  rw [mem_made_reach_iff le_rfl, h.stepResults]
  constructor
  · rintro ⟨t, -, ⟨result, hresult, completed⟩, slot, hslot, rfl⟩
    obtain ⟨ht, effect⟩ := effect_of_result hresult
    obtain ⟨_, rfl⟩ := List.getElem?_eq_some_iff.mp hslot
    refine ⟨result, List.mem_of_getElem? hresult, completed, ?_⟩
    rw [effect.output, outputs _ (List.getElem_mem ht)]
  · rintro ⟨result, hmem, completed, rfl⟩
    obtain ⟨t, hresult⟩ := List.getElem?_of_mem hmem
    obtain ⟨ht, effect⟩ := effect_of_result hresult
    refine ⟨t, ht, ⟨result, hresult, completed⟩, slots[t], List.getElem?_eq_getElem ht, ?_⟩
    rw [effect.output, outputs _ (List.getElem_mem ht)]

end EndsWith

end Execution

/-! ### New runs -/

section

variable (host : Host (StateM σ)) (isCancelled : StateM σ Bool) (settings : EngineSettings)
  (options : RunOptions) (w : σ)

theorem runPipeline_endsWith
    (resolved : resolveOrder (pipeline.steps.map Node.ofStep) = .ok order) :
    (Execution.ofRun host isCancelled pipeline ((beginRun host pipeline options).run w).1
      options).EndsWith (freshSlots pipeline order) ((beginRun host pipeline options).run w).2
      ((runPipeline host isCancelled settings pipeline options).run w).1 := by
  obtain ⟨ended, hended⟩ := endRun_run host settings pipeline
    ((beginRun host pipeline options).run w).1
    options ((runUpTo host isCancelled pipeline options order order.length).run w).1
    ((runUpTo host isCancelled pipeline options order order.length).run w).2
  rw [runPipeline_of_ok host isCancelled settings options w resolved, hended,
    runUpTo_run host isCancelled options w _ resolved, ← length_freshSlots resolved]
  constructor
  · rw [PipelineRun.stepResults_finish, Progress.stepResults_conclude]
    rfl
  · rw [PipelineRun.status_finish, Progress.status_conclude]
    rfl
  · rw [PipelineRun.error_finish, Progress.error_conclude]

/-- A run has a result for every step, in their order. -/
theorem runPipeline_stepIds (resolved : resolveOrder (pipeline.steps.map Node.ofStep) = .ok order) :
    ((runPipeline host isCancelled settings pipeline options).run w).1.stepResults.map
      (some ·.stepId) = order.map fun i => (pipeline.steps[i]?).map Step.id := by
  have ids := Execution.map_stepId_results
    (Execution.ofRun host isCancelled pipeline ((beginRun host pipeline options).run w).1 options)
    (freshSlots pipeline order) ((beginRun host pipeline options).run w).2
  have steps := map_place_freshSlots resolved
  calc
    _ = (((runPipeline host isCancelled settings pipeline options).run w).1.stepResults.map
        StepResult.stepId).map some := by rw [List.map_map]; rfl
    _ = (freshSlots pipeline order).map fun slot => some slot.pending.stepId := by
      rw [(runPipeline_endsWith host isCancelled settings options w resolved).stepResults, ids,
        List.map_map]
      rfl
    _ = (freshSlots pipeline order).map fun slot => (pipeline.steps[slot.place]?).map Step.id := by
      refine List.map_congr_left fun slot hslot => ?_
      obtain ⟨hstep, hpending⟩ := mem_freshSlots hslot
      rw [hstep, hpending]
      rfl
    _ = order.map fun i => (pipeline.steps[i]?).map Step.id := by
      rw [← steps, List.map_map, steps]
      rfl

/-- **What a started step needs is completed.** Whatever a store answers and whenever a run is
cancelled: if a step is completed or failed, every step that it depends on, directly or through
others, is completed, and its result stands in front. -/
theorem runPipeline_completes_dependencies
    (resolved : resolveOrder (pipeline.steps.map Node.ofStep) = .ok order) :
    let run := ((runPipeline host isCancelled settings pipeline options).run w).1
    run.stepResults.map (some ·.stepId) = order.map (fun i => (pipeline.steps[i]?).map Step.id) ∧
    ∀ s i result, ResultAt order run s i result →
      result.status = .completed ∨ result.status = .failed →
      ∀ p, Needs (pipeline.steps.map Node.ofStep) i p →
        ∃ t < s, ∃ earlier, ResultAt order run t p earlier ∧ earlier.status = .completed := by
  intro run
  have ends := runPipeline_endsWith host isCancelled settings options w resolved
  have places := map_place_freshSlots resolved
  refine ⟨runPipeline_stepIds host isCancelled settings options w resolved, ?_⟩
  intro s i result at_s started p needs
  obtain ⟨hs, rfl, hresult⟩ := ends.exists_slot places at_s
  have notSkipped : result.status ≠ .skipped := by
    rcases started with completed | failed
    · simp [completed]
    · simp [failed]
  obtain ⟨t, hts, completed, slot, hslot, rfl⟩ := Execution.statusAt_completed_of_needs
    (scheduled_freshSlots resolved) hs (mt (Execution.statusAt_iff hresult).mp notSkipped) needs
  exact ⟨t, hts, ends.exists_resultAt places hslot completed⟩

/-- Two steps, of which the first one reads what the second one makes. -/
def crossedSteps : Pipeline :=
  .ofSteps [.passOn "last" "chosen" "copied", .passOn "first" "users" "chosen"]

/-- A run of them. -/
def crossedRun : PipelineRun :=
  ((runPipeline (memoryHost .calm) (aside Environment.calm.isCancelled) {} crossedSteps {}).run
    ⟨[("users", [])], ()⟩).1

theorem crossedRun_completes_dependencies :
    resolveOrder (crossedSteps.steps.map Node.ofStep) = .ok [1, 0] ∧
      ∃ result, ResultAt [1, 0] crossedRun 1 0 result ∧ result.status = .completed ∧
        ∃ t < 1, ∃ earlier, ResultAt [1, 0] crossedRun t 1 earlier ∧
          earlier.status = .completed := by
  have resolved : resolveOrder (crossedSteps.steps.map Node.ofStep) = .ok [1, 0] := rfl
  have dependsOn : DependsOn (crossedSteps.steps.map Node.ofStep) 0 1 := by
    change 1 ∈ _
    decide +kernel
  have statuses : crossedRun.stepResults[1]?.map StepResult.status = some .completed := by
    decide +kernel
  obtain ⟨result, hresult, completed⟩ := Option.map_eq_some_iff.mp statuses
  have completes := runPipeline_completes_dependencies (memoryHost .calm)
    (aside Environment.calm.isCancelled) {} {} ⟨[("users", [])], ()⟩ resolved
  have at_one : ResultAt [1, 0] crossedRun 1 0 result := ⟨rfl, hresult⟩
  refine ⟨resolved, result, at_one, completed, ?_⟩
  exact completes.2 1 0 result at_one (.inl completed) 1 (.single dependsOn)

theorem runPipeline_outcome_of_ok
    (resolved : resolveOrder (pipeline.steps.map Node.ofStep) = .ok order) :
    Outcome pipeline options order (StoppedBefore host isCancelled pipeline options order w)
      ((runPipeline host isCancelled settings pipeline options).run w).1 := by
  have ends := runPipeline_endsWith host isCancelled settings options w resolved
  have places := map_place_freshSlots resolved
  have scheduled := scheduled_freshSlots resolved
  constructor
  case stepIds => exact runPipeline_stepIds host isCancelled settings options w resolved
  case settled =>
    intro result hmem
    rw [ends.stepResults] at hmem
    obtain ⟨s, hresult⟩ := List.getElem?_of_mem hmem
    obtain ⟨_, effect⟩ := Execution.effect_of_result hresult
    exact effect.settled
  case cancelled_iff =>
    rw [ends.status_eq_cancelled_iff, length_freshSlots resolved]
    simp only [StoppedBefore, runUpTo_run host isCancelled options w _ resolved]
    rfl
  case failed_iff => exact ends.status_eq_failed_iff
  case completed_iff => exact ends.status_eq_completed_iff
  case status => exact ends.status_cases
  case skipped_iff =>
    intro continues notCancelled s i result at_s
    exact ends.skipped_iff places scheduled continues notCancelled at_s
  case halts =>
    intro halts s i result at_s failed t j other at_t
    obtain ⟨hs, -, hresult⟩ := ends.exists_slot places at_s
    obtain ⟨ht, -, hother⟩ := ends.exists_slot places at_t
    have hfailed := (Execution.statusAt_iff hresult).mpr failed
    exact ⟨fun hts => (Execution.statusAt_iff hother).mp
        (Execution.statusAt_completed_of_lt_failed halts hfailed hts),
      fun hst => (Execution.statusAt_iff hother).mp
        (Execution.statusAt_skipped_of_failed_lt halts hfailed hst ht)⟩
  case error_eq_none_iff => exact ends.error_eq_none_iff
  case error_of_failed =>
    intro s i result at_s failed first
    obtain ⟨hs, error, hid, hmessage, herror⟩ := ends.error_of_failed places at_s failed first
    refine ⟨error.message, hmessage, ?_⟩
    rw [herror, hid, (mem_freshSlots (List.getElem_mem hs)).2]
    rfl

/-- A run of steps without an order has a skipped result for every step. -/
theorem runPipeline_stepResults_of_error {cycle : CyclicDependency}
    (cyclic : resolveOrder (pipeline.steps.map Node.ofStep) = .error cycle) :
    ((runPipeline host isCancelled settings pipeline options).run w).1.stepResults =
      (pipeline.steps.map StepResult.pending).map StepResult.skip := by
  have results : alignResults pipeline.steps
    ((beginRun host pipeline options).run w).1.stepResults =
      pipeline.steps.map StepResult.pending := by
    obtain ⟨id, created, started, hrun⟩ := beginRun_run host pipeline options w
    rw [hrun]
    simp only [PipelineRun.start, PipelineRun.create, executionSteps, cyclic]
    exact alignResults_pending pipeline.steps
  rw [runPipeline_of_error host isCancelled settings options w cyclic, ← results]
  rfl

/-- Steps whose dependencies form a cycle are all skipped. -/
theorem runPipeline_refusal {cycle : CyclicDependency}
    (cyclic : resolveOrder (pipeline.steps.map Node.ofStep) = .error cycle) :
    Refusal pipeline cycle ((runPipeline host isCancelled settings pipeline options).run w).1 := by
  have results := runPipeline_stepResults_of_error host isCancelled settings options w cyclic
  constructor
  case stepIds => simp [results, StepResult.skip, StepResult.pending]
  case skipped => simp [results, StepResult.skip]
  case status =>
    rw [runPipeline_of_error host isCancelled settings options w cyclic]
    rfl
  case error =>
    rw [runPipeline_of_error host isCancelled settings options w cyclic]
    rfl

/-- The store is not asked for anything then: with any other one the run
and what it does are the same. -/
theorem runPipeline_store_of_error {cycle : CyclicDependency} (other : RecordStore (StateM σ))
    (cyclic : resolveOrder (pipeline.steps.map Node.ofStep) = .error cycle) :
    (runPipeline { host with store := other } isCancelled settings pipeline options).run w =
      (runPipeline host isCancelled settings pipeline options).run w := by
  rw [runPipeline_of_error _ isCancelled settings options w cyclic,
    runPipeline_of_error host isCancelled settings options w cyclic]
  rfl

end

/-- **How every run ends.** A run of steps in an order ends as `Outcome` tells. Steps without an
order are refused, and then nothing is asked of the store: with any other one the run is the same
and leaves the same surroundings. -/
theorem runPipeline_outcome (host : Host (StateM σ)) (isCancelled : StateM σ Bool)
    (settings : EngineSettings) (pipeline : Pipeline) (options : RunOptions) (w : σ) :
    let run := ((runPipeline host isCancelled settings pipeline options).run w).1
    (∀ order, resolveOrder (pipeline.steps.map Node.ofStep) = .ok order →
      Outcome pipeline options order
        (StoppedBefore host isCancelled pipeline options order w) run) ∧
    (∀ cycle, resolveOrder (pipeline.steps.map Node.ofStep) = .error cycle →
      Refusal pipeline cycle run ∧
      ∀ other, (runPipeline { host with store := other } isCancelled settings pipeline
        options).run w = (runPipeline host isCancelled settings pipeline options).run w) := by
  refine ⟨fun order resolved => ?_, fun cycle cyclic => ⟨?_, fun other => ?_⟩⟩
  · exact runPipeline_outcome_of_ok host isCancelled settings options w resolved
  · exact runPipeline_refusal host isCancelled settings options w cyclic
  · exact runPipeline_store_of_error host isCancelled settings options w other cyclic

end RecordFlow
