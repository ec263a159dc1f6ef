import RecordFlow.Proofs.Run.Resemblance

/-!
# Two runs of the same steps

Two runs of the same steps in the same order that nothing disturbs go side by side, as long as every
step that is started in the first one finds in the second store what it finds in the first one. The
clock may show the one run other times than the other: then the steps make other sets in it, if they
compute something from the present time or read from a step that does. All else is the same. No step
fails because of a record, so that the same steps fail in both runs. A step that reads nothing with
which the clock has to do makes as many records in both runs, and if it does not ask for the time it
makes the same ones.

## Main definitions

* `StepResult.FaresAlike`, `PipelineRun.FaresAlike` — results and runs that tell the same
* `StepResult.Resembles`, `PipelineRun.Resembles` — the same but for what the clock has a part in
* `Progress.Resembles` — how far two runs have come is the same but for that

## Main results

* `Execution.IsUndisturbed.resembles_reach` — in front of every step two runs resemble each other
* `runPipeline_resembles` — two runs of a pipeline resemble each other
* `PipelineRun.Resembles.faresAlike` — they fare alike if the time makes no difference to any step
-/

namespace RecordFlow

variable {ω : Type} {env : Environment ω} {pipeline : Pipeline} {order : List Nat}

/-! ### Results that tell the same -/

/-- Two results tell the same but for the times. -/
structure StepResult.FaresAlike (result other : StepResult) : Prop where
  stepId : result.stepId = other.stepId
  output : result.output = other.output
  status : result.status = other.status
  inputRows : result.inputRows = other.inputRows
  outputRows : result.outputRows = other.outputRows
  error : result.error = other.error

/-- Two runs tell the same of themselves and of each of their steps, but for ids and times. -/
structure PipelineRun.FaresAlike (run other : PipelineRun) : Prop where
  status : run.status = other.status
  error : run.error = other.error
  stepResults : List.Forall₂ StepResult.FaresAlike run.stepResults other.stepResults

/-- Two results tell of the same end of the same step. Under a condition they tell the same but for
the times, the numbers of records included. -/
structure StepResult.Resembles (condition : Prop) (result other : StepResult) : Prop where
  stepId : result.stepId = other.stepId
  output : result.output = other.output
  status : result.status = other.status
  error : result.error = other.error
  faresAlike : condition → result.FaresAlike other

/-- The clock has no part in what other steps make for the step
whose turn comes at a position of the order. -/
def Pipeline.IsFedTimelessTurn (pipeline : Pipeline) (env : Environment ω) (s : Nat) : Prop :=
  ∀ order a, resolveOrder (pipeline.steps.map Node.ofStep) = .ok order → order[s]? = some a →
    pipeline.IsFedTimelessAt env a

/-- Two runs of a pipeline tell the same of themselves but for ids and times, and the same of each
of its steps. The numbers of records may differ where a step reads what the clock has a part in. -/
structure PipelineRun.Resembles (pipeline : Pipeline) (env : Environment ω)
    (run other : PipelineRun) : Prop where
  status : run.status = other.status
  error : run.error = other.error
  length : run.stepResults.length = other.stepResults.length
  stepResults : ∀ s (result result' : StepResult), run.stepResults[s]? = some result →
    other.stepResults[s]? = some result' →
      result.Resembles (pipeline.IsFedTimelessTurn env s) result'

theorem StepResult.Resembles.refl (condition : Prop) (result : StepResult) :
    result.Resembles condition result :=
  ⟨rfl, rfl, rfl, rfl, fun _ => ⟨rfl, rfl, rfl, rfl, rfl, rfl⟩⟩

theorem StepResult.Resembles.of_imp {condition stronger : Prop} {result other : StepResult}
    (alike : result.Resembles condition other) (implies : stronger → condition) :
    result.Resembles stronger other :=
  ⟨alike.stepId, alike.output, alike.status, alike.error,
    fun holds => alike.faresAlike (implies holds)⟩

/-- Two runs fare alike if the time makes no difference to the steps. -/
theorem PipelineRun.Resembles.faresAlike {run other : PipelineRun}
    (alike : run.Resembles pipeline env other) (timeless : pipeline.IsTimeless env) :
    run.FaresAlike other where
  status := alike.status
  error := alike.error
  stepResults := by
    refine List.forall₂_iff_get.mpr ⟨alike.length, fun s hs hs' => ?_⟩
    have resembles :=
      alike.stepResults s _ _ (List.getElem?_eq_getElem hs) (List.getElem?_eq_getElem hs')
    exact resembles.faresAlike fun _ a _ _ => timeless.isFedTimelessAt a

/-- Two results resemble each other if they tell fates of the same step that do. -/
theorem Episode.IsToldBy.resembles {fed condition : Prop} {episode episode' : Episode}
    {result other : StepResult} (told : episode.IsToldBy result) (told' : episode'.IsToldBy other)
    (id : episode.step.id = episode'.step.id)
    (output : episode.step.config.output = episode'.step.config.output)
    (fates : episode.fate.Resembles fed condition episode'.fate) :
    result.Resembles fed other := by
  have stepId := told.stepId.trans (id.trans told'.stepId.symm)
  have outputs := told.output.trans (output.trans told'.output.symm)
  have status := told.status.trans (fates.status.trans told'.status.symm)
  have error : result.error = other.error := by rw [told.error, told'.error, fates.error]
  refine ⟨stepId, outputs, status, error, fun holds => ?_⟩
  have counts := fates.counts holds
  have read := congrArg (Option.map Prod.fst) counts
  have made := congrArg (Option.map Prod.snd) counts
  simp only [Option.map_map, Function.comp_def, StepOutput.counts] at read made
  refine ⟨stepId, outputs, status, ?_, ?_, error⟩
  · rw [told.inputRows, told'.inputRows, read]
  · rw [told.outputRows, told'.outputRows, made]

theorem Fate.eq_skipped_of_status {fate : Fate} (skipped : fate.status = .skipped) :
    fate = .skipped := by
  cases fate with
  | completed output => cases skipped
  | failed error => cases skipped
  | skipped => rfl

/-! ### Side by side -/

/-- Two runs of a pipeline have come equally far, and what they have made is the same but for
what the clock has a part in. -/
structure Progress.Resembles (pipeline : Pipeline) (env : Environment ω)
    (progress other : Progress) : Prop where
  made : progress.made.Resembles (pipeline.IsTimelessUnder env) other.made
  tainted : progress.tainted = other.tainted
  halted : progress.halted = other.halted
  error : progress.error = other.error

namespace Execution

variable {execution other : Execution (StateM (World ω))} {w w' : World ω} {s : Nat}
  {fate fate' : Fate}

/-- Runs that resemble each other advance by such fates to runs that do. -/
theorem resembles_advance {fed condition : Prop} {slot : Slot} {progress progress' : Progress}
    {result result' : StepResult} (nodes : other.nodes = execution.nodes)
    (continues : other.options.continueOnError = execution.options.continueOnError)
    (alike : progress.Resembles pipeline env progress') (fates : fate.Resembles fed condition fate')
    (holds : pipeline.IsTimelessUnder env slot.step.config.output → condition) :
    ((execution.advance slot progress fate).add result).Resembles pipeline env
      ((other.advance slot progress' fate').add result') := by
  have made : (execution.advance slot progress fate).made.Resembles (pipeline.IsTimelessUnder env)
      (other.advance slot progress' fate').made := by
    rw [made_advance, made_advance]
    exact alike.made.hold fates holds
  have status := fates.status
  cases fate with
  | completed output =>
    cases fate' with
    | completed output' => exact ⟨made, alike.tainted, alike.halted, alike.error⟩
    | failed error' => cases status
    | skipped => cases status
  | failed error =>
    cases fate' with
    | completed output' => cases status
    | failed error' =>
      obtain rfl := Option.some.inj fates.error
      refine ⟨made, ?_, ?_, ?_⟩
      · simp only [advance, Progress.add, nodes, alike.tainted]
      · simp only [advance, Progress.add, continues, alike.halted]
      · simp only [advance, Progress.add, alike.error]
    | skipped => cases status
  | skipped =>
    cases fate' with
    | completed output' => cases status
    | failed error' => cases status
    | skipped => exact ⟨made, alike.tainted, alike.halted, alike.error⟩

namespace IsUndisturbed

/-- The steps that are skipped are those that a failure hinders. -/
theorem statusAt_skipped_iff_hindered {slots : List Slot}
    (undisturbed : execution.IsUndisturbed env) (w : World ω) (hs : s < slots.length) :
    execution.StatusAt slots w s .skipped ↔
      (execution.reach slots {} w s).1.halted = true ∨
        slots[s].place ∈ (execution.reach slots {} w s).1.tainted := by
  obtain ⟨result, hresult, effect⟩ := execution.exists_effect w hs
  rw [statusAt_iff hresult, effect.skipped_iff]
  exact undisturbed.blocked_iff _ _ (undisturbed.cancelled_reach w hs.le)

section

variable (undisturbed : execution.IsUndisturbed env) (undisturbed' : other.IsUndisturbed env)
  (w w' : World ω)
  (kept : ∀ step ∈ pipeline.steps, other.options.dryRun = execution.options.dryRun ∨
    isReserved step.config.output = false)
  (same : ∀ s (hs : s < (freshSlots pipeline order).length),
    ¬ execution.StatusAt (freshSlots pipeline order) w s .skipped →
      ∀ name ∈ (freshSlots pipeline order)[s].step.config.sources,
        let made := (execution.reach (freshSlots pipeline order) {} w s).1.made
        made.found w.stored name = made.found w'.stored name)
  (apart : ∀ step ∈ pipeline.steps, step.config.output ∉ step.config.sources ∨
    step.config.IsTimeless env)

include undisturbed same kept apart

/-- **One step.** In runs that resemble each other the next step has fates that do. -/
theorem resembles_fate
    (alike : (execution.reach (freshSlots pipeline order) {} w s).1.Resembles pipeline env
      (other.reach (freshSlots pipeline order) {} w' s).1)
    (fares : execution.FaresAt env (freshSlots pipeline order) w s fate)
    (fares' : other.FaresAt env (freshSlots pipeline order) w' s fate')
    (hs : s < (freshSlots pipeline order).length) :
    fate.Resembles (pipeline.IsFedTimelessAt env (freshSlots pipeline order)[s].place)
      (pipeline.IsTimelessAt env (freshSlots pipeline order)[s].place) fate' := by
  obtain ⟨now, shown, hfate⟩ := fares.fate_eq
  obtain ⟨now', shown', hfate'⟩ := fares'.fate_eq
  have hstep := (mem_freshSlots (List.getElem_mem hs)).1
  -- What is the same in both runs decides whether the step is started.
  rw [hfate, hfate', Execution.fate, Execution.fate, alike.halted, alike.tainted]
  by_cases hindered : execution.StatusAt (freshSlots pipeline order) w s .skipped
  · have := (undisturbed.statusAt_skipped_iff_hindered w hs).mp hindered
    rw [alike.halted, alike.tainted] at this
    rw [if_pos this, if_pos this]
    exact .refl _ _ _
  · have := mt (undisturbed.statusAt_skipped_iff_hindered w hs).mpr hindered
    rw [alike.halted, alike.tainted] at this
    rw [if_neg this, if_neg this]
    have hmem := List.mem_of_getElem? hstep
    refine Step.resembles_outcome (kept _ hmem) (fun name reads => ?_) (fun fed name reads => ?_)
      fun timeless => ⟨timeless.fed, timeless.isTimeless hstep now now' shown shown'⟩
    · rw [same s hs hindered name reads, alike.made.isSome_found]
    · rw [same s hs hindered name reads,
        alike.made.found_eq (fed.under_of_reads hstep (apart _ hmem) reads)]

include undisturbed'

/-- **Any number of steps.** In front of every step two runs resemble each other. -/
theorem resembles_reach (nodes : other.nodes = execution.nodes)
    (continues : other.options.continueOnError = execution.options.continueOnError)
    (hs : s ≤ (freshSlots pipeline order).length) :
    (execution.reach (freshSlots pipeline order) {} w s).1.Resembles pipeline env
      (other.reach (freshSlots pipeline order) {} w' s).1 := by
  induction s with
  | zero => exact ⟨.refl _ _, rfl, rfl, rfl⟩
  | succ s ih =>
    have alike := ih (Nat.le_of_succ_le hs)
    obtain ⟨fate, fares⟩ := undisturbed.exists_faresAt w (fun _ => pending_of_mem_freshSlots) hs
    obtain ⟨fate', fares'⟩ := undisturbed'.exists_faresAt w' (fun _ => pending_of_mem_freshSlots) hs
    have fates := undisturbed.resembles_fate w w' kept same apart alike fares fares' hs
    have hstep := (mem_freshSlots (List.getElem_mem hs)).1
    obtain ⟨result, -, -, hprogress⟩ := fares.advances
    obtain ⟨result', -, -, hprogress'⟩ := fares'.advances
    rw [hprogress, hprogress']
    exact resembles_advance nodes continues alike fates fun timeless => timeless _ _ hstep rfl

/-- The results of every step resemble each other. -/
theorem resembles_results (nodes : other.nodes = execution.nodes)
    (continues : other.options.continueOnError = execution.options.continueOnError)
    (hs : s < (freshSlots pipeline order).length) {result result' : StepResult}
    (hresult : (execution.results (freshSlots pipeline order) w)[s]? = some result)
    (hresult' : (other.results (freshSlots pipeline order) w')[s]? = some result') :
    result.Resembles (pipeline.IsFedTimelessAt env (freshSlots pipeline order)[s].place)
      result' := by
  obtain ⟨fate, fares⟩ := undisturbed.exists_faresAt w (fun _ => pending_of_mem_freshSlots) hs
  obtain ⟨fate', fares'⟩ := undisturbed'.exists_faresAt w' (fun _ => pending_of_mem_freshSlots) hs
  have alike := undisturbed.resembles_reach undisturbed' w w' kept same apart nodes continues hs.le
  have fates := undisturbed.resembles_fate w w' kept same apart alike fares fares' hs
  obtain ⟨_, hfirst, told, -⟩ := fares.advances
  obtain ⟨_, hsecond, told', -⟩ := fares'.advances
  obtain rfl := Option.some.inj (hresult.symm.trans hfirst)
  obtain rfl := Option.some.inj (hresult'.symm.trans hsecond)
  exact told.resembles told' rfl rfl fates

end

end IsUndisturbed

/-- Runs resemble each other if what they come to behind their last steps
does, and their results do. -/
theorem EndsWith.resembles {run run' : PipelineRun}
    (ends : execution.EndsWith (freshSlots pipeline order) w run)
    (ends' : other.EndsWith (freshSlots pipeline order) w' run')
    (undisturbed : execution.IsUndisturbed env) (undisturbed' : other.IsUndisturbed env)
    (alike : (execution.reach (freshSlots pipeline order) {} w
      (freshSlots pipeline order).length).1.Resembles pipeline env
        (other.reach (freshSlots pipeline order) {} w' (freshSlots pipeline order).length).1)
    (results : ∀ s (result result' : StepResult), run.stepResults[s]? = some result →
      run'.stepResults[s]? = some result' →
        result.Resembles (pipeline.IsFedTimelessTurn env s) result') :
    run.Resembles pipeline env run' := by
  have length : run.stepResults.length = run'.stepResults.length := by
    rw [ends.stepResults, ends'.stepResults, length_results, length_results]
  have statuses : run.stepResults.map StepResult.status =
      run'.stepResults.map StepResult.status := by
    refine List.ext_getElem (by simpa using length) fun s hs hs' => ?_
    rw [List.length_map] at hs hs'
    have alike := results s _ _ (List.getElem?_eq_getElem hs) (List.getElem?_eq_getElem hs')
    simpa using alike.status
  have failed : run.stepResults.any (·.status == .failed) =
      run'.stepResults.any (·.status == .failed) := by
    have any := congrArg (List.any · (· == .failed)) statuses
    simpa only [List.any_map, Function.comp_def] using any
  rw [ends.stepResults, ends'.stepResults] at failed
  have going := undisturbed.cancelled_reach w (le_refl (freshSlots pipeline order).length)
  have going' := undisturbed'.cancelled_reach w' (le_refl (freshSlots pipeline order).length)
  refine ⟨?_, ?_, length, results⟩
  · rw [ends.status, ends'.status, going, going', failed]
  · rw [ends.error, ends'.error, going, going', alike.error]

end Execution

/-! ### Runs -/

/-- Two runs of steps without an order resemble each other, since all steps are skipped. -/
theorem runPipeline_resembles_of_error {cycle : CyclicDependency} (env : Environment ω)
    (settings : EngineSettings) (options options' : RunOptions) (w w' : World ω)
    (cyclic : resolveOrder (pipeline.steps.map Node.ofStep) = .error cycle) :
    ((runPipeline (memoryHost env) (aside env.isCancelled) settings pipeline options).run
      w).1.Resembles pipeline env
      ((runPipeline (memoryHost env) (aside env.isCancelled) settings pipeline options').run
        w').1 := by
  have refusal :=
    runPipeline_refusal (memoryHost env) (aside env.isCancelled) settings options w cyclic
  have refusal' :=
    runPipeline_refusal (memoryHost env) (aside env.isCancelled) settings options' w' cyclic
  have results := runPipeline_stepResults_of_error (memoryHost env) (aside env.isCancelled) settings
    options w cyclic
  have results' := runPipeline_stepResults_of_error (memoryHost env)
    (aside env.isCancelled) settings options' w' cyclic
  refine ⟨refusal.status.trans refusal'.status.symm,
    refusal.error.trans refusal'.error.symm, ?_, ?_⟩
  · rw [results, results']
  · intro s result result' hresult hresult'
    rw [results] at hresult
    rw [results', hresult] at hresult'
    obtain rfl := Option.some.inj hresult'
    exact .refl _ _

section

variable {options options' : RunOptions} {w w' : World ω} (settings : EngineSettings)
  (neverRefuses : env.NeverRefuses) (neverCancels : env.NeverCancels)
  (resolved : resolveOrder (pipeline.steps.map Node.ofStep) = .ok order)
  (continues : options'.continueOnError = options.continueOnError)
  (kept : ∀ step ∈ pipeline.steps, options'.dryRun = options.dryRun ∨
    isReserved step.config.output = false)
  (same : ∀ s (hs : s < (freshSlots pipeline order).length),
    ¬ (Execution.ofNewRun env pipeline options w).StatusAt (freshSlots pipeline order)
      (w.begun env pipeline options) s .skipped →
    ∀ name ∈ (freshSlots pipeline order)[s].step.config.sources,
      let made := ((Execution.ofNewRun env pipeline options w).reach (freshSlots pipeline order) {}
        (w.begun env pipeline options) s).1.made
      made.found w.stored name = made.found w'.stored name)
  (apart : ∀ step ∈ pipeline.steps, step.config.output ∉ step.config.sources ∨
    step.config.IsTimeless env)

include neverRefuses neverCancels continues kept same apart

/-- What two runs have made in the end is the same but for what the clock has a part in. -/
theorem resembles_lastProgress :
    (lastProgress env pipeline options order w).Resembles pipeline env
      (lastProgress env pipeline options' order w') :=
  (isUndisturbed_ofNewRun neverRefuses neverCancels pipeline options w).resembles_reach
    (isUndisturbed_ofNewRun neverRefuses neverCancels pipeline options' w')
    (w.begun env pipeline options) (w'.begun env pipeline options') kept same apart rfl continues
    le_rfl

include resolved

/-- **Two runs.** If every step that is started in the first of two runs finds in the second store
what it finds in the first one, the runs resemble each other. -/
theorem runPipeline_resembles :
    ((runPipeline (memoryHost env) (aside env.isCancelled) settings pipeline options).run
      w).1.Resembles pipeline env
      ((runPipeline (memoryHost env) (aside env.isCancelled) settings pipeline options').run
        w').1 := by
  have undisturbed := isUndisturbed_ofNewRun neverRefuses neverCancels pipeline options w
  have undisturbed' := isUndisturbed_ofNewRun neverRefuses neverCancels pipeline options' w'
  have ends :=
    runPipeline_endsWith (memoryHost env) (aside env.isCancelled) settings options w resolved
  have ends' :=
    runPipeline_endsWith (memoryHost env) (aside env.isCancelled) settings options' w' resolved
  refine ends.resembles ends' undisturbed undisturbed'
    (resembles_lastProgress neverRefuses neverCancels continues kept same apart) ?_
  rw [ends.stepResults, ends'.stepResults]
  intro s result result' hresult hresult'
  obtain ⟨hs, -⟩ := Execution.effect_of_result hresult
  have alike := undisturbed.resembles_results undisturbed' (w.begun env pipeline options)
    (w'.begun env pipeline options') kept same apart rfl continues hs hresult hresult'
  -- The position of a result in the run is that of its step in the order.
  refine alike.of_imp fun timeless => timeless order _ resolved ?_
  exact getElem?_order resolved (List.getElem?_eq_getElem hs)

end

end RecordFlow
