import RecordFlow.Proofs.Run.Lockstep

/-!
# What a dry run foretells

A dry run fares like the run that keeps what it makes, since both find the same under every name:
what the one has made is what the other one has made and stored. On a store without faults the
two go side by side through the same times and messages, so that they tell exactly the same,
whenever they are cancelled. That compares runs that read the same clock. If the second one
starts in other surroundings, say at a later time, they still fare alike if nothing disturbs them
and the time makes no difference.

## Main definitions

* `Environment.IsFaultFree` — the store refuses nothing, and to ask it changes nothing
* `LooksAlike` — two stores in which a run finds the same
* `RunOptions.rehearse`, `RunOptions.perform` — the options of a dry run and of one that is not

## Main results

* `Execution.matches_runSteps` — side by side the steps of a dry run
  and of another one fare the same
* `rehearsal_foretells` — a dry run tells what the run that keeps its sets tells
-/

namespace RecordFlow

variable {ω α : Type} {env : Environment ω} {made : Collections} {w v : World ω}

/-! ### A store without faults -/

/-- The store refuses nothing, and what is around it does not take notice of what is asked of it. -/
def Environment.IsFaultFree (env : Environment ω) : Prop := ∀ call, env.refusal? call = pure none

namespace Environment.IsFaultFree

theorem neverRefuses (faultFree : env.IsFaultFree) : env.NeverRefuses := by
  intro call around
  rw [faultFree call]
  rfl

theorem permit_eq (faultFree : env.IsFaultFree) (call : StoreCall) : env.permit call = pure () := by
  rw [Environment.permit, faultFree call]
  rfl

/-- A store without faults is the one in memory. -/
theorem store_eq (faultFree : env.IsFaultFree) : (memoryHost env).store = RecordStore.memory := by
  simp only [memoryHost, RecordStore.guarded, faultFree.permit_eq, pure_bind]

theorem keeps_has (faultFree : env.IsFaultFree) (name : String) :
    Keeps World.around ((memoryHost env).store.has name).run := by
  rw [faultFree.store_eq]
  exact fun _ => rfl

theorem keeps_findAll (faultFree : env.IsFaultFree) (name : String) :
    Keeps World.around ((memoryHost env).store.findAll name).run := by
  rw [faultFree.store_eq]
  refine .exceptBind (fun _ => rfl) fun collections => ?_
  cases collections.records? name with
  | some records => exact .pure _ _
  | none => exact .throw _ _

theorem keeps_create (faultFree : env.IsFaultFree) (name : String) :
    Keeps World.around ((memoryHost env).store.create name).run := by
  rw [faultFree.store_eq]
  refine .exceptBind (fun _ => rfl) fun collections => ?_
  cases collections.records? name <;> exact fun _ => rfl

theorem keeps_clear (faultFree : env.IsFaultFree) (name : String) :
    Keeps World.around ((memoryHost env).store.clear name).run := by
  rw [faultFree.store_eq]
  refine .exceptBind (fun _ => rfl) fun collections => ?_
  cases collections.records? name <;> exact fun _ => rfl

theorem keeps_createMany (faultFree : env.IsFaultFree) (name : String) (records : List Record) :
    Keeps World.around ((memoryHost env).store.createMany name records).run := by
  rw [faultFree.store_eq]
  exact fun _ => rfl

theorem keeps_resolveSources (faultFree : env.IsFaultFree)
    (made : Collections) (names : List String) :
    Keeps World.around (resolveSources (memoryHost env).store made names).run := by
  induction names with
  | nil => exact .pure _ _
  | cons name names ih =>
    refine .exceptBind ?_ fun _ => .exceptBind ih fun _ => .pure _ _
    rw [resolveSource]
    cases made.records? name with
    | some records => exact .pure _ _
    | none =>
      refine .exceptBind ((faultFree.keeps_has name).adapt _) fun found => ?_
      cases found with
      | true => exact (faultFree.keeps_findAll name).adapt _
      | false => exact .throw _ _

theorem keeps_persist (faultFree : env.IsFaultFree) (name : String) (records : List Record) :
    Keeps World.around (persist (memoryHost env).store name records).run := by
  rw [persist]
  split
  · exact .throw _ _
  · refine Keeps.adapt (.exceptBind (faultFree.keeps_has name) fun found => ?_) _
    have replaces : Keeps World.around (do
        (memoryHost env).store.clear name
        let _ ← (memoryHost env).store.createMany name records
        return () : ExceptT StorageError (StateM (World ω)) Unit).run :=
      .exceptBind (faultFree.keeps_clear name) fun _ =>
        .exceptBind (faultFree.keeps_createMany name records) fun _ => .pure _ _
    cases found with
    | true => exact replaces
    | false => exact .exceptBind (faultFree.keeps_create name) fun _ => replaces

end Environment.IsFaultFree

/-! ### Side by side -/

/-- A run that has made some sets finds the same in two stores, and what
is around them is the same. -/
structure LooksAlike (made : Collections) (w v : World ω) : Prop where
  around : w.around = v.around
  found : made.found w.stored = made.found v.stored

theorem LooksAlike.refl (made : Collections) (w : World ω) : LooksAlike made w w := ⟨rfl, rfl⟩

/-- What has been made and stored is found as if it had been made alone. -/
theorem Collections.found_put_put (made stored : Collections) (name : String)
    (records : List Record) :
    (made.put name records).found (stored.put name records) =
      (made.put name records).found stored := by
  funext other
  rw [found, found, records?_put, records?_put]
  split <;> rfl

theorem Collections.found_put_congr {stored stored' : Collections}
    (name : String) (records : List Record) (same : made.found stored = made.found stored') :
    (made.put name records).found stored = (made.put name records).found stored' := by
  funext other
  have := congrFun same other
  rw [found, found] at this
  rw [found, found, records?_put]
  split
  · rfl
  · exact this

theorem matches_aside (made : Collections) (action : StateM ω α) :
    Matches (LooksAlike made) (aside action) (aside action) fun _ => LooksAlike made := by
  intro w v alike
  refine ⟨?_, ?_, alike.found⟩
  · exact congrArg (fun around => (action.run around).1) alike.around
  · exact congrArg (fun around => (action.run around).2) alike.around

theorem matches_resolveSources (faultFree : env.IsFaultFree)
    (made : Collections) (names : List String) :
    Matches (LooksAlike made) (resolveSources (memoryHost env).store made names).run
      (resolveSources (memoryHost env).store made names).run fun _ => LooksAlike made := by
  intro w v alike
  obtain ⟨_, hw⟩ := resolveSources_run faultFree.neverRefuses made names w
  obtain ⟨_, hv⟩ := resolveSources_run faultFree.neverRefuses made names v
  refine ⟨by rw [hw, hv, alike.found], ?_, ?_⟩
  · rw [faultFree.keeps_resolveSources made names w, faultFree.keeps_resolveSources made names v]
    exact alike.around
  · rw [keeps_resolveSources env made names w, keeps_resolveSources env made names v]
    exact alike.found

theorem matches_executeConfig (faultFree : env.IsFaultFree)
    (made : Collections) (config : StepConfig) :
    Matches (LooksAlike made) (executeConfig (memoryHost env) made config).run
      (executeConfig (memoryHost env) made config).run fun _ => LooksAlike made := by
  refine .exceptBind (matches_resolveSources faultFree made config.sources) (fun inputs => ?_)
    fun _ _ _ alike => alike
  let now : ExceptT StepError (StateM (World ω)) Timestamp := liftM (aside env.now)
  have shown : Matches (LooksAlike made) now.run now.run fun _ => LooksAlike made := by
    intro w v alike
    obtain ⟨same, after⟩ := matches_aside made env.now w v alike
    exact ⟨congrArg Except.ok same, after⟩
  exact .exceptBind shown (fun now => .pure _ fun _ => LooksAlike made) fun _ _ _ alike => alike

/-- The options of a dry run. -/
def RunOptions.rehearse (options : RunOptions) : RunOptions := { options with dryRun := true }

/-- The options of a run that keeps what it makes. -/
def RunOptions.perform (options : RunOptions) : RunOptions := { options with dryRun := false }

namespace Execution

variable {execution : Execution (StateM (World ω))} {slot : Slot} {slots : List Slot}

/-- The same execution as a dry one. -/
def rehearse (execution : Execution (StateM (World ω))) : Execution (StateM (World ω)) :=
  { execution with options := execution.options.rehearse }

/-- To make and store a set, and to make it alone, leaves a run with the same to find. -/
theorem matches_executeStep (faultFree : env.IsFaultFree) (inMemory : execution.RunsIn env)
    (wet : execution.options.dryRun = false) (made : Collections) {step : Step}
    (free : isReserved step.config.output = false) :
    Matches (LooksAlike made) (execution.executeStep made step).run
      (execution.rehearse.executeStep made step).run
      fun result => LooksAlike (made.hold step.config.output (.ofAttempt result)) := by
  have host : execution.rehearse.host = memoryHost env := inMemory.host
  have dry : execution.rehearse.options.dryRun = true := rfl
  rw [executeStep, executeStep, inMemory.host, host, wet, dry]
  refine .exceptBind (matches_executeConfig faultFree made step.config) (fun output => ?_)
    fun _ _ _ alike => alike
  intro w v alike
  obtain ⟨around, hpersist⟩ :=
    persist_run faultFree.neverRefuses step.config.output output.records w
  rw [free] at hpersist
  have kept := faultFree.keeps_persist step.config.output output.records w
  simp only [Bool.not_false, if_true, run_exceptBind, hpersist,
    Bool.false_eq_true, if_false] at kept ⊢
  refine ⟨rfl, kept.trans alike.around, ?_⟩
  refine (Collections.found_put_put made w.stored _ _).trans ?_
  exact Collections.found_put_congr _ _ alike.found

theorem matches_report (inMemory : execution.RunsIn env) (made : Collections) (level : LogLevel)
    (text : String) :
    Matches (LooksAlike made) (execution.host.report level text) (execution.host.report level text)
      fun _ => LooksAlike made := by
  rw [inMemory.host]
  exact matches_aside made (env.log ⟨level, .execution, text⟩)

theorem matches_now (inMemory : execution.RunsIn env) (made : Collections) :
    Matches (LooksAlike made) execution.host.now execution.host.now fun _ => LooksAlike made := by
  rw [inMemory.host]
  exact matches_aside made env.now

theorem matches_checkCancelled (inMemory : execution.RunsIn env) (made : Collections) (step : Step)
    (cancelled : Bool) :
    Matches (LooksAlike made) (execution.checkCancelled step cancelled)
      (execution.rehearse.checkCancelled step cancelled) fun _ => LooksAlike made := by
  cases cancelled with
  | true => exact .pure true fun _ => LooksAlike made
  | false =>
    have checked : Matches (LooksAlike made) execution.isCancelled execution.isCancelled
        fun _ => LooksAlike made := by
      rw [inMemory.isCancelled]
      exact matches_aside made env.isCancelled
    refine checked.bind fun now => ?_
    cases now with
    | true => exact (matches_report inMemory made _ _).bind fun _ => .pure true fun _ =>
      LooksAlike made
    | false => exact .pure false fun _ => LooksAlike made

theorem matches_startStep (faultFree : env.IsFaultFree) (inMemory : execution.RunsIn env)
    (wet : execution.options.dryRun = false) (slot : Slot) (progress : Progress)
    (free : isReserved slot.step.config.output = false) :
    Matches (LooksAlike progress.made) (execution.startStep slot progress)
      (execution.rehearse.startStep slot progress) fun after => LooksAlike after.made := by
  refine (matches_now inMemory progress.made).bind fun started => ?_
  refine (matches_report inMemory progress.made _ _).bind fun _ => ?_
  refine (matches_executeStep faultFree inMemory wet progress.made free).bind fun result => ?_
  -- Both sides report the same and read the clock once more.
  cases result with
  | ok output =>
    refine (matches_report inMemory _ _ _).bind fun _ =>
      (matches_now inMemory _).bind fun ended => ?_
    exact fun _ _ alike => ⟨rfl, alike⟩
  | error error =>
    refine (matches_report inMemory _ _ _).bind fun _ =>
      (matches_now inMemory _).bind fun ended => ?_
    exact fun _ _ alike => ⟨rfl, alike⟩

/-- **One step.** Side by side a step of a dry run and of another one fare the same. -/
theorem matches_runStep (faultFree : env.IsFaultFree) (inMemory : execution.RunsIn env)
    (wet : execution.options.dryRun = false) (slot : Slot) (progress : Progress)
    (free : isReserved slot.step.config.output = false) :
    Matches (LooksAlike progress.made) (execution.runStep slot progress)
      (execution.rehearse.runStep slot progress) fun after => LooksAlike after.made := by
  refine (matches_checkCancelled inMemory progress.made slot.step _).bind fun cancelled => ?_
  cases blocked : cancelled || progress.halted || progress.tainted.contains slot.place with
  | true =>
    simp only [blocked, if_true]
    exact fun _ _ alike => ⟨rfl, alike⟩
  | false =>
    simp only [blocked, Bool.false_eq_true, if_false]
    exact matches_startStep faultFree inMemory wet slot { progress with cancelled } free

/-- **Any number of steps.** -/
theorem matches_runSteps (faultFree : env.IsFaultFree) (inMemory : execution.RunsIn env)
    (wet : execution.options.dryRun = false) (slots : List Slot) (progress : Progress)
    (free : ∀ slot ∈ slots, isReserved slot.step.config.output = false) :
    Matches (LooksAlike progress.made) (execution.runSteps slots progress)
      (execution.rehearse.runSteps slots progress) fun after => LooksAlike after.made := by
  induction slots generalizing progress with
  | nil => exact fun _ _ alike => ⟨rfl, alike⟩
  | cons slot slots ih =>
    obtain ⟨first, others⟩ := List.forall_mem_cons.mp free
    exact (matches_runStep faultFree inMemory wet slot progress first).bind fun after =>
      ih after others

end Execution

/-! ### The end of a run -/

/-- What is around a store without faults does not take notice of the removal of a collection. -/
theorem dropIfThere_run (faultFree : env.IsFaultFree) (name : String) (w : World ω) :
    ∃ stored, (dropIfThere (memoryHost env).store name).run.run w =
      (.ok (), { w with stored }) := by
  rw [dropIfThere, faultFree.store_eq, run_exceptBind]
  have hhas : ((RecordStore.memory (m := StateM (World ω))).has name).run.run w =
      (.ok (w.stored.records? name).isSome, w) := rfl
  rw [hhas]
  cases there : w.stored.records? name with
  | none => exact ⟨w.stored, rfl⟩
  | some records =>
    refine ⟨w.stored.remove name, ?_⟩
    simp only [Option.isSome_some, if_true, RecordStore.memory, run_exceptBind, getThe_run, there]
    rfl

theorem around_dropTemporary (faultFree : env.IsFaultFree) (names : List String)
    (same : w.around = v.around) :
    ((dropTemporary (memoryHost env) names).run w).2.around =
      ((dropTemporary (memoryHost env) names).run v).2.around := by
  induction names generalizing w v with
  | nil => exact same
  | cons name names ih =>
    obtain ⟨_, hw⟩ := dropIfThere_run faultFree name w
    obtain ⟨_, hv⟩ := dropIfThere_run faultFree name v
    simp only [dropTemporary, run_bind, hw, hv]
    exact ih (congrArg (fun around => ((env.log _).run around).2) same)

theorem Progress.conclude_dryRun (progress : Progress) (run : PipelineRun) (dryRun : Bool) :
    progress.conclude { run with dryRun } = { progress.conclude run with dryRun } := by
  rw [conclude, conclude]
  split <;> rfl

/-- The removal of temporary collections takes the same time in both runs. -/
theorem endRun_rehearse (faultFree : env.IsFaultFree) (settings : EngineSettings)
    (pipeline : Pipeline) (run : PipelineRun) (options : RunOptions) (progress : Progress)
    (same : w.around = v.around) :
    ((endRun (memoryHost env) settings pipeline { run with dryRun := false } options.perform
        progress).run w).1 =
      { ((endRun (memoryHost env) settings pipeline run options.rehearse progress).run v).1 with
        dryRun := false } := by
  have cleaned := around_dropTemporary faultFree
    ((progress.made.map Prod.fst).filter (isTemporary settings)) same
  rw [endRun, endRun, Progress.conclude_dryRun]
  cases cleanup : options.cleanup with
  | false =>
    simp only [RunOptions.perform, RunOptions.rehearse, cleanup]
    exact congrArg (fun around =>
      ({ progress.conclude run with dryRun := false } : PipelineRun).finish
        (progress.conclude run).status (env.now.run around).1) same
  | true =>
    simp only [RunOptions.perform, RunOptions.rehearse, cleanup]
    exact congrArg (fun around =>
      ({ progress.conclude run with dryRun := false } : PipelineRun).finish
        (progress.conclude run).status (env.now.run around).1) cleaned

/-! ### Runs -/

/-- On a store without faults a run tells exactly what its rehearsal has told. -/
theorem runPipeline_perform_eq {pipeline : Pipeline} (faultFree : env.IsFaultFree)
    (settings : EngineSettings) (options : RunOptions) (w : World ω)
    (free : ∀ step ∈ pipeline.steps, isReserved step.config.output = false) :
    ((runPipeline (memoryHost env) (aside env.isCancelled) settings pipeline options.perform).run
      w).1 =
      { ((runPipeline (memoryHost env) (aside env.isCancelled) settings pipeline
          options.rehearse).run w).1 with dryRun := false } := by
  cases resolved : resolveOrder (pipeline.steps.map Node.ofStep) with
  | error cycle =>
    rw [runPipeline_of_error _ _ settings options.perform w resolved,
      runPipeline_of_error _ _ settings options.rehearse w resolved]
    rfl
  | ok order =>
    have outputs : ∀ slot ∈ freshSlots pipeline order, isReserved slot.step.config.output = false :=
      fun slot hslot => free _ (List.mem_of_getElem? (mem_freshSlots hslot).1)
    have inMemory := Execution.runsIn_ofRun env pipeline
      ((beginRun (memoryHost env) pipeline options.perform).run w).1 options.perform
    -- Both runs are begun alike, so they come to their first steps in the same surroundings.
    obtain ⟨same, alike⟩ := Execution.matches_runSteps faultFree inMemory rfl
      (freshSlots pipeline order) {} outputs _ _ (.refl [] (w.begun env pipeline options.perform))
    rw [runPipeline_of_ok _ _ settings options.perform w resolved,
      runPipeline_of_ok _ _ settings options.rehearse w resolved, runUpTo_run _ _ _ w _ resolved,
      runUpTo_run _ _ _ w _ resolved, ← length_freshSlots resolved, Execution.reach_length,
      Execution.reach_length, same]
    exact endRun_rehearse faultFree settings pipeline
      ((beginRun (memoryHost env) pipeline options.rehearse).run w).1 options _ alike.around

/-- **What a dry run foretells.** Let no step of a pipeline write to a reserved collection. On a
store without faults, a run that keeps what it makes tells exactly what the dry run from the same
surroundings tells, whenever they are cancelled: its status and error and every result are the same.
The clock may run on: as both runs start in the same surroundings and do the same with them, the one
reads at every turn what the other one reads. A run that starts later reads another clock. If
nothing disturbs the runs and the time makes no difference to the steps, it fares alike too, when
only the store is the same at first. -/
theorem rehearsal_foretells (env : Environment ω) (settings : EngineSettings) (pipeline : Pipeline)
    (options : RunOptions) (w : World ω)
    (free : ∀ step ∈ pipeline.steps, isReserved step.config.output = false) :
    let rehearsal :=
      ((runPipeline (memoryHost env) (aside env.isCancelled) settings pipeline options.rehearse).run
        w).1
    let performed := fun v =>
      ((runPipeline (memoryHost env) (aside env.isCancelled) settings pipeline options.perform).run
        v).1
    (env.IsFaultFree → performed w = { rehearsal with dryRun := false }) ∧
    (env.NeverRefuses → env.NeverCancels → pipeline.IsTimeless env →
      ∀ around, rehearsal.FaresAlike (performed ⟨w.stored, around⟩)) := by
  intro rehearsal performed
  refine ⟨fun faultFree => runPipeline_perform_eq faultFree settings options w free, ?_⟩
  intro neverRefuses neverCancels timeless around
  refine PipelineRun.Resembles.faresAlike ?_ timeless
  cases resolved : resolveOrder (pipeline.steps.map Node.ofStep) with
  | error cycle => exact runPipeline_resembles_of_error env settings _ _ _ _ resolved
  | ok order =>
    exact runPipeline_resembles settings neverRefuses neverCancels resolved rfl
      (fun step hstep => .inr (free step hstep)) (fun _ _ _ _ _ => rfl)
      fun step hstep => .inr (timeless step hstep)

theorem rehearsal_foretells_chosenTwice :
    let rehearsal :=
      ((runPipeline (memoryHost .calm) (aside Environment.calm.isCancelled) {} chosenTwice
        (.rehearse {})).run ⟨[("users", [[]]), ("chosen", [])], ()⟩).1
    let performed :=
      ((runPipeline (memoryHost .calm) (aside Environment.calm.isCancelled) {} chosenTwice
        (.perform {})).run ⟨[("users", [[]]), ("chosen", [])], ()⟩).1
    (∀ step ∈ chosenTwice.steps, isReserved step.config.output = false) ∧
      (Environment.calm.IsFaultFree ∧ performed = { rehearsal with dryRun := false }) ∧
      Environment.calm.NeverRefuses ∧ Environment.calm.NeverCancels ∧
      chosenTwice.IsTimeless Environment.calm ∧ rehearsal.FaresAlike performed := by
  have free : ∀ step ∈ chosenTwice.steps, isReserved step.config.output = false := by decide
  have faultFree : Environment.calm.IsFaultFree := fun _ => rfl
  have timeless : chosenTwice.IsTimeless Environment.calm :=
    Pipeline.isTimeless_of_not_asksTime .calm (by decide)
  obtain ⟨exact, alike⟩ :=
    rehearsal_foretells .calm {} chosenTwice {} ⟨[("users", [[]]), ("chosen", [])], ()⟩ free
  exact ⟨free, ⟨faultFree, exact faultFree⟩, Environment.neverRefuses_calm,
    Environment.neverCancels_calm, timeless,
    alike Environment.neverRefuses_calm Environment.neverCancels_calm timeless ()⟩

end RecordFlow
