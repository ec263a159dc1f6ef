import RecordFlow.Proofs.Run.NewRun
import RecordFlow.Proofs.Run.Outcome

/-!
# Dry runs

The steps of a dry run read what is stored and leave it as it is. What a dry run does to a store
comes from the removal of temporary collections alone: it drops those that stand there under the
name of a set which the run has made, although none of them is of its making.

## Main definitions

* `IsDropped` — the names that a run drops

## Main results

* `dryRun_stored` — what a dry run leaves in a store, and when that is all that was there
* `dryRun_loses_collection` — a dry run after which a collection is gone
-/

namespace RecordFlow

variable {ω : Type} {env : Environment ω} {execution : Execution (StateM (World ω))} {slot : Slot}
  {slots : List Slot} {progress : Progress} {w w' : World ω} {s : Nat}

/-- A run drops a name: it is to clean up, the name is temporary, and a completed step
has made a set of that name. -/
def IsDropped (settings : EngineSettings) (options : RunOptions) (run : PipelineRun)
    (name : String) : Prop :=
  options.cleanup = true ∧ isTemporary settings name = true ∧
    ∃ result ∈ run.stepResults, result.status = .completed ∧ result.output = name

namespace Execution

/-- A dry execution on a store in memory. -/
structure IsDry (execution : Execution (StateM (World ω))) (env : Environment ω) : Prop where
  host : execution.host = memoryHost env
  isCancelled : execution.isCancelled = aside env.isCancelled
  dryRun : execution.options.dryRun = true

theorem IsDry.runsIn (dry : execution.IsDry env) : execution.RunsIn env :=
  ⟨dry.host, dry.isCancelled⟩

theorem keeps_executeStep (dry : execution.IsDry env) (made : Collections) (step : Step) :
    Keeps World.stored (execution.executeStep made step).run := by
  rw [executeStep, dry.host, dry.dryRun]
  refine .exceptBind (keeps_executeConfig env made step.config) fun output => ?_
  exact .pure _ _

/-- The turn of a step of a dry run changes no collection. -/
theorem Turn.stored {after : Progress × World ω} (dry : execution.IsDry env)
    (h : execution.Turn slot progress w after) : after.2.stored = w.stored := by
  cases h with
  | skipped _ quiet => exact quiet.stored dry.runsIn
  | completed _ ran after | failed _ ran after =>
    have kept := keeps_executeStep dry progress.made slot.step
      (execution.attemptIn slot.step progress w)
    rw [ran] at kept
    rw [after.stored dry.runsIn, kept, stored_attemptIn dry.runsIn]

/-- The steps of a dry run change no collection. -/
theorem stored_reach (dry : execution.IsDry env) (start : Progress) (w : World ω)
    (hs : s ≤ slots.length) : (execution.reach slots start w s).2.stored = w.stored := by
  induction s with
  | zero => rfl
  | succ s ih => rw [(execution.reach_turn start w hs).stored dry, ih (by omega)]

end Execution

/-- The steps of a dry run leave all collections as they are. -/
theorem stored_runUpTo {pipeline : Pipeline} {order : List Nat} {options : RunOptions}
    (env : Environment ω) (w : World ω) (dry : options.dryRun = true)
    (resolved : resolveOrder (pipeline.steps.map Node.ofStep) = .ok order) (hs : s ≤ order.length) :
    ((runUpTo (memoryHost env) (aside env.isCancelled) pipeline options order s).run w).2.stored =
      w.stored := by
  rw [runUpTo_run _ _ options w s resolved]
  refine Eq.trans ?_ (stored_beginRun env pipeline options w)
  refine Execution.stored_reach ⟨rfl, rfl, dry⟩ {} _ ?_
  rwa [length_freshSlots resolved]

/-- What a dry run drops: some of the names that it is said to drop, and all of them
if the store refuses nothing. -/
theorem exists_stored_dryRun (env : Environment ω) (settings : EngineSettings) (pipeline : Pipeline)
    (options : RunOptions) (w : World ω) (dry : options.dryRun = true) :
    let ended :=
      (runPipeline (memoryHost env) (aside env.isCancelled) settings pipeline options).run w
    ∃ gone : List String, (∀ name ∈ gone, IsDropped settings options ended.1 name) ∧
      (env.NeverRefuses → ∀ name, IsDropped settings options ended.1 name → name ∈ gone) ∧
      ended.2.stored = w.stored.removeAll gone := by
  intro ended
  cases resolved : resolveOrder (pipeline.steps.map Node.ofStep) with
  | error cycle =>
    have refusal :=
      runPipeline_refusal (memoryHost env) (aside env.isCancelled) settings options w resolved
    refine ⟨[], by simp, fun _ name dropped => ?_, ?_⟩
    · obtain ⟨-, -, result, hmem, completed, -⟩ := dropped
      rw [refusal.skipped result hmem] at completed
      cases completed
    · rw [Collections.removeAll_nil]
      simp only [ended, runPipeline_of_error _ _ settings options w resolved]
      rfl
  | ok order =>
    have ends :=
      runPipeline_endsWith (memoryHost env) (aside env.isCancelled) settings options w resolved
    have outputs : ∀ slot ∈ freshSlots pipeline order, slot.pending.output =
        slot.step.config.output := by
      intro slot hslot
      rw [(mem_freshSlots hslot).2]
      rfl
    have kept := stored_runUpTo env w dry resolved (le_refl order.length)
    have course :=
      runPipeline_of_ok (memoryHost env) (aside env.isCancelled) settings options w resolved
    rw [runUpTo_run _ _ options w _ resolved, ← length_freshSlots resolved] at course kept
    obtain ⟨gone, hgone, hall, hstored⟩ := stored_endRun env settings pipeline
      ((beginRun (memoryHost env) pipeline options).run w).1 options _ _
    rw [← course, kept] at hstored
    refine ⟨gone, fun name hmem => ?_, fun never name ⟨cleanup, temporary, made⟩ => ?_, hstored⟩
    · obtain ⟨cleanup, temporary, made⟩ := hgone name hmem
      exact ⟨cleanup, temporary, (ends.mem_made_iff outputs).mp made⟩
    · exact hall name (never.alwaysDrops name) cleanup temporary
        ((ends.mem_made_iff outputs).mpr made)

/-- **What a dry run leaves in a store.** Whatever the store refuses and whenever the run is
cancelled, a collection that the run does not drop is as it was, and so is the whole store if
nothing that it drops was there. On a store that refuses nothing, these are the only dry runs
after which it is as before. -/
theorem dryRun_stored (env : Environment ω) (settings : EngineSettings) (pipeline : Pipeline)
    (options : RunOptions) (w : World ω) (dry : options.dryRun = true) :
    let ended :=
      (runPipeline (memoryHost env) (aside env.isCancelled) settings pipeline options).run w
    (∀ name, ¬ IsDropped settings options ended.1 name →
      ended.2.stored.records? name = w.stored.records? name) ∧
    ((∀ name, IsDropped settings options ended.1 name → w.stored.records? name = none) →
      ended.2.stored = w.stored) ∧
    (env.NeverRefuses → (ended.2.stored = w.stored ↔
      ∀ name, IsDropped settings options ended.1 name → w.stored.records? name = none)) := by
  intro ended
  obtain ⟨gone, hgone, hall, hstored⟩ := exists_stored_dryRun env settings pipeline options w dry
  have unchanged : (∀ name, IsDropped settings options ended.1 name →
      w.stored.records? name = none) → ended.2.stored = w.stored := fun absent =>
    hstored.trans (Collections.removeAll_eq_self fun name hmem => absent name (hgone name hmem))
  refine ⟨fun name notDropped => ?_, unchanged,
    fun never => ⟨fun same name dropped => ?_, unchanged⟩⟩
  · have : name ∉ gone := fun hmem => notDropped (hgone name hmem)
    rw [hstored, Collections.records?_removeAll_of_not_mem this]
  · rw [← same, hstored, Collections.records?_removeAll_of_mem (hall never name dropped)]

/-- A step whose output has a temporary name. -/
def temporaryCopy : Pipeline := .ofSteps [.passOn "copy" "users" "_tmp_users"]

theorem dryRun_stored_temporaryCopy :
    ({ dryRun := true, cleanup := true } : RunOptions).dryRun = true ∧
      ((runPipeline (memoryHost .calm) (aside Environment.calm.isCancelled) {} temporaryCopy
        { dryRun := true, cleanup := true }).run ⟨[("users", [])], ()⟩).2.stored =
          [("users", [])] := by
  refine ⟨rfl, (dryRun_stored .calm {} temporaryCopy _ _ rfl).2.1 ?_⟩
  rintro name ⟨-, temporary, -⟩
  have : name ≠ "users" := by
    rintro rfl
    revert temporary
    decide
  rw [Collections.records?_cons, if_neg this]
  rfl

/-- A dry run that cleans up loses a collection that was there before. -/
theorem dryRun_loses_collection :
    ({ dryRun := true, cleanup := true } : RunOptions).dryRun = true ∧
      ((runPipeline (memoryHost .calm) (aside Environment.calm.isCancelled) {} temporaryCopy
        { dryRun := true, cleanup := true }).run
          ⟨[("users", []), ("_tmp_users", [])], ()⟩).2.stored ≠
            [("users", []), ("_tmp_users", [])] := by
  refine ⟨rfl, fun same => ?_⟩
  have lengths := congrArg List.length same
  revert lengths
  decide +kernel

end RecordFlow
