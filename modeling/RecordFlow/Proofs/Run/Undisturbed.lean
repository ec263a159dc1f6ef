import RecordFlow.Proofs.Run.Interpretation
import RecordFlow.Proofs.Run.Outcome
import RecordFlow.Proofs.Step.Timeless

/-!
# Runs that nothing disturbs

On a store that refuses nothing, a run that is never cancelled is a matter of its steps, of what is
stored at first and of the clock, be it dry or not. A step that nothing in front of it hinders makes
what it makes of the sets that the run has made and of what was stored at first: what the run has
written to the store since then are those same sets. If the time makes no difference to the steps,
the clock does not matter either.

## Main definitions

* `Step.outcome` — what a step makes in a run that may be dry
* `Pipeline.IsTimeless` — the time makes no difference to what its steps make
* `Execution.IsUndisturbed` — nothing is refused and nothing cancelled
* `Execution.fate` — how a step fares, and `Execution.advance` — what that
  does to the progress of the run
* `Execution.FaresAt` — how the step at a position fares
* `lastProgress` — the progress of a new run behind its last step

## Main results

* `Pipeline.isTimeless_of_not_asksTime` — the time makes no difference
  to steps that do not ask for it
* `Execution.IsUndisturbed.exists_faresAt` — every step of a run fares in such a way
* `Execution.IsUndisturbed.stored_reach` — what is stored in front of a step
* `stored_runPipeline` — what a run leaves in the store
-/

namespace RecordFlow

variable {ω : Type} {env : Environment ω}

/-! ### What a step makes -/

/-- What a step makes of the sets that it finds. A dry run stores nothing, so
that no name is reserved in it. -/
def Step.outcome (step : Step) (dryRun : Bool) (now : Timestamp)
    (find : String → Option (List Record)) : Except StepError StepOutput :=
  if dryRun then (step.config.sources.mapM (sourceIn find)).bind (step.config.process now)
  else step.attempt now find

/-- The time makes no difference to what the steps of a pipeline make: the clock stands still, or
they do not ask for it. What a step computes from the present time it would make differently at
another one, so two runs can be compared only as far as that. -/
def Pipeline.IsTimeless (pipeline : Pipeline) (env : Environment ω) : Prop :=
  ∀ step ∈ pipeline.steps, ∀ now now', env.MayShow now → env.MayShow now' →
    step.config.process now = step.config.process now'

/-- The time makes no difference to steps that do not ask for it, whatever the clock shows. -/
theorem Pipeline.isTimeless_of_not_asksTime {pipeline : Pipeline} (env : Environment ω)
    (never : ∀ step ∈ pipeline.steps, step.config.asksTime = false) : pipeline.IsTimeless env :=
  fun step hstep now now' _ _ => StepConfig.process_eq_of_not_asksTime (never step hstep) now now'

/-- On sources under which the same is found the same is read. -/
theorem mapM_sourceIn_congr {find find' : String → Option (List Record)} {names : List String}
    (same : ∀ name ∈ names, find name = find' name) :
    names.mapM (sourceIn find) = names.mapM (sourceIn find') := by
  induction names with
  | nil => rfl
  | cons name names ih =>
    obtain ⟨first, others⟩ := List.forall_mem_cons.mp same
    rw [List.mapM_cons, List.mapM_cons, sourceIn, sourceIn, first, ih others]

namespace Step

variable {step : Step} {dryRun : Bool} {now now' : Timestamp}
  {find find' : String → Option (List Record)}

/-- What a step makes is a matter of its configuration. -/
theorem outcome_of_config {other : Step} (same : step.config = other.config) :
    step.outcome = other.outcome := by
  funext dryRun now find
  rw [outcome, outcome, attempt_eq, attempt_eq, same]

/-- What a step makes depends on what it finds under the names of its sources only. -/
theorem outcome_congr (timeless : step.config.process now = step.config.process now')
    (same : ∀ name ∈ step.config.sources, find name = find' name) :
    step.outcome dryRun now find = step.outcome dryRun now' find' := by
  rw [outcome, outcome, attempt_eq, attempt_eq, timeless, mapM_sourceIn_congr same]

/-- A step whose output is not reserved makes in a dry run what it makes in any other one. -/
theorem outcome_of_free (free : isReserved step.config.output = false)
    (dryRun : Bool) (now : Timestamp) (find : String → Option (List Record)) :
    step.outcome dryRun now find =
      (step.config.sources.mapM (sourceIn find)).bind (step.config.process now) := by
  cases dryRun with
  | true => rfl
  | false =>
    rw [outcome, attempt_eq, free]
    cases (step.config.sources.mapM (sourceIn find)).bind (step.config.process now) <;> rfl

end Step

/-- Collections with what a step with a fate has made under the name of its output. -/
def Collections.hold (collections : Collections) (name : String) (fate : Fate) : Collections :=
  fate.output?.elim collections fun output => collections.put name output.records

theorem Collections.records?_hold (collections : Collections) (name : String) (fate : Fate)
    (other : String) : (collections.hold name fate).records? other =
      (if other = name then fate.output?.map StepOutput.records else none).or
        (collections.records? other) := by
  rw [hold]
  cases fate.output? with
  | none => simp
  | some output =>
    refine Collections.records?_put.trans ?_
    split <;> rfl

namespace Execution

section

variable {σ : Type}

/-- How a step fares in a run that is never cancelled: it is attempted
unless a failure hinders it. -/
def fate (execution : Execution (StateM σ)) (slot : Slot) (progress : Progress) (now : Timestamp)
    (find : String → Option (List Record)) : Fate :=
  if progress.halted = true ∨ slot.place ∈ progress.tainted then .skipped
  else .ofAttempt (slot.step.outcome execution.options.dryRun now find)

/-- What the fate of a step does to the progress of a run, but for its result. -/
def advance (execution : Execution (StateM σ)) (slot : Slot) (progress : Progress) : Fate → Progress
  | .completed output =>
    { progress with made := progress.made.put slot.step.config.output output.records }
  | .failed error =>
    { progress with
      tainted := progress.tainted ++ dependents execution.nodes slot.place
      halted := progress.halted || !execution.options.continueOnError
      error := progress.error <|> some (failureText slot.step error) }
  | .skipped => progress

theorem made_advance (execution : Execution (StateM σ)) (slot : Slot)
    (progress : Progress) (fate : Fate) :
    (execution.advance slot progress fate).made =
      progress.made.hold slot.step.config.output fate := by
  cases fate <;> rfl

end

variable {execution : Execution (StateM (World ω))} {slot : Slot} {slots : List Slot}
  {progress : Progress} {w w' : World ω} {s : Nat}

/-- Nothing is refused and nothing cancelled. -/
structure IsUndisturbed (execution : Execution (StateM (World ω)))
    (env : Environment ω) : Prop where
  runsIn : execution.RunsIn env
  neverRefuses : env.NeverRefuses
  neverCancels : env.NeverCancels

/-- How the step at a position fares: it has a fate at a time that the clock shows, which its result
tells and by which the run advances. -/
structure FaresAt (execution : Execution (StateM (World ω)))
    (env : Environment ω) (slots : List Slot) (w : World ω) (s : Nat) (fate : Fate) : Prop where
  lt : s < slots.length
  fate_eq : ∃ now, env.MayShow now ∧
    fate = execution.fate slots[s] (execution.reach slots {} w s).1 now
    ((execution.reach slots {} w s).1.made.found w.stored)
  advances : ∃ result, (execution.results slots w)[s]? = some result ∧
    (⟨slots[s].place, slots[s].step, fate⟩ : Episode).IsToldBy result ∧
    (execution.reach slots {} w (s + 1)).1 =
      (execution.advance slots[s] (execution.reach slots {} w s).1 fate).add result

/-- A step makes its outcome at a time that the clock shows. A step of a dry run stores nothing. -/
theorem executeStep_outcome (inMemory : execution.RunsIn env) (never : env.NeverRefuses)
    (made : Collections) (step : Step) (w : World ω) : ∃ around now, env.MayShow now ∧
      (execution.executeStep made step).run.run w =
        (step.outcome execution.options.dryRun now (made.found w.stored),
          ⟨if execution.options.dryRun then w.stored else w.stored.hold step.config.output
            (.ofAttempt (step.outcome execution.options.dryRun now (made.found w.stored))),
              around⟩) := by
  cases dry : execution.options.dryRun with
  | false =>
    obtain ⟨around, now, shown, hrun⟩ := executeStep_run inMemory never dry made step w
    refine ⟨around, now, shown, hrun.trans ?_⟩
    rw [Step.outcome]
    cases step.attempt now (made.found w.stored) <;> rfl
  | true =>
    obtain ⟨around, now, shown, hconfig⟩ := executeConfig_run never made step.config w
    refine ⟨around, now, shown, ?_⟩
    simp only [executeStep, inMemory.host, run_exceptBind, hconfig, dry, Step.outcome]
    cases (step.config.sources.mapM (sourceIn (made.found w.stored))).bind
      (step.config.process now) <;> rfl

namespace IsUndisturbed

/-- Only failures keep a step from running. -/
theorem blocked_iff (undisturbed : execution.IsUndisturbed env) (slot : Slot) (w : World ω)
    (going : progress.cancelled = false) :
    execution.Blocked slot progress w ↔ progress.halted = true ∨ slot.place ∈ progress.tainted := by
  rw [Blocked, isStopped_eq_false undisturbed.runsIn undisturbed.neverCancels w going]
  simp

/-- A started step makes its outcome, and stores it unless the run is dry. -/
theorem outcome_eq (undisturbed : execution.IsUndisturbed env) {made : Collections} {step : Step}
    {result : Except StepError StepOutput}
    (ran : (execution.executeStep made step).run.run w = (result, w')) : ∃ now, env.MayShow now ∧
      step.outcome execution.options.dryRun now (made.found w.stored) = result ∧
      w'.stored = if execution.options.dryRun then w.stored
        else w.stored.hold step.config.output (.ofAttempt result) := by
  obtain ⟨around, now, shown, hrun⟩ :=
    executeStep_outcome undisturbed.runsIn undisturbed.neverRefuses made step w
  obtain ⟨rfl, rfl⟩ := Prod.mk.inj (hrun.symm.trans ran)
  exact ⟨now, shown, rfl, rfl⟩

end IsUndisturbed

/-- **One step.** The turn of a step advances the run by its fate at a time that the clock shows. -/
theorem Turn.exists_advance {after : Progress × World ω} (undisturbed : execution.IsUndisturbed env)
    (turn : execution.Turn slot progress w after) (hpending : slot.pending = .pending slot.step)
    (going : progress.cancelled = false) :
    ∃ now fate result, env.MayShow now ∧
      fate = execution.fate slot progress now (progress.made.found w.stored) ∧
      (⟨slot.place, slot.step, fate⟩ : Episode).IsToldBy result ∧
      after.1 = (execution.advance slot progress fate).add result ∧
      after.2.stored = if execution.options.dryRun then w.stored
        else w.stored.hold slot.step.config.output fate := by
  -- A run that is not cancelled records nothing by doing so again.
  have same : { progress with cancelled := false } = progress := by rw [← going]
  have blocked_iff := undisturbed.blocked_iff slot w going
  have inMemory := undisturbed.runsIn
  cases turn with
  | skipped blocked quiet =>
    refine ⟨_, .skipped, slot.pending.skip, ⟨w.around, rfl⟩, ?_, ?_, ?_, ?_⟩
    · rw [fate, if_pos (blocked_iff.mp blocked)]
    · rw [hpending]
      exact ⟨rfl, rfl, rfl, rfl, rfl, rfl⟩
    · rw [isStopped_eq_false inMemory undisturbed.neverCancels w going, same]
      rfl
    · rw [quiet.stored inMemory]
      exact (ite_self _).symm
  | @completed w₁ _ output started ended free ran quiet =>
    obtain ⟨now, shown, houtcome, hstored⟩ := undisturbed.outcome_eq ran
    rw [stored_attemptIn inMemory] at houtcome hstored
    refine ⟨now, .completed output,
      (slot.pending.start started).complete output.inputRows output.records.length ended, shown,
      ?_, ?_, ?_, ?_⟩
    · rw [fate, if_neg (mt blocked_iff.mpr free), houtcome]
      rfl
    · rw [hpending]
      exact ⟨rfl, rfl, rfl, rfl, rfl, rfl⟩
    · rw [advance, ← same]
    · rw [quiet.stored inMemory, hstored]
      rfl
  | @failed w₁ _ error started ended free ran quiet =>
    obtain ⟨now, shown, houtcome, hstored⟩ := undisturbed.outcome_eq ran
    rw [stored_attemptIn inMemory] at houtcome hstored
    refine ⟨now, .failed error, (slot.pending.start started).fail error.message ended, shown,
      ?_, ?_, ?_, ?_⟩
    · rw [fate, if_neg (mt blocked_iff.mpr free), houtcome]
      rfl
    · rw [hpending]
      exact ⟨rfl, rfl, rfl, rfl, rfl, rfl⟩
    · rw [advance, ← same]
    · rw [quiet.stored inMemory, hstored]
      rfl

namespace IsUndisturbed

theorem not_stoppedAt (undisturbed : execution.IsUndisturbed env) (slots : List Slot) (w : World ω)
    (s : Nat) : ¬ execution.StoppedAt slots w s := by
  rw [StoppedAt, undisturbed.runsIn.isCancelled, Bool.not_eq_true]
  exact undisturbed.neverCancels _

theorem cancelled_reach (undisturbed : execution.IsUndisturbed env) (w : World ω)
    (hs : s ≤ slots.length) : (execution.reach slots {} w s).1.cancelled = false := by
  refine Bool.eq_false_iff.mpr fun cancelled => ?_
  obtain ⟨t, -, stopped⟩ := (cancelled_reach_iff hs).mp cancelled
  exact undisturbed.not_stoppedAt slots w t stopped

section

variable (undisturbed : execution.IsUndisturbed env) (w : World ω)
  (pending : ∀ slot ∈ slots, slot.pending = .pending slot.step)

include undisturbed pending

/-- What is stored in front of a step is what was stored at first, or, unless the run is dry,
what has been made since then. -/
theorem stored_reach (hs : s ≤ slots.length) (name : String) :
    (execution.reach slots {} w s).2.stored.records? name =
      if execution.options.dryRun then w.stored.records? name
      else (execution.reach slots {} w s).1.made.found w.stored name := by
  induction s with
  | zero => exact (ite_self _).symm
  | succ s ih =>
    have turn := execution.reach_turn {} w hs
    obtain ⟨now, fate, result, -, -, -, hprogress, hstored⟩ := turn.exists_advance undisturbed
      (pending _ (List.getElem_mem hs)) (undisturbed.cancelled_reach w (Nat.le_of_succ_le hs))
    have made : (execution.reach slots {} w (s + 1)).1.made =
        (execution.reach slots {} w s).1.made.hold slots[s].step.config.output fate := by
      rw [hprogress]
      exact made_advance _ _ _ _
    have before := ih (Nat.le_of_succ_le hs)
    cases dry : execution.options.dryRun with
    | true =>
      simp only [dry, if_true] at before hstored ⊢
      rw [hstored, before]
    | false =>
      simp only [dry, Bool.false_eq_true, if_false] at before hstored ⊢
      rw [hstored, made, Collections.records?_hold, before, Collections.found, Collections.found,
        Collections.records?_hold, Option.or_assoc]

/-- What a step finds was made in the run, or was stored at first. -/
theorem found_reach (hs : s ≤ slots.length) :
    (execution.reach slots {} w s).1.made.found (execution.reach slots {} w s).2.stored =
      (execution.reach slots {} w s).1.made.found w.stored := by
  funext name
  have stored := undisturbed.stored_reach w pending hs name
  rw [Collections.found, stored]
  split
  · rfl
  · rw [Collections.found, ← Option.or_assoc, Option.or_self]

/-- **Any number of steps.** Every step fares in such a way. -/
theorem exists_faresAt (hs : s < slots.length) : ∃ fate, execution.FaresAt env slots w s fate := by
  have turn := execution.reach_turn {} w hs
  obtain ⟨now, fate, result, shown, hfate, told, hprogress, -⟩ := turn.exists_advance undisturbed
    (pending _ (List.getElem_mem hs)) (undisturbed.cancelled_reach w hs.le)
  rw [undisturbed.found_reach w pending hs.le] at hfate
  refine ⟨fate, hs, ⟨now, shown, hfate⟩, result, ?_, told, hprogress⟩
  obtain ⟨same, hsame, effect⟩ := execution.exists_effect w hs
  have results : (execution.advance slots[s] (execution.reach slots {} w s).1 fate).results =
      (execution.reach slots {} w s).1.results := by
    cases fate <;> rfl
  have added := effect.results
  rw [hprogress, Progress.add, results] at added
  obtain rfl := List.singleton_inj.mp (List.append_cancel_left added)
  exact hsame

end

end IsUndisturbed

/-- Under a name that no step in front writes to nothing has been made. -/
theorem records?_made_eq_none (execution : Execution (StateM (World ω))) (w : World ω)
    {name : String} (hs : s ≤ slots.length)
    (unwritten : ∀ t < s, ∀ slot, slots[t]? = some slot → slot.step.config.output ≠ name) :
    (execution.reach slots {} w s).1.made.records? name = none := by
  refine Collections.records?_eq_none_iff_not_mem.mpr fun written => ?_
  obtain ⟨t, hts, -, slot, hslot, output⟩ := (mem_made_reach_iff hs).mp written
  exact unwritten t hts slot hslot output.symm

end Execution

/-! ### New runs -/

/-- The surroundings in which a new run comes to its first step. -/
abbrev World.begun (env : Environment ω) (pipeline : Pipeline)
    (options : RunOptions) (w : World ω) : World ω :=
  ((beginRun (memoryHost env) pipeline options).run w).2

variable {pipeline : Pipeline} {order : List Nat}

theorem pending_of_mem_freshSlots {slot : Slot} (hslot : slot ∈ freshSlots pipeline order) :
    slot.pending = .pending slot.step := (mem_freshSlots hslot).2

theorem isUndisturbed_ofNewRun (neverRefuses : env.NeverRefuses) (neverCancels : env.NeverCancels)
    (pipeline : Pipeline) (options : RunOptions) (w : World ω) :
    (Execution.ofNewRun env pipeline options w).IsUndisturbed env :=
  ⟨Execution.runsIn_ofRun env pipeline _ options, neverRefuses, neverCancels⟩

/-- The progress of a new run behind its last step. -/
def lastProgress (env : Environment ω) (pipeline : Pipeline)
    (options : RunOptions) (order : List Nat) (w : World ω) : Progress :=
  ((Execution.ofNewRun env pipeline options w).reach (freshSlots pipeline order) {}
    (w.begun env pipeline options) (freshSlots pipeline order).length).1

/-- A run makes nothing under a name that no step writes to. -/
theorem records?_lastProgress_eq_none {name : String} (options : RunOptions) (w : World ω)
    (unwritten : ∀ step ∈ pipeline.steps, name ≠ step.config.output) :
    (lastProgress env pipeline options order w).made.records? name = none := by
  refine Execution.records?_made_eq_none _ _ le_rfl fun t _ slot hslot output => ?_
  have hstep := (mem_freshSlots (List.mem_of_getElem? hslot)).1
  exact unwritten slot.step (List.mem_of_getElem? hstep) output.symm

/-- What a run that nothing disturbs leaves under a name: nothing if it has made a set of this name
and is to clean it up, otherwise what it has made and kept, or else what was stored at first. -/
theorem stored_runPipeline (settings : EngineSettings) (options : RunOptions) (w : World ω)
    (neverRefuses : env.NeverRefuses) (neverCancels : env.NeverCancels)
    (resolved : resolveOrder (pipeline.steps.map Node.ofStep) = .ok order) (name : String) :
    let made := (lastProgress env pipeline options order w).made
    ((runPipeline (memoryHost env) (aside env.isCancelled) settings pipeline options).run
      w).2.stored.records? name =
      if options.cleanup = true ∧ isTemporary settings name = true ∧
        name ∈ made.map Prod.fst then none
      else if options.dryRun then w.stored.records? name else made.found w.stored name := by
  intro made
  have undisturbed := isUndisturbed_ofNewRun neverRefuses neverCancels pipeline options w
  have before := undisturbed.stored_reach (w.begun env pipeline options)
    (fun _ => pending_of_mem_freshSlots) (le_refl (freshSlots pipeline order).length) name
  have course :=
    runPipeline_of_ok (memoryHost env) (aside env.isCancelled) settings options w resolved
  rw [runUpTo_run _ _ options w _ resolved, ← length_freshSlots resolved] at course
  obtain ⟨gone, hgone, hall, hstored⟩ := stored_endRun env settings pipeline
    ((beginRun (memoryHost env) pipeline options).run w).1 options
    (lastProgress env pipeline options order w) _
  rw [course]
  refine (congrArg (Collections.records? · name) hstored).trans ?_
  by_cases dropped : options.cleanup = true ∧ isTemporary settings name = true ∧
      name ∈ made.map Prod.fst
  · rw [if_pos dropped]
    exact Collections.records?_removeAll_of_mem
      (hall name (neverRefuses.alwaysDrops name) dropped.1 dropped.2.1 dropped.2.2)
  · rw [if_neg dropped, Collections.records?_removeAll_of_not_mem (mt (hgone name) dropped)]
    exact before

/-- What a run has not made stays as it was stored. -/
theorem stored_runPipeline_of_not_made (settings : EngineSettings)
    (options : RunOptions) (w : World ω) (neverRefuses : env.NeverRefuses)
    (neverCancels : env.NeverCancels)
    (resolved : resolveOrder (pipeline.steps.map Node.ofStep) = .ok order) {name : String}
    (notMade : (lastProgress env pipeline options order w).made.records? name = none) :
    ((runPipeline (memoryHost env) (aside env.isCancelled) settings pipeline options).run
      w).2.stored.records? name = w.stored.records? name := by
  have absent := Collections.records?_eq_none_iff_not_mem.mp notMade
  rw [stored_runPipeline settings options w neverRefuses neverCancels resolved,
    if_neg fun dropped => absent dropped.2.2, Collections.found, notMade, Option.none_or, ite_self]

/-- A run of steps without an order leaves the store as it is. -/
theorem stored_runPipeline_of_error {cycle : CyclicDependency} (env : Environment ω)
    (settings : EngineSettings) (options : RunOptions) (w : World ω)
    (cyclic : resolveOrder (pipeline.steps.map Node.ofStep) = .error cycle) :
    ((runPipeline (memoryHost env) (aside env.isCancelled) settings pipeline options).run
      w).2.stored = w.stored := by
  rw [runPipeline_of_error _ _ settings options w cyclic]
  rfl

end RecordFlow
