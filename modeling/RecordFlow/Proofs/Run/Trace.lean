import RecordFlow.Proofs.Action
import RecordFlow.Proofs.Pipeline.Schedule
import RecordFlow.Run.Execution

/-!
# Runs, step by step

A run in surroundings of any kind, which every action of its host may change: a store whose
operations fail at any moment, a clock, a token that is set at any moment. What a step can do
to the progress of a run is said once, by `Execution.Turn`; what holds after any number of
steps follows by induction on them.

## Main definitions

* `Execution.Quiet` — surroundings that differ by the clock, messages
  and checks for cancellation only
* `Execution.attemptIn` — the surroundings in which a step is attempted
* `Execution.Turn` — what the turn of a step can be: skipped, completed or failed
* `Execution.Effect` — what a turn does to the progress, whatever becomes of the surroundings
* `Execution.reach` — progress and surroundings in front of a step

## Main results

* `Execution.runStep_turn` — every step of a run is such a turn
* `Execution.reach_turn` — from each step of a run to the next there is such a turn
* `Execution.results_reach_prefix` — a result stays as it is once it is there
-/

namespace RecordFlow

variable {σ : Type}

namespace Execution

variable {execution : Execution (StateM σ)} {slot : Slot} {slots : List Slot} {progress : Progress}
  {w w' w'' : σ}

/-- From `w` to `w'` nothing is done but to read the clock, to report
and to check for cancellation. -/
inductive Quiet (execution : Execution (StateM σ)) : σ → σ → Prop
  | refl (w : σ) : Quiet execution w w
  | now {w w' : σ} (h : Quiet execution w w') : Quiet execution w (execution.host.now.run w').2
  | log {w w' : σ} (entry : LogEntry) (h : Quiet execution w w') :
      Quiet execution w ((execution.host.log entry).run w').2
  | check {w w' : σ} (h : Quiet execution w w') : Quiet execution w (execution.isCancelled.run w').2

/-- Whether a run is cancelled when it comes to a step: by an earlier check or
by the one that is made now. -/
def isStopped (execution : Execution (StateM σ)) (progress : Progress) (w : σ) : Bool :=
  progress.cancelled || (execution.isCancelled.run w).1

/-- Whether a step is kept from running. -/
def Blocked (execution : Execution (StateM σ)) (slot : Slot) (progress : Progress) (w : σ) : Prop :=
  execution.isStopped progress w = true ∨ progress.halted = true ∨ slot.place ∈ progress.tainted

/-- The surroundings in which a step is attempted that nothing keeps from running: the run has
checked for cancellation, read the clock and reported that the step starts. -/
def attemptIn (execution : Execution (StateM σ)) (step : Step) (progress : Progress) (w : σ) : σ :=
  let checked := ((execution.checkCancelled step progress.cancelled).run w).2
  ((execution.host.report .debug (startText step)).run (execution.host.now.run checked).2).2

/-- The turn of a step: what the progress and the surroundings may be after it. -/
inductive Turn (execution : Execution (StateM σ)) (slot : Slot) (progress : Progress) (w : σ) :
    Progress × σ → Prop
  /-- Something keeps the step from running. -/
  | skipped {w' : σ} (blocked : execution.Blocked slot progress w) (quiet : execution.Quiet w w') :
      Turn execution slot progress w
        (({ progress with cancelled := execution.isStopped progress w }).add slot.pending.skip, w')
  /-- The step has made records, which are kept for later steps. -/
  | completed {w₁ w₂ : σ} {output : StepOutput} {started ended : Timestamp}
      (free : ¬ execution.Blocked slot progress w)
      (ran : (execution.executeStep progress.made slot.step).run.run
        (execution.attemptIn slot.step progress w) = (.ok output, w₁))
      (after : execution.Quiet w₁ w₂) :
      Turn execution slot progress w
        (({ progress with
            cancelled := false
            made := progress.made.put slot.step.config.output output.records }).add
          ((slot.pending.start started).complete output.inputRows output.records.length ended), w₂)
  /-- The step has failed, and what needs it is not run any more. -/
  | failed {w₁ w₂ : σ} {error : StepError} {started ended : Timestamp}
      (free : ¬ execution.Blocked slot progress w)
      (ran : (execution.executeStep progress.made slot.step).run.run
        (execution.attemptIn slot.step progress w) = (.error error, w₁))
      (after : execution.Quiet w₁ w₂) :
      Turn execution slot progress w
        (({ progress with
            cancelled := false
            tainted := progress.tainted ++ dependents execution.nodes slot.place
            halted := progress.halted || !execution.options.continueOnError
            error := progress.error <|> some (failureText slot.step error) }).add
          ((slot.pending.start started).fail error.message ended), w₂)

namespace Quiet

theorem report (h : execution.Quiet w w') (level : LogLevel) (text : String) :
    execution.Quiet w ((execution.host.report level text).run w').2 :=
  h.log ⟨level, .execution, text⟩

end Quiet

theorem checkCancelled_run (execution : Execution (StateM σ)) (step : Step) (progress : Progress)
    (w : σ) :
    ∃ w', (execution.checkCancelled step progress.cancelled).run w =
      (execution.isStopped progress w, w') ∧ execution.Quiet w w' := by
  cases hc : progress.cancelled with
  | true => exact ⟨w, by rw [isStopped, hc]; rfl, .refl w⟩
  | false =>
    simp only [checkCancelled, isStopped, hc, Bool.false_eq_true, if_false, run_bind, Bool.false_or]
    cases hnow : (execution.isCancelled.run w).1 with
    | true => exact ⟨_, rfl, (Quiet.check (.refl w)).report _ _⟩
    | false => exact ⟨_, rfl, .check (.refl w)⟩

/-- Up to the attempt of a step a run is quiet. -/
theorem quiet_attemptIn (execution : Execution (StateM σ)) (step : Step)
    (progress : Progress) (w : σ) : execution.Quiet w (execution.attemptIn step progress w) := by
  obtain ⟨w', hcheck, quiet⟩ := execution.checkCancelled_run step progress w
  rw [attemptIn, hcheck]
  exact quiet.now.report _ _

theorem startStep_turn (free : ¬ execution.Blocked slot progress w) :
    execution.Turn slot progress w
      ((execution.startStep slot { progress with cancelled := false }).run
        ((execution.checkCancelled slot.step progress.cancelled).run w).2) := by
  simp only [startStep, run_bind]
  generalize hran : (execution.executeStep progress.made slot.step).run.run _ = ran
  obtain ⟨result, w₁⟩ := ran
  cases result with
  | ok output => exact .completed free hran ((Quiet.refl w₁).report _ _).now
  | error error => exact .failed free hran ((Quiet.refl w₁).report _ _).now

/-- Every step of a run is a turn. -/
theorem runStep_turn (execution : Execution (StateM σ)) (slot : Slot)
    (progress : Progress) (w : σ) :
    execution.Turn slot progress w ((execution.runStep slot progress).run w) := by
  obtain ⟨w₁, hcheck, quiet⟩ := execution.checkCancelled_run slot.step progress w
  simp only [runStep, run_bind, hcheck]
  by_cases blocked : execution.Blocked slot progress w
  · rw [if_pos (by simpa [Blocked, or_assoc] using blocked)]
    exact .skipped blocked quiet
  · have stopped : execution.isStopped progress w = false := by
      simpa using fun h => blocked (.inl h)
    rw [if_neg (by simpa [Blocked, or_assoc] using blocked), stopped]
    have turn := startStep_turn blocked
    rwa [hcheck] at turn

/-- What the turn of a step does to the progress of a run, with the result that it adds. -/
structure Effect (execution : Execution (StateM σ)) (slot : Slot) (progress : Progress) (w : σ)
    (after : Progress) (result : StepResult) : Prop where
  results : after.results = progress.results ++ [result]
  stepId : result.stepId = slot.pending.stepId
  output : result.output = slot.pending.output
  settled : result.status = .completed ∨ result.status = .failed ∨ result.status = .skipped
  skipped_iff : result.status = .skipped ↔ execution.Blocked slot progress w
  cancelled : after.cancelled = execution.isStopped progress w
  mem_tainted_iff : ∀ i, i ∈ after.tainted ↔
    i ∈ progress.tainted ∨ (result.status = .failed ∧ i ∈ dependents execution.nodes slot.place)
  halted_iff : after.halted = true ↔
    progress.halted = true ∨ (result.status = .failed ∧ execution.options.continueOnError = false)
  error_of_not_failed : result.status ≠ .failed → after.error = progress.error
  error_of_failed : result.status = .failed → ∃ error : StepError,
    result.error = some error.message ∧
      after.error = (progress.error <|> some (failureText slot.step error))
  made_of_not_completed : result.status ≠ .completed → after.made = progress.made
  made_of_completed : result.status = .completed →
    ∃ records, after.made = progress.made.put slot.step.config.output records ∧
      result.outputRows = records.length

theorem not_blocked_iff : ¬ execution.Blocked slot progress w ↔
    execution.isStopped progress w = false ∧ progress.halted = false ∧
      slot.place ∉ progress.tainted := by
  simp [Blocked]

theorem Turn.exists_effect {after : Progress × σ} (h : execution.Turn slot progress w after) :
    ∃ result, execution.Effect slot progress w after.1 result := by
  cases h with
  | skipped blocked _ =>
    refine ⟨slot.pending.skip, ?_⟩
    constructor <;> simp [Progress.add, StepResult.skip, blocked]
  | @completed _ _ output started ended free _ _ =>
    refine ⟨(slot.pending.start started).complete output.inputRows output.records.length ended, ?_⟩
    constructor
    case cancelled => exact (not_blocked_iff.mp free).1.symm
    case made_of_completed => exact fun _ => ⟨_, rfl, rfl⟩
    all_goals simp [Progress.add, StepResult.complete, StepResult.finish, StepResult.start, free]
  | @failed _ _ error started ended free _ _ =>
    refine ⟨(slot.pending.start started).fail error.message ended, ?_⟩
    constructor
    case cancelled => exact (not_blocked_iff.mp free).1.symm
    case error_of_failed => exact fun _ => ⟨_, rfl, rfl⟩
    all_goals simp [Progress.add, StepResult.fail, StepResult.finish, StepResult.start, free]

variable {after : Progress × σ} {result : StepResult}

/-- The result that a turn adds tells of a failure exactly when the step was run and has
failed, and then with what. -/
theorem Turn.result_cases (h : execution.Turn slot progress w after)
    (added : after.1.results = progress.results ++ [result]) :
    (result.status ≠ .failed ∧ result.error = slot.pending.error) ∨
      (result.status = .failed ∧ ∃ (w₁ : σ) (error : StepError),
        (execution.executeStep progress.made slot.step).run.run
          (execution.attemptIn slot.step progress w) = (.error error, w₁) ∧
        execution.Quiet w₁ after.2 ∧ result.error = some error.message) := by
  have only : ∀ {other : StepResult}, progress.results ++ [other] = progress.results ++ [result] →
      other = result := fun same => List.singleton_inj.mp (List.append_cancel_left same)
  cases h with
  | skipped _ _ =>
    obtain rfl := only added
    exact .inl ⟨by simp [StepResult.skip], rfl⟩
  | completed _ _ _ =>
    obtain rfl := only added
    exact .inl ⟨by simp [StepResult.complete, StepResult.finish], rfl⟩
  | @failed w₁ _ error _ _ _ ran after =>
    obtain rfl := only added
    exact .inr ⟨rfl, w₁, error, ran, after, rfl⟩

/-! ### Any number of steps -/

theorem runSteps_append (execution : Execution (StateM σ)) (front back : List Slot)
    (progress : Progress) (w : σ) :
    (execution.runSteps (front ++ back) progress).run w =
      (execution.runSteps back ((execution.runSteps front progress).run w).1).run
        ((execution.runSteps front progress).run w).2 := by
  induction front generalizing progress w with
  | nil => rfl
  | cons slot front ih =>
    simp only [List.cons_append, runSteps, run_bind]
    exact ih _ _

/-- The progress and the surroundings with which a run comes to the step at a position. -/
def reach (execution : Execution (StateM σ)) (slots : List Slot)
    (start : Progress) (w : σ) (s : Nat) : Progress × σ :=
  (execution.runSteps (slots.take s) start).run w

@[simp] theorem reach_zero (execution : Execution (StateM σ)) (slots : List Slot) (start : Progress)
    (w : σ) : execution.reach slots start w 0 = (start, w) := rfl

theorem reach_length (execution : Execution (StateM σ)) (slots : List Slot)
    (start : Progress) (w : σ) :
    execution.reach slots start w slots.length = (execution.runSteps slots start).run w := by
  rw [reach, List.take_length]

variable {start : Progress} {s t : Nat}

theorem reach_succ (start : Progress) (w : σ) (hs : s < slots.length) :
    execution.reach slots start w (s + 1) =
      (execution.runStep slots[s] (execution.reach slots start w s).1).run
        (execution.reach slots start w s).2 := by
  rw [reach, List.take_succ_eq_append_getElem hs, runSteps_append]
  rfl

/-- From each step of a run to the next there is a turn. -/
theorem reach_turn (execution : Execution (StateM σ)) (start : Progress) (w : σ)
    (hs : s < slots.length) :
    execution.Turn slots[s] (execution.reach slots start w s).1 (execution.reach slots start w s).2
      (execution.reach slots start w (s + 1)) := by
  rw [reach_succ start w hs]
  exact execution.runStep_turn _ _ _

theorem length_results_reach (execution : Execution (StateM σ)) (start : Progress) (w : σ)
    (hs : s ≤ slots.length) :
    (execution.reach slots start w s).1.results.length = start.results.length + s := by
  induction s with
  | zero => rfl
  | succ s ih =>
    obtain ⟨result, effect⟩ := (execution.reach_turn start w hs).exists_effect
    rw [effect.results, List.length_append, ih (by omega)]
    rfl

/-- A result stays as it is once it is there. -/
theorem results_reach_prefix (execution : Execution (StateM σ)) (start : Progress) (w : σ)
    (hst : s ≤ t) (ht : t ≤ slots.length) :
    (execution.reach slots start w s).1.results <+:
      (execution.reach slots start w t).1.results := by
  induction t, hst using Nat.le_induction with
  | base => exact List.prefix_rfl
  | succ t _ ih =>
    obtain ⟨result, effect⟩ := (execution.reach_turn start w ht).exists_effect
    rw [effect.results]
    exact (ih (by omega)).trans (List.prefix_append _ _)

end Execution

end RecordFlow
