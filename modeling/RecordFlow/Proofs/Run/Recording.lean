import RecordFlow.Proofs.Run.Handover
import RecordFlow.Proofs.Run.Rereading

/-!
# What a run records of itself

An execution leaves the ids and the context of a run as they are. The times that it records are
readings of the clock, so a run at its end can be written and read again if the clock gives such
times and if the records that its steps have read and made can be counted with a sign and 64 bits.

## Main definitions

* `PipelineRun.IsCountable` — the records of the steps can be counted
* `PipelineRun.IsRunOf` — what stays as it is in a run

## Main results

* `isRunOf_execute` — what a run is like at its end
* `isSound_execute` — a run at its end is sound
-/

namespace RecordFlow

variable {σ : Type}

/-- The records that the steps of a run have read and made can be counted by signed integers
of 64 bits. That is so of all records that fit in a memory addressed by 64 bits, since a
record takes more than two bytes. -/
def PipelineRun.IsCountable (run : PipelineRun) : Prop :=
  ∀ result ∈ run.stepResults, result.inputRows < int64Limit ∧ result.outputRows < int64Limit

/-- The times of a step can be written and read again. -/
def StepResult.HasTimes (result : StepResult) : Prop :=
  HasSoundTimes result.startedAt result.completedAt result.durationMs

/-- So can the times of a run. -/
def PipelineRun.HasTimes (run : PipelineRun) : Prop :=
  run.createdAt.Survives ∧ HasSoundTimes run.startedAt run.completedAt run.durationMs

/-! ### Times -/

namespace HasSoundTimes

variable {startedAt completedAt : Option Timestamp} {durationMs : Option Int}

theorem start (h : HasSoundTimes startedAt completedAt durationMs) {now : Timestamp}
    (survives : now.Survives) : HasSoundTimes (some now) completedAt durationMs :=
  { h with startedAt := by simpa using survives }

theorem finish (h : HasSoundTimes startedAt completedAt durationMs) {now : Timestamp}
    (survives : now.Survives) :
    HasSoundTimes startedAt (some now) (startedAt.map (millisBetween · now)) where
  startedAt := h.startedAt
  completedAt := by simpa using survives
  durationMs := by
    rintro _ span
    obtain ⟨start, -, rfl⟩ := Option.map_eq_some_iff.mp span
    exact isInt64_millisBetween start now

end HasSoundTimes

/-- The times of all results so far can be written and read again. -/
def Progress.HasTimes (progress : Progress) : Prop := ∀ result ∈ progress.results, result.HasTimes

namespace StepResult

variable {result : StepResult} {now : Timestamp}

theorem hasTimes_pending (step : Step) : (pending step).HasTimes where
  startedAt := by simp [pending]
  completedAt := by simp [pending]
  durationMs := by simp [pending]

theorem HasTimes.start (h : result.HasTimes) (survives : now.Survives) :
    (result.start now).HasTimes :=
  HasSoundTimes.start h survives

theorem HasTimes.complete (h : result.HasTimes) (survives : now.Survives)
    (inputRows outputRows : Nat) : (result.complete inputRows outputRows now).HasTimes :=
  HasSoundTimes.finish h survives

theorem HasTimes.fail (h : result.HasTimes) (survives : now.Survives) (error : String) :
    (result.fail error now).HasTimes :=
  HasSoundTimes.finish h survives

end StepResult

theorem Progress.HasTimes.add {progress : Progress} (h : progress.HasTimes) {result : StepResult}
    (new : result.HasTimes) : (progress.add result).HasTimes :=
  List.forall_mem_append.mpr ⟨h, List.forall_mem_singleton.mpr new⟩

namespace Execution

variable {execution : Execution (StateM σ)} {slot : Slot} {slots : List Slot} {progress : Progress}

/-- The times of the result that a step adds are readings of the clock. -/
theorem hasTimes_startStep (clock : ∀ w, (execution.host.now.run w).1.Survives)
    (pending : slot.pending.HasTimes) (before : progress.HasTimes) (w : σ) :
    ((execution.startStep slot progress).run w).1.HasTimes := by
  have started := pending.start (clock w)
  simp only [startStep, run_bind]
  generalize (execution.executeStep progress.made slot.step).run.run _ = ran
  obtain ⟨result, w'⟩ := ran
  cases result with
  | ok output => exact .add before (started.complete (clock _) _ _)
  | error error => exact .add before (started.fail (clock _) _)

theorem hasTimes_runStep (clock : ∀ w, (execution.host.now.run w).1.Survives)
    (pending : slot.pending.HasTimes) (before : progress.HasTimes) (w : σ) :
    ((execution.runStep slot progress).run w).1.HasTimes := by
  simp only [runStep, run_bind]
  split
  · exact .add before pending
  · refine hasTimes_startStep clock pending ?_ _
    exact before

theorem hasTimes_runSteps (clock : ∀ w, (execution.host.now.run w).1.Survives)
    (pending : ∀ slot ∈ slots, slot.pending.HasTimes) (before : progress.HasTimes) (w : σ) :
    ((execution.runSteps slots progress).run w).1.HasTimes := by
  induction slots generalizing progress w with
  | nil => exact before
  | cons slot slots ih =>
    obtain ⟨first, others⟩ := List.forall_mem_cons.mp pending
    rw [runSteps, run_bind]
    exact ih others (hasTimes_runStep clock first before w) _

end Execution

theorem hasTimes_alignResults (steps : List Step) {results : List StepResult}
    (each : ∀ result ∈ results, result.HasTimes) :
    ∀ result ∈ alignResults steps results, result.HasTimes := by
  rw [alignResults]
  split
  · exact each
  · exact List.forall_mem_map.mpr fun step _ => StepResult.hasTimes_pending step

theorem hasTimes_slotsOf {pipeline : Pipeline} {order : List Nat} {run : PipelineRun}
    (each : ∀ result ∈ run.stepResults, result.HasTimes) :
    ∀ slot ∈ slotsOf pipeline order run, slot.pending.HasTimes := by
  have pending := hasTimes_alignResults ((stepsAt pipeline.steps order).map Prod.snd) each
  rw [← map_pending_slotsOf] at pending
  exact List.forall_mem_map.mp pending

/-! ### Runs -/

/-- What stays as it is in a run. -/
structure PipelineRun.IsRunOf (ended run : PipelineRun) : Prop where
  id : ended.id = run.id
  pipelineId : ended.pipelineId = run.pipelineId
  context : ended.context = run.context
  createdAt : ended.createdAt = run.createdAt
  ended : ended.completedAt.isSome = true

theorem Progress.isRunOf_conclude (progress : Progress) (run : PipelineRun) (status : RunStatus)
    (now : Timestamp) : ((progress.conclude run).finish status now).IsRunOf run := by
  rw [conclude]
  split <;> exact ⟨rfl, rfl, rfl, rfl, rfl⟩

theorem Progress.hasTimes_conclude {progress : Progress} {run : PipelineRun}
    (h : run.HasTimes) {now : Timestamp} (survives : now.Survives) (status : RunStatus) :
    ((progress.conclude run).finish status now).HasTimes := by
  rw [conclude]
  split <;> exact ⟨h.1, h.2.finish survives⟩

section

variable (host : Host (StateM σ)) (isCancelled : StateM σ Bool) (settings : EngineSettings)
  (pipeline : Pipeline) {run : PipelineRun} (options : RunOptions) (w : σ)

/-- A run that has started is opened as it is. -/
theorem openRun_run {started : Timestamp} (h : run.startedAt = some started) :
    ((openRun host pipeline run).run w).1 = run := by
  rw [openRun, h]
  rfl

/-- The end of a run is a reading of the clock. -/
theorem endRun_run_clock (run : PipelineRun) (progress : Progress) (w : σ) :
    ∃ v, ((endRun host settings pipeline run options progress).run w).1 =
      (progress.conclude run).finish (progress.conclude run).status (host.now.run v).1 := by
  rw [endRun]
  split
  · exact ⟨_, rfl⟩
  · exact ⟨_, rfl⟩

/-- An execution ends a run and leaves its ids and its context as they are. -/
theorem isRunOf_execute {started : Timestamp} (h : run.startedAt = some started) :
    ((execute host isCancelled settings pipeline run options).run w).1.IsRunOf run := by
  cases resolved : resolveOrder (pipeline.steps.map Node.ofStep) with
  | error cycle =>
    rw [execute_of_error host isCancelled settings run options w resolved,
      openRun_run host pipeline w h]
    exact ⟨rfl, rfl, rfl, rfl, rfl⟩
  | ok order =>
    rw [execute_of_ok host isCancelled settings run options w resolved,
      openRun_run host pipeline w h]
    obtain ⟨now, ended⟩ := endRun_run host settings pipeline run options
      (lastTurn host isCancelled run options ((openRun host pipeline run).run w).2 pipeline order).1
      (lastTurn host isCancelled run options ((openRun host pipeline run).run w).2 pipeline order).2
    rw [ended]
    exact Progress.isRunOf_conclude _ run _ now

/-- The times of a run at its end can be written and read again. -/
theorem hasTimes_execute (clock : ∀ w, (host.now.run w).1.Survives) {started : Timestamp}
    (h : run.startedAt = some started) (times : run.HasTimes)
    (results : ∀ result ∈ run.stepResults, result.HasTimes) :
    ((execute host isCancelled settings pipeline run options).run w).1.HasTimes ∧
      ∀ result ∈ ((execute host isCancelled settings pipeline run options).run w).1.stepResults,
        result.HasTimes := by
  cases resolved : resolveOrder (pipeline.steps.map Node.ofStep) with
  | error cycle =>
    -- The steps that are not run keep the times that they may have from before.
    rw [execute_of_error host isCancelled settings run options w resolved,
      openRun_run host pipeline w h]
    refine ⟨⟨times.1, times.2.finish (clock _)⟩, List.forall_mem_map.mpr fun result hresult => ?_⟩
    exact hasTimes_alignResults _ results result hresult
  | ok order =>
    rw [execute_of_ok host isCancelled settings run options w resolved,
      openRun_run host pipeline w h]
    refine ⟨?_, ?_⟩
    · obtain ⟨v, end_eq⟩ := endRun_run_clock host settings pipeline options run
        (lastTurn host isCancelled run options
          ((openRun host pipeline run).run w).2 pipeline order).1
        (lastTurn host isCancelled run options
          ((openRun host pipeline run).run w).2 pipeline order).2
      rw [end_eq]
      exact Progress.hasTimes_conclude times (clock v) _
    · have none : Progress.HasTimes { error := run.error } :=
        fun _ hmem => absurd hmem List.not_mem_nil
      -- The execution of the steps has the clock of the host.
      have reads (w : σ) :
          ((Execution.ofRun host isCancelled pipeline run options).host.now.run w).1.Survives :=
        clock w
      rw [stepResults_endRun, lastTurn, Execution.reach_length]
      exact Execution.hasTimes_runSteps reads (hasTimes_slotsOf results) none _

/-- **A run at its end can be written and read again**, if its context can, if the clock gives times
that can, and if its records can be counted. -/
theorem isSound_execute (clock : ∀ w, (host.now.run w).1.Survives) {started : Timestamp}
    (h : run.startedAt = some started) (sound : run.IsSound)
    (countable : ((execute host isCancelled settings pipeline run options).run w).1.IsCountable) :
    ((execute host isCancelled settings pipeline run options).run w).1.IsSound := by
  obtain ⟨times, results⟩ := hasTimes_execute host isCancelled settings pipeline options w clock h
    ⟨sound.createdAt, sound.times⟩ fun result hresult => (sound.results result hresult).times
  have same := isRunOf_execute host isCancelled settings pipeline options w h
  refine ⟨times.1, times.2, fun result hresult => ?_, ?_, ?_⟩
  · exact ⟨results result hresult, (countable result hresult).1, (countable result hresult).2⟩
  · exact same.context ▸ sound.nodup
  · exact same.context ▸ sound.finite

end

end RecordFlow
