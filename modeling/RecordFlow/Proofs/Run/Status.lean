import RecordFlow.Proofs.Run.NewRun
import RecordFlow.Proofs.Store.Collections

/-!
# How the steps of a run fare

Which steps of a run are skipped follows from three things: the checks for cancellation,
the steps that have failed in front of them, and the dependencies between the steps. In an
order in which every step stands behind what it needs, no step is therefore started unless
all that it needs is completed.

## Main definitions

* `Execution.StatusAt` — how a step fares
* `Execution.StoppedAt` — the check in front of a step finds the run cancelled

## Main results

* `Execution.statusAt_skipped_iff` — the rule
* `Execution.statusAt_completed_of_needs` — what a step that was started needs is completed
* `Execution.statusAt_skipped_iff_of_continueOnError` — what is skipped
  when a run continues on errors
* `Execution.error_reach_of_first_failure` — the error of a run is its first failure
-/

namespace RecordFlow

variable {σ : Type} {i p s t : Nat}

namespace Execution

variable {execution : Execution (StateM σ)} {slots : List Slot} {w : σ}

/-- The results of a new run of some steps. -/
def results (execution : Execution (StateM σ)) (slots : List Slot) (w : σ) : List StepResult :=
  (execution.reach slots {} w slots.length).1.results

/-- The result at a position has a status. -/
def StatusAt (execution : Execution (StateM σ)) (slots : List Slot) (w : σ) (s : Nat)
    (status : StepStatus) : Prop :=
  ∃ result, (execution.results slots w)[s]? = some result ∧ result.status = status

/-- The run is found cancelled by the check that is made in front of the step at a position. -/
def StoppedAt (execution : Execution (StateM σ)) (slots : List Slot) (w : σ) (s : Nat) : Prop :=
  (execution.isCancelled.run (execution.reach slots {} w s).2).1 = true

/-! ### One step after the other -/

theorem length_results (execution : Execution (StateM σ)) (slots : List Slot) (w : σ) :
    (execution.results slots w).length = slots.length :=
  (execution.length_results_reach {} w le_rfl).trans (Nat.zero_add _)

/-- The turn of every step of a run, with the result that the run has for it in the end. -/
theorem exists_effect (execution : Execution (StateM σ)) (w : σ) (hs : s < slots.length) :
    ∃ result, (execution.results slots w)[s]? = some result ∧
      execution.Effect slots[s] (execution.reach slots {} w s).1 (execution.reach slots {} w s).2
        (execution.reach slots {} w (s + 1)).1 result := by
  obtain ⟨result, effect⟩ := (execution.reach_turn {} w hs).exists_effect
  have length : (execution.reach slots {} w s).1.results.length = s :=
    (execution.length_results_reach {} w hs.le).trans (Nat.zero_add _)
  have kept := execution.results_reach_prefix {} w hs le_rfl
  rw [Nat.succ_eq_add_one, effect.results] at kept
  refine ⟨result, ?_, effect⟩
  have := List.prefix_iff_getElem?.mp kept s (by simp [length])
  simpa [results, length] using this

/-- The turn behind a result of a run. -/
theorem effect_of_result {result : StepResult}
    (hresult : (execution.results slots w)[s]? = some result) : ∃ hs : s < slots.length,
      execution.Effect slots[s] (execution.reach slots {} w s).1 (execution.reach slots {} w s).2
        (execution.reach slots {} w (s + 1)).1 result := by
  have hs : s < slots.length := by
    rw [← execution.length_results slots w]
    exact (List.getElem?_eq_some_iff.mp hresult).1
  obtain ⟨same, hsame, effect⟩ := execution.exists_effect w hs
  obtain rfl : result = same := Option.some.inj (hresult.symm.trans hsame)
  exact ⟨hs, effect⟩

/-- The turn that has added a result of a run. -/
theorem turn_of_result {result : StepResult}
    (hresult : (execution.results slots w)[s]? = some result) : ∃ hs : s < slots.length,
      execution.Turn slots[s] (execution.reach slots {} w s).1 (execution.reach slots {} w s).2
        (execution.reach slots {} w (s + 1)) ∧
      (execution.reach slots {} w (s + 1)).1.results =
        (execution.reach slots {} w s).1.results ++ [result] := by
  obtain ⟨hs, effect⟩ := effect_of_result hresult
  exact ⟨hs, execution.reach_turn {} w hs, effect.results⟩

/-- The results are those of the steps that waited for their turn. -/
theorem map_stepId_results (execution : Execution (StateM σ)) (slots : List Slot) (w : σ) :
    (execution.results slots w).map StepResult.stepId = slots.map (·.pending.stepId) := by
  refine List.ext_getElem (by simp [length_results]) fun s _ hlt => ?_
  have hs : s < slots.length := by simpa using hlt
  obtain ⟨result, hresult, effect⟩ := execution.exists_effect w hs
  obtain ⟨_, rfl⟩ := List.getElem?_eq_some_iff.mp hresult
  simpa using effect.stepId

theorem statusAt_iff {status : StepStatus} {result : StepResult}
    (h : (execution.results slots w)[s]? = some result) :
    execution.StatusAt slots w s status ↔ result.status = status := by
  simp [StatusAt, h]

theorem StatusAt.lt {status : StepStatus} (h : execution.StatusAt slots w s status) :
    s < slots.length := by
  obtain ⟨result, hresult, -⟩ := h
  exact (effect_of_result hresult).1

theorem StatusAt.unique {status status' : StepStatus} (h : execution.StatusAt slots w s status)
    (h' : execution.StatusAt slots w s status') : status = status' := by
  obtain ⟨result, hresult, rfl⟩ := h
  exact (statusAt_iff hresult).mp h'

/-- Every step ends in one of three ways. -/
theorem statusAt_cases (execution : Execution (StateM σ)) (w : σ) (hs : s < slots.length) :
    execution.StatusAt slots w s .completed ∨ execution.StatusAt slots w s .failed ∨
      execution.StatusAt slots w s .skipped := by
  obtain ⟨result, hresult, effect⟩ := execution.exists_effect w hs
  simpa only [statusAt_iff hresult] using effect.settled

/-- A run is cancelled when it comes to a step if a check in front of
an earlier step found it so. -/
theorem cancelled_reach_iff (hs : s ≤ slots.length) :
    (execution.reach slots {} w s).1.cancelled = true ↔ ∃ t < s, execution.StoppedAt slots w t := by
  induction s with
  | zero => simp
  | succ s ih =>
    obtain ⟨result, -, effect⟩ := execution.exists_effect w hs
    rw [effect.cancelled, isStopped, Bool.or_eq_true, ih (by omega), Nat.exists_lt_succ_right]
    rfl

/-- The tainted places in front of a step are those that need a step that has failed. -/
theorem mem_tainted_reach_iff (hs : s ≤ slots.length) :
    i ∈ (execution.reach slots {} w s).1.tainted ↔ ∃ t < s, execution.StatusAt slots w t .failed ∧
      ∃ slot, slots[t]? = some slot ∧ i ∈ dependents execution.nodes slot.place := by
  induction s with
  | zero => simp
  | succ s ih =>
    obtain ⟨result, hresult, effect⟩ := execution.exists_effect w hs
    rw [effect.mem_tainted_iff, ih (by omega), Nat.exists_lt_succ_right, statusAt_iff hresult]
    simp [List.getElem?_eq_getElem (Nat.lt_of_succ_le hs)]

/-- The sets that a run has made in front of a step are the outputs of its completed steps. -/
theorem mem_made_reach_iff {name : String} (hs : s ≤ slots.length) :
    name ∈ (execution.reach slots {} w s).1.made.map Prod.fst ↔
      ∃ t < s, execution.StatusAt slots w t .completed ∧
        ∃ slot, slots[t]? = some slot ∧ name = slot.step.config.output := by
  induction s with
  | zero => simp
  | succ s ih =>
    obtain ⟨result, hresult, effect⟩ := execution.exists_effect w hs
    rw [Nat.exists_lt_succ_right, ← ih (by omega), statusAt_iff hresult]
    by_cases completed : result.status = .completed
    · obtain ⟨records, hmade, -⟩ := effect.made_of_completed completed
      rw [hmade, Collections.mem_put_iff]
      simp [completed, List.getElem?_eq_getElem (Nat.lt_of_succ_le hs)]
    · simp [effect.made_of_not_completed completed, completed]

/-- A run is halted in front of a step if one has failed and it does not continue on errors. -/
theorem halted_reach_iff (hs : s ≤ slots.length) :
    (execution.reach slots {} w s).1.halted = true ↔
      execution.options.continueOnError = false ∧
        ∃ t < s, execution.StatusAt slots w t .failed := by
  induction s with
  | zero => simp
  | succ s ih =>
    obtain ⟨result, hresult, effect⟩ := execution.exists_effect w hs
    rw [effect.halted_iff, ih (by omega), Nat.exists_lt_succ_right, statusAt_iff hresult]
    exact (and_or_left.trans (or_congr_right and_comm)).symm

/-- Whether a step is skipped: a check has found the run cancelled, a failure in front of it has
halted the run, or it needs a step that has failed. -/
theorem statusAt_skipped_iff (hs : s < slots.length) :
    execution.StatusAt slots w s .skipped ↔
      (∃ t < s + 1, execution.StoppedAt slots w t) ∨
      (execution.options.continueOnError = false ∧ ∃ t < s, execution.StatusAt slots w t .failed) ∨
      (∃ t < s, execution.StatusAt slots w t .failed ∧ ∃ slot, slots[t]? = some slot ∧
        slots[s].place ∈ dependents execution.nodes slot.place) := by
  obtain ⟨result, hresult, effect⟩ := execution.exists_effect w hs
  rw [statusAt_iff hresult, effect.skipped_iff, Blocked, isStopped, Bool.or_eq_true,
    cancelled_reach_iff hs.le, halted_reach_iff hs.le, mem_tainted_reach_iff hs.le,
    Nat.exists_lt_succ_right]
  rfl

/-- A step is only skipped if the run has been cancelled or a step in front of it has failed. -/
theorem StatusAt.cause_of_skipped (skipped : execution.StatusAt slots w s .skipped) :
    (∃ t < s + 1, execution.StoppedAt slots w t) ∨
      ∃ t < s, execution.StatusAt slots w t .failed := by
  rcases (statusAt_skipped_iff skipped.lt).mp skipped with
    stopped | ⟨-, failed⟩ | ⟨t, ht, failed, -⟩
  · exact .inl stopped
  · exact .inr failed
  · exact .inr ⟨t, ht, failed⟩

/-- A run has an error in front of a step if one has failed. -/
theorem error_reach_eq_none_iff (hs : s ≤ slots.length) :
    (execution.reach slots {} w s).1.error = none ↔
      ∀ t < s, ¬ execution.StatusAt slots w t .failed := by
  induction s with
  | zero => simp
  | succ s ih =>
    obtain ⟨result, hresult, effect⟩ := execution.exists_effect w hs
    rw [Nat.forall_lt_succ_right, statusAt_iff hresult, ← ih (by omega)]
    by_cases failed : result.status = .failed
    · obtain ⟨error, -, herror⟩ := effect.error_of_failed failed
      simp [herror, failed]
    · simp [effect.error_of_not_failed failed, failed]

/-- The error of a run is that of the first step that has failed. -/
theorem error_reach_of_first_failure (hs : s < slots.length)
    (failed : execution.StatusAt slots w s .failed)
    (first : ∀ t < s, ¬ execution.StatusAt slots w t .failed) (hst : s < t)
    (ht : t ≤ slots.length) :
    ∃ (result : StepResult) (error : StepError), (execution.results slots w)[s]? = some result ∧
      result.error = some error.message ∧
      (execution.reach slots {} w t).1.error = some (failureText slots[s].step error) := by
  induction t, hst using Nat.le_induction with
  | base =>
    obtain ⟨result, hresult, effect⟩ := execution.exists_effect w hs
    obtain ⟨error, hmessage, herror⟩ := effect.error_of_failed ((statusAt_iff hresult).mp failed)
    refine ⟨result, error, hresult, hmessage, ?_⟩
    rw [herror, (error_reach_eq_none_iff hs.le).mpr first]
    rfl
  | succ t hst ih =>
    obtain ⟨result, error, hresult, hmessage, herror⟩ := ih (by omega)
    refine ⟨result, error, hresult, hmessage, ?_⟩
    obtain ⟨last, -, effect⟩ := execution.exists_effect w ht
    by_cases again : last.status = .failed
    · obtain ⟨_, -, hlater⟩ := effect.error_of_failed again
      rw [hlater, herror]
      rfl
    · rw [effect.error_of_not_failed again, herror]

/-! ### Steps in the order of their dependencies -/

/-- The slot of what a step needs stands in front of it. -/
theorem exists_slot_of_needs (scheduled : Scheduled execution.nodes (slots.map Slot.place))
    (hs : s < slots.length) (hp : Needs execution.nodes slots[s].place p) :
    ∃ t < s, ∃ slot, slots[t]? = some slot ∧ slot.place = p := by
  have := scheduled.mem_take_of_needs (s := s) (by simpa using hs) (by simpa using hp)
  obtain ⟨t, ht, rfl⟩ := List.mem_take_iff_getElem.mp this
  have ht' : t < s ∧ t < slots.length := by simpa using ht
  exact ⟨t, ht'.1, slots[t], List.getElem?_eq_getElem ht'.2, by simp⟩

/-- No step needs itself. -/
theorem needs_ne (scheduled : Scheduled execution.nodes (slots.map Slot.place))
    (hs : s < slots.length) (hp : Needs execution.nodes slots[s].place p) : slots[s].place ≠ p := by
  rintro rfl
  exact scheduled.not_isStuck (List.mem_map.mpr ⟨slots[s], List.getElem_mem hs, rfl⟩)
    (OnCycle.isStuck hp)

/-- What a step that was started needs is completed, and stands in front of it. -/
theorem statusAt_completed_of_needs (scheduled : Scheduled execution.nodes (slots.map Slot.place))
    (hs : s < slots.length) (started : ¬ execution.StatusAt slots w s .skipped)
    (hp : Needs execution.nodes slots[s].place p) :
    ∃ t < s, execution.StatusAt slots w t .completed ∧
      ∃ slot, slots[t]? = some slot ∧ slot.place = p := by
  obtain ⟨t, hts, slot, hslot, rfl⟩ := exists_slot_of_needs scheduled hs hp
  refine ⟨t, hts, ?_, slot, hslot, rfl⟩
  obtain ⟨ht, rfl⟩ := List.getElem?_eq_some_iff.mp hslot
  rw [statusAt_skipped_iff hs] at started
  push Not at started
  obtain ⟨notStopped, notHalted, notTainted⟩ := started
  rcases execution.statusAt_cases w ht with completed | failed | skipped
  · exact completed
  · -- A step that has failed taints what needs it.
    refine absurd ?_ (notTainted t hts failed slots[t] hslot)
    exact mem_dependents_iff.mpr ⟨needs_ne scheduled hs hp, hp⟩
  · -- What has kept the step at `t` from running keeps the one at `s` from running too.
    rcases (statusAt_skipped_iff ht).mp skipped with ⟨u, hu, stopped⟩ | ⟨halts, u, hu, failed⟩ |
      ⟨u, hu, failed, cause, hcause, tainted⟩
    · exact absurd stopped (notStopped u (by omega))
    · exact absurd failed (notHalted halts u (by omega))
    · obtain ⟨-, needs⟩ := mem_dependents_iff.mp tainted
      have through := hp.trans needs
      refine absurd ?_ (notTainted u (by omega) failed cause hcause)
      exact mem_dependents_iff.mpr ⟨needs_ne scheduled hs through, through⟩

/-- In a run that continues on errors and is not cancelled the skipped steps are those
that need one that has failed. -/
theorem statusAt_skipped_iff_of_continueOnError
    (scheduled : Scheduled execution.nodes (slots.map Slot.place)) (hs : s < slots.length)
    (continues : execution.options.continueOnError = true)
    (notStopped : ∀ t < slots.length, ¬ execution.StoppedAt slots w t) :
    execution.StatusAt slots w s .skipped ↔ ∃ t, execution.StatusAt slots w t .failed ∧
      ∃ slot, slots[t]? = some slot ∧ Needs execution.nodes slots[s].place slot.place := by
  rw [statusAt_skipped_iff hs]
  constructor
  · rintro (⟨t, ht, stopped⟩ | ⟨halts, -⟩ | ⟨t, -, failed, slot, hslot, tainted⟩)
    · exact absurd stopped (notStopped t (by omega))
    · rw [continues] at halts
      cases halts
    · exact ⟨t, failed, slot, hslot, (mem_dependents_iff.mp tainted).2⟩
  · rintro ⟨t, failed, slot, hslot, needs⟩
    obtain ⟨u, hus, other, hother, same⟩ := exists_slot_of_needs scheduled hs needs
    obtain ⟨ht, rfl⟩ := List.getElem?_eq_some_iff.mp hslot
    obtain ⟨hu, rfl⟩ := List.getElem?_eq_some_iff.mp hother
    obtain rfl : u = t := by
      refine (List.getElem?_inj ?_ scheduled.nodup).mp ?_
      · simpa using hu
      · simpa [List.getElem?_eq_getElem hu, List.getElem?_eq_getElem ht] using same
    exact .inr (.inr ⟨u, hus, failed, slots[u], hother, mem_dependents_iff.mpr
      ⟨needs_ne scheduled hs needs, needs⟩⟩)

/-- In a run that halts on errors all steps in front of one that has failed are completed. -/
theorem statusAt_completed_of_lt_failed (halts : execution.options.continueOnError = false)
    (failed : execution.StatusAt slots w s .failed) (hts : t < s) :
    execution.StatusAt slots w t .completed := by
  have started : ¬ execution.StatusAt slots w s .skipped := fun h => by
    cases failed.unique h
  rw [statusAt_skipped_iff failed.lt] at started
  push Not at started
  obtain ⟨notStopped, notHalted, -⟩ := started
  have ht := hts.trans failed.lt
  rcases execution.statusAt_cases w ht with completed | failed | skipped
  · exact completed
  · exact absurd failed (notHalted halts t hts)
  · rcases skipped.cause_of_skipped with ⟨u, hu, stopped⟩ | ⟨u, hu, failed⟩
    · exact absurd stopped (notStopped u (by omega))
    · exact absurd failed (notHalted halts u (by omega))

/-- In a run that halts on errors all steps behind one that has failed are skipped. -/
theorem statusAt_skipped_of_failed_lt (halts : execution.options.continueOnError = false)
    (failed : execution.StatusAt slots w s .failed) (hst : s < t) (ht : t < slots.length) :
    execution.StatusAt slots w t .skipped :=
  (statusAt_skipped_iff ht).mpr (.inr (.inl ⟨halts, s, hst, failed⟩))

/-- Unless a run is cancelled or a step has failed, all steps are completed. -/
theorem statusAt_completed (notStopped : ∀ t < slots.length, ¬ execution.StoppedAt slots w t)
    (notFailed : ∀ t, ¬ execution.StatusAt slots w t .failed) (hs : s < slots.length) :
    execution.StatusAt slots w s .completed := by
  rcases execution.statusAt_cases w hs with completed | failed | skipped
  · exact completed
  · exact absurd failed (notFailed s)
  · rcases skipped.cause_of_skipped with ⟨t, ht, stopped⟩ | ⟨t, -, failed⟩
    · exact absurd stopped (notStopped t (by omega))
    · exact absurd failed (notFailed t)

end Execution

end RecordFlow
