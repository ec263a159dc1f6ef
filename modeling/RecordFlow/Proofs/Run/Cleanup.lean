import RecordFlow.Proofs.Run.FailedStep

/-!
# What the cleanup of a run leaves behind

At its end a run drops the temporary collections of which it has made a set, and these are the
outputs of its completed steps. But a step creates the collection of its output before it gives
records to it, and the store may refuse these. The step has failed then, and it has made no set. So
the cleanup does not know of the collection, which stays without records.

## Main definitions

* `StrandsAt` — a step has created a collection and has failed to give records to it
* `Strands` — a run has created a collection of which it has made no set

## Main results

* `cleanup_stored` — which new temporary collections are there behind a run that cleans up
* `cleanup_leaves_collection` — a run that leaves one behind
-/

namespace RecordFlow

variable {ω : Type} {env : Environment ω} {name : String}

/-- The step at a position of the order has created the collection of its output, and has then
failed because the store has refused to clear it or to give it the new records. -/
structure StrandsAt (env : Environment ω) (pipeline : Pipeline) (options : RunOptions)
    (order : List Nat) (w : World ω) (run : PipelineRun) (name : String) (s : Nat)
    (refusal : StorageError) : Prop where
  failed : ∃ i result step, ResultAt order run s i result ∧ pipeline.steps[i]? = some step ∧
    step.config.output = name ∧ result.status = .failed ∧
    result.error = some (StepError.storage refusal).message
  refused : env.Refuses ⟨.clear, name⟩ refusal ∨ env.Refuses ⟨.createMany, name⟩ refusal
  absent : (storedInFront env pipeline options order w s).records? name = none
  there : (storedInFront env pipeline options order w (s + 1)).records? name = some []

/-- A run strands a collection: one of its steps does, and no step with this output completes. -/
def Strands (env : Environment ω) (pipeline : Pipeline) (options : RunOptions)
    (w : World ω) (run : PipelineRun) (name : String) : Prop :=
  (∀ result ∈ run.stepResults, result.output = name → result.status ≠ .completed) ∧
  ∃ order s refusal, resolveOrder (pipeline.steps.map Node.ofStep) = .ok order ∧
    StrandsAt env pipeline options order w run name s refusal

namespace Execution

variable {execution : Execution (StateM (World ω))} {slots : List Slot} {w : World ω} {s t : Nat}

/-- The turn of a step that is kept from running changes no collection. -/
theorem Turn.stored_of_blocked {slot : Slot} {progress : Progress} {after : Progress × World ω}
    (inMemory : execution.RunsIn env) (h : execution.Turn slot progress w after)
    (blocked : execution.Blocked slot progress w) : after.2.stored = w.stored := by
  cases h with
  | skipped _ quiet => exact quiet.stored inMemory
  | completed free _ _ => exact absurd blocked free
  | failed free _ _ => exact absurd blocked free

/-- The step at a position has failed and emptied the collection of its output. -/
def EmptiesAt (execution : Execution (StateM (World ω))) (env : Environment ω)
    (slots : List Slot) (w : World ω) (name : String) (s : Nat) : Prop :=
  ∃ slot result refusal, slots[s]? = some slot ∧ slot.step.config.output = name ∧
    (execution.results slots w)[s]? = some result ∧ result.status = .failed ∧
    result.error = some (StepError.storage refusal).message ∧
    IsEmptied env execution.options (execution.reach slots {} w s).1.made slot.step
      (execution.attemptIn slot.step (execution.reach slots {} w s).1
        (execution.reach slots {} w s).2)
      refusal (execution.reach slots {} w (s + 1)).2.stored

theorem EmptiesAt.lt_length (h : execution.EmptiesAt env slots w name s) : s < slots.length := by
  obtain ⟨slot, _, _, hslot, -⟩ := h
  exact (List.getElem?_eq_some_iff.mp hslot).1

theorem EmptiesAt.records?_reach (h : execution.EmptiesAt env slots w name s) :
    (execution.reach slots {} w (s + 1)).2.stored.records? name = some [] := by
  obtain ⟨_, _, _, -, rfl, -, -, -, emptied⟩ := h
  rw [emptied.stored, Collections.records?_put_self]

section

variable (inMemory : execution.RunsIn env)
  (unmade : name ∉ (execution.reach slots {} w slots.length).1.made.map Prod.fst)

include inMemory unmade

/-- A step leaves a collection as it is of which it makes no set, unless it empties it. -/
theorem records?_reach_succ (hs : s < slots.length) :
    (execution.reach slots {} w (s + 1)).2.stored.records? name =
        (execution.reach slots {} w s).2.stored.records? name ∨
      execution.EmptiesAt env slots w name s := by
  obtain ⟨result, hresult, effect⟩ := execution.exists_effect w hs
  have turn := execution.reach_turn {} w hs
  by_cases written : slots[s].step.config.output = name
  · rcases effect.settled with completed | failed | skipped
    · refine absurd ?_ unmade
      refine (mem_made_reach_iff le_rfl).mpr ⟨s, hs, ⟨result, hresult, completed⟩,
        slots[s], ?_, written.symm⟩
      exact List.getElem?_eq_getElem hs
    · rcases turn.stored_of_failed inMemory effect.results failed with
        kept | ⟨refusal, message, emptied⟩
      · exact .inl (by rw [kept])
      · exact .inr ⟨slots[s], result, refusal, List.getElem?_eq_getElem hs, written, hresult,
          failed, message, emptied⟩
    · exact .inl (by rw [turn.stored_of_blocked inMemory (effect.skipped_iff.mp skipped)])
  · exact .inl (turn.records?_of_unwritten inMemory fun _ => Ne.symm written)

/-- A collection that is not there in front of a run is there in front of a step
only if a step has emptied it. -/
theorem records?_reach_of_new (new : w.stored.records? name = none) (hs : s ≤ slots.length) :
    (execution.reach slots {} w s).2.stored.records? name = none ∨
      ∃ t, execution.EmptiesAt env slots w name t ∧
        (execution.reach slots {} w t).2.stored.records? name = none := by
  induction s with
  | zero => exact .inl new
  | succ s ih =>
    -- The step that puts the collection there finds none, and what it leaves is empty.
    refine (ih (by omega)).elim (fun none => ?_) .inr
    rcases records?_reach_succ inMemory unmade hs with kept | emptied
    · exact .inl (kept.trans none)
    · exact .inr ⟨s, emptied, none⟩

/-- A collection without records stays as it is. -/
theorem records?_reach_of_emptied (hst : s ≤ t) (ht : t ≤ slots.length)
    (emptied : (execution.reach slots {} w s).2.stored.records? name = some []) :
    (execution.reach slots {} w t).2.stored.records? name = some [] := by
  induction t, hst using Nat.le_induction with
  | base => exact emptied
  | succ t _ ih =>
    rcases records?_reach_succ inMemory unmade ht with kept | again
    · rw [kept, ih (by omega)]
    · exact again.records?_reach

end

end Execution

section

variable {pipeline : Pipeline} {order : List Nat} (env : Environment ω) (settings : EngineSettings)
  (options : RunOptions) (w : World ω)
  (resolved : resolveOrder (pipeline.steps.map Node.ofStep) = .ok order)

include resolved

/-- The sets that a run has made behind its last step are the outputs of its completed steps. -/
theorem mem_made_runUpTo_iff :
    name ∈ ((runUpTo (memoryHost env)
      (aside env.isCancelled) pipeline options order order.length).run
        w).1.made.map Prod.fst ↔
      ∃ result ∈ ((runPipeline (memoryHost env) (aside env.isCancelled) settings pipeline
        options).run w).1.stepResults, result.status = .completed ∧ result.output = name := by
  have ends :=
    runPipeline_endsWith (memoryHost env) (aside env.isCancelled) settings options w resolved
  rw [runUpTo_run _ _ options w _ resolved, ← length_freshSlots resolved]
  refine ends.mem_made_iff fun slot hslot => ?_
  rw [(mem_freshSlots hslot).2]
  rfl

/-- The collections in front of a step are those that the steps in front of it have left. -/
theorem storedInFront_eq (s : Nat) : storedInFront env pipeline options order w s =
    ((Execution.ofRun (memoryHost env) (aside env.isCancelled) pipeline
      ((beginRun (memoryHost env) pipeline options).run w).1 options).reach
        (freshSlots pipeline order) {}
        ((beginRun (memoryHost env) pipeline options).run w).2 s).2.stored :=
  congrArg (·.2.stored) (runUpTo_run (memoryHost env) (aside env.isCancelled) options w s resolved)

variable (unmade : name ∉
      ((runUpTo (memoryHost env) (aside env.isCancelled) pipeline options order order.length).run
        w).1.made.map Prod.fst)

include unmade

/-- A run strands a collection that is not there in front of a step and that this step empties. -/
theorem strands_of_emptiesAt {s : Nat}
    (emptied : (Execution.ofRun (memoryHost env) (aside env.isCancelled) pipeline
      ((beginRun (memoryHost env) pipeline options).run w).1 options).EmptiesAt env
        (freshSlots pipeline order) ((beginRun (memoryHost env) pipeline options).run w).2 name s)
    (absent : (storedInFront env pipeline options order w s).records? name = none) :
    Strands env pipeline options w
      ((runPipeline (memoryHost env) (aside env.isCancelled) settings pipeline options).run w).1
        name := by
  have ends :=
    runPipeline_endsWith (memoryHost env) (aside env.isCancelled) settings options w resolved
  have incomplete :=
    fun completed => unmade ((mem_made_runUpTo_iff env settings options w resolved).mpr completed)
  have there : (storedInFront env pipeline options order w (s + 1)).records? name = some [] := by
    rw [storedInFront_eq env options w resolved, emptied.records?_reach]
  obtain ⟨slot, result, refusal, hslot, output, hresult, failed, message, emptied⟩ := emptied
  have place := getElem?_order resolved hslot
  have hstep := (mem_freshSlots (List.mem_of_getElem? hslot)).1
  refine ⟨fun result hmem output completed => incomplete ⟨result, hmem, completed, output⟩,
    order, s, refusal, resolved, ?_, output ▸ emptied.refuses.symm, absent, there⟩
  exact ⟨slot.place, result, slot.step, ⟨place, ends.stepResults ▸ hresult⟩,
    hstep, output, failed, message⟩

/-- A collection of which a run has made no set, and which was not there before, is there behind its
last step if the run strands it, and only then. It has no records then. -/
theorem records?_storedInFront_cases (new : w.stored.records? name = none) :
    let run :=
      ((runPipeline (memoryHost env) (aside env.isCancelled) settings pipeline options).run w).1
    let left := (storedInFront env pipeline options order w order.length).records? name
    left = none ∧ ¬Strands env pipeline options w run name ∨
      left = some [] ∧ Strands env pipeline options w run name := by
  intro run left
  have ends :=
    runPipeline_endsWith (memoryHost env) (aside env.isCancelled) settings options w resolved
  have inMemory :=
    Execution.runsIn_ofRun env pipeline
      ((beginRun (memoryHost env) pipeline options).run w).1 options
  have reached := storedInFront_eq env options w resolved
  have unmade' := unmade
  rw [runUpTo_run _ _ options w _ resolved, ← length_freshSlots resolved] at unmade'
  have stays {s : Nat} (hs : s ≤ order.length)
      (emptied : (storedInFront env pipeline options order w s).records? name = some []) :
      left = some [] := by
    rw [reached] at emptied
    rw [show left = _ from congrArg (Collections.records? · name) (reached _)]
    rw [← length_freshSlots resolved] at hs ⊢
    exact Execution.records?_reach_of_emptied inMemory unmade' hs le_rfl emptied
  rcases Execution.records?_reach_of_new inMemory unmade' new le_rfl with
    none | ⟨s, emptied, absent⟩
  · rw [length_freshSlots resolved, ← reached] at none
    refine .inl ⟨none, fun strands => ?_⟩
    obtain ⟨-, order', s, refusal, resolved', strandsAt⟩ := strands
    obtain rfl := Except.ok.inj (resolved.symm.trans resolved')
    obtain ⟨i, result, step, at_s, -⟩ := strandsAt.failed
    obtain ⟨hs, -, -⟩ := ends.exists_slot (map_place_freshSlots resolved) at_s
    -- What the step has left without records would be there still.
    cases none.symm.trans (stays (length_freshSlots resolved ▸ hs) strandsAt.there)
  · rw [← reached] at absent
    refine .inr ⟨stays (length_freshSlots resolved ▸ emptied.lt_length) ?_,
      strands_of_emptiesAt env settings options w resolved unmade emptied absent⟩
    rw [reached, emptied.records?_reach]

end

/-- **What the cleanup of a run leaves behind.** Whatever the store refuses and whenever the run is
cancelled, if only the store never refuses to look for a temporary collection and to drop it: behind
a run that cleans up, the collection is not there if it was not there before, unless the run strands
it. Then it is there and has no records. A run strands no collection that the store refuses neither
to clear nor to give records to. -/
theorem cleanup_stored (env : Environment ω) (settings : EngineSettings)
    (pipeline : Pipeline) (options : RunOptions) (w : World ω) (cleanup : options.cleanup = true)
    (drops : env.AlwaysDrops name) (temporary : isTemporary settings name = true)
    (new : w.stored.records? name = none) :
    let ended :=
      (runPipeline (memoryHost env) (aside env.isCancelled) settings pipeline options).run w
    (ended.2.stored.records? name = none ↔ ¬Strands env pipeline options w ended.1 name) ∧
    (Strands env pipeline options w ended.1 name → ended.2.stored.records? name = some []) ∧
    ((∀ error, ¬env.Refuses ⟨.clear, name⟩ error ∧ ¬env.Refuses ⟨.createMany, name⟩ error) →
      ended.2.stored.records? name = none) := by
  intro ended
  suffices ended.2.stored.records? name = none ∧ ¬Strands env pipeline options w ended.1 name ∨
      ended.2.stored.records? name = some [] ∧ Strands env pipeline options w ended.1 name by
    rcases this with ⟨gone, notStranded⟩ | ⟨there, strands⟩
    · exact ⟨iff_of_true gone notStranded, fun strands => absurd strands notStranded, fun _ => gone⟩
    · refine ⟨iff_of_false (by simp [there]) (not_not.mpr strands), fun _ => there, fun fills => ?_⟩
      obtain ⟨-, _, _, refusal, -, strandsAt⟩ := strands
      exact strandsAt.refused.elim (absurd · (fills refusal).1) (absurd · (fills refusal).2)
  cases resolved : resolveOrder (pipeline.steps.map Node.ofStep) with
  | error cycle =>
    refine .inl ⟨?_, fun ⟨_, _, _, _, resolved', _⟩ => ?_⟩
    · simp only [ended, runPipeline_of_error _ _ settings options w resolved]
      exact new
    · cases resolved.symm.trans resolved'
  | ok order =>
    have course :=
      runPipeline_of_ok (memoryHost env) (aside env.isCancelled) settings options w resolved
    obtain ⟨gone, hgone, hall, hstored⟩ := stored_endRun env settings pipeline
      ((beginRun (memoryHost env) pipeline options).run w).1 options
      ((runUpTo (memoryHost env) (aside env.isCancelled) pipeline options order order.length).run
        w).1
      ((runUpTo (memoryHost env) (aside env.isCancelled) pipeline options order order.length).run
        w).2
    rw [← course] at hstored
    by_cases made : name ∈ ((runUpTo (memoryHost env) (aside env.isCancelled) pipeline options order
        order.length).run w).1.made.map Prod.fst
    · -- A set of this name makes the run drop the collection, whether or not
      -- a step has stranded it before.
      refine .inl ⟨?_, fun strands => ?_⟩
      · rw [hstored, Collections.records?_removeAll_of_mem (hall name drops cleanup temporary made)]
      · obtain ⟨result, hmem, completed, output⟩ :=
          (mem_made_runUpTo_iff env settings options w resolved).mp made
        exact strands.1 result hmem output completed
    · rw [hstored, Collections.records?_removeAll_of_not_mem fun hmem => made (hgone name hmem).2.2]
      exact records?_storedInFront_cases env settings options w resolved made new

/-- Surroundings in which one operation fails refuse nothing else. -/
theorem Environment.refuses_refusing {call other : StoreCall} {error failure : StorageError}
    (h : (Environment.refusing call error).Refuses other failure) : other = call := by
  obtain ⟨around, refused⟩ := h
  by_contra different
  change (if other = call then some error else none) = some failure at refused
  rw [if_neg different] at refused
  cases refused

/-- A store that takes no new records for one temporary collection. -/
def fullTemporary : Environment Unit := .refusing ⟨.createMany, "_tmp_copied"⟩ (.failed "disk full")

theorem alwaysDrops_fullTemporary (name : String) : fullTemporary.AlwaysDrops name :=
  fun _ => ⟨fun h => absurd (Environment.refuses_refusing h) (by simp),
    fun h => absurd (Environment.refuses_refusing h) (by simp)⟩

/-- Two steps with temporary outputs, of which the first one cannot be filled. -/
def copyTwice : Pipeline :=
  .ofSteps [.passOn "copy" "users" "_tmp_copied", .passOn "again" "users" "_tmp_again"]

/-- The options of a run that cleans up and goes on behind a step that has failed. -/
def goOnAndCleanUp : RunOptions := { cleanup := true, continueOnError := true }

/-- A store with the source of the steps. -/
def usersOnly : World Unit := ⟨[("users", [])], ()⟩

/-- What is stored behind a run of the two steps. -/
def storedByCopyTwice : Collections :=
  ((runPipeline (memoryHost fullTemporary) (aside fullTemporary.isCancelled) {} copyTwice
    goOnAndCleanUp).run usersOnly).2.stored

theorem cleanup_stored_copyTwice :
    goOnAndCleanUp.cleanup = true ∧ fullTemporary.AlwaysDrops "_tmp_again" ∧
      isTemporary {} "_tmp_again" = true ∧ usersOnly.stored.records? "_tmp_again" = none ∧
        storedByCopyTwice.records? "_tmp_again" = none := by
  have drops := alwaysDrops_fullTemporary "_tmp_again"
  have temporary : isTemporary {} "_tmp_again" = true := by decide
  have new : usersOnly.stored.records? "_tmp_again" = none := rfl
  refine ⟨rfl, drops, temporary, new, ?_⟩
  have left :=
    cleanup_stored fullTemporary {} copyTwice goOnAndCleanUp usersOnly rfl drops temporary new
  refine left.2.2 fun error => ?_
  exact ⟨fun h => absurd (Environment.refuses_refusing h) (by simp),
    fun h => absurd (Environment.refuses_refusing h) (by simp)⟩

/-- A collection that was not there before stays behind a run that cleans up, although
the store drops everything. -/
theorem cleanup_leaves_collection :
    goOnAndCleanUp.cleanup = true ∧ goOnAndCleanUp.dryRun = false ∧
      fullTemporary.AlwaysDrops "_tmp_copied" ∧ isTemporary {} "_tmp_copied" = true ∧
        usersOnly.stored.records? "_tmp_copied" = none ∧
      storedByCopyTwice.records? "_tmp_copied" ≠ none := by
  refine ⟨rfl, rfl, alwaysDrops_fullTemporary _, by decide, rfl, fun none => ?_⟩
  have there : (storedByCopyTwice.records? "_tmp_copied").isSome = true := by decide +kernel
  rw [none] at there
  cases there

end RecordFlow
