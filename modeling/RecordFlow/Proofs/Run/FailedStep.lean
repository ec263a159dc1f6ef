import RecordFlow.Proofs.Run.NewRun
import RecordFlow.Proofs.Run.Outcome
import RecordFlow.Proofs.Run.Persistence

/-!
# What a failed step leaves in a store

A step replaces the collection of its output by several operations, and none of them is undone
when a later one is refused. So a step that fails leaves all collections but that of its output
as they were; of its output, too, unless the store has refused the new records or, for a
collection that the step has just created, to clear it. Then the collection is there without
records, whatever it has had before.

## Main definitions

* `MeetsRefusal` — the store refuses an operation that a step asks it for
* `IsEmptied` — the collection of an output has lost its records to a refusal

## Main results

* `executeStep_stored_of_error` — what a step that fails does to a store
* `failedStep_stored` — the collections behind a failed step of a run are those in
  front of it, but for its output
* `failedStep_loses_records` — a failed step behind which records are gone
-/

namespace RecordFlow

variable {ω : Type} {env : Environment ω}

/-- A step that is attempted in some surroundings has made its records and comes to replace the
collection of its output. Of the operations that this takes, the store grants those in front of the
given one, and refuses that one. -/
structure MeetsRefusal (env : Environment ω) (options : RunOptions)
    (made : Collections) (step : Step) (w : World ω) (call : StoreCall)
    (error : StorageError) : Prop where
  wet : options.dryRun = false
  free : isReserved step.config.output = false
  refused : ∃ output v,
    (executeConfig (memoryHost env) made step.config).run.run w = (.ok output, v) ∧
    ((env.firstRefusal? (replacementCalls w.stored step.config.output)).run v.around).1 =
      some (call, error)

/-- A step that is attempted in some surroundings leaves the collection of its output there
without records, because the store has refused the new ones, or to clear the collection
when it had just been created. -/
structure IsEmptied (env : Environment ω) (options : RunOptions) (made : Collections) (step : Step)
    (w : World ω) (error : StorageError) (after : Collections) : Prop where
  refused : ∃ call, MeetsRefusal env options made step w call error ∧
    LeavesEmpty w.stored step.config.output call
  stored : after = w.stored.put step.config.output []

namespace IsEmptied

variable {options : RunOptions} {made after : Collections} {step : Step} {w : World ω}
  {error : StorageError}

theorem records?_of_ne {other : String} (h : IsEmptied env options made step w error after)
    (different : other ≠ step.config.output) : after.records? other = w.stored.records? other := by
  rw [h.stored, Collections.records?_put_of_ne different]

theorem refuses (h : IsEmptied env options made step w error after) :
    env.Refuses ⟨.createMany, step.config.output⟩ error ∨
      env.Refuses ⟨.clear, step.config.output⟩ error := by
  obtain ⟨call, meets, late⟩ := h.refused
  obtain ⟨_, _, -, first⟩ := meets.refused
  have refuses := Environment.refuses_of_firstRefusal? first
  rcases late with rfl | ⟨rfl, -⟩
  · exact .inl refuses
  · exact .inr refuses

end IsEmptied

namespace Execution

variable {execution : Execution (StateM (World ω))} {slot : Slot} {slots : List Slot}
  {progress : Progress} {w w' : World ω} {made : Collections} {step : Step} {s : Nat}

/-- A step that is refused an operation fails with that refusal. It empties the collection of its
output if the refusal of this operation leaves it empty. -/
theorem executeStep_of_meetsRefusal {call : StoreCall} {refusal : StorageError}
    (inMemory : execution.RunsIn env)
    (meets : MeetsRefusal env execution.options made step w call refusal) :
    ∃ w', (execution.executeStep made step).run.run w = (.error (.storage refusal), w') ∧
      (LeavesEmpty w.stored step.config.output call →
        w'.stored = w.stored.put step.config.output []) := by
  obtain ⟨output, v, computed, first⟩ := meets.refused
  have kept := keeps_executeConfig env made step.config w
  rw [executeStep, inMemory.host, run_exceptBind]
  simp only [computed] at kept
  simp only [computed, meets.wet, Bool.not_false, if_true]
  rw [← kept] at first ⊢
  rw [run_exceptBind]
  have replacement := persist_replacement env step.config.output output.records v
  generalize (persist (memoryHost env).store step.config.output output.records).run.run v = ended
    at replacement
  cases replacement with
  | reserved reserved => cases meets.free.symm.trans reserved
  | done _ granted =>
    rw [granted] at first
    cases first
  | refused _ refused early =>
    rw [refused] at first
    obtain ⟨rfl, rfl⟩ := Prod.mk.inj (Option.some.inj first)
    exact ⟨_, rfl, fun late => absurd late early⟩
  | emptied _ refused _ =>
    rw [refused] at first
    obtain ⟨rfl, rfl⟩ := Prod.mk.inj (Option.some.inj first)
    exact ⟨_, rfl, fun _ => rfl⟩

/-- A step that fails leaves all collections as they are, unless it empties that of its output. -/
theorem executeStep_stored_of_error {error : StepError} (inMemory : execution.RunsIn env)
    (ran : (execution.executeStep made step).run.run w = (.error error, w')) :
    w'.stored = w.stored ∨ ∃ refusal, error = .storage refusal ∧
      IsEmptied env execution.options made step w refusal w'.stored := by
  -- To compute the output leaves the store as it is, so only its replacement matters.
  have kept := keeps_executeConfig env made step.config w
  rw [executeStep, inMemory.host, run_exceptBind] at ran
  generalize computed :
    (executeConfig (memoryHost env) made step.config).run.run w = ended at ran kept
  obtain ⟨result, v⟩ := ended
  cases result with
  | error failure =>
    obtain ⟨-, rfl⟩ := Prod.mk.inj ran
    exact .inl kept
  | ok output =>
    cases wet : execution.options.dryRun with
    | true =>
      simp only [wet] at ran
      cases ran
    | false =>
      simp only [wet, Bool.not_false, if_true] at ran
      rw [run_exceptBind] at ran
      have replacement := persist_replacement env step.config.output output.records v
      generalize (persist (memoryHost env).store step.config.output output.records).run.run v =
        ended at ran replacement
      cases replacement with
      | done _ _ => cases ran
      | reserved _ =>
        obtain ⟨-, rfl⟩ := Prod.mk.inj ran
        exact .inl kept
      | refused _ _ _ =>
        obtain ⟨-, rfl⟩ := Prod.mk.inj ran
        exact .inl kept
      | @emptied _ call refusal free refused late =>
        obtain ⟨same, rfl⟩ := Prod.mk.inj ran
        change v.stored = w.stored at kept
        rw [kept] at refused late ⊢
        refine .inr ⟨refusal, (Except.error.inj same).symm,
          ⟨call, ⟨wet, free, output, v, computed, ?_⟩, late⟩, rfl⟩
        rw [refused]

/-- Behind the turn of a step that has failed, all collections are as in front of it, unless the
step has emptied that of its output. -/
theorem Turn.stored_of_failed {after : Progress × World ω} {result : StepResult}
    (inMemory : execution.RunsIn env) (h : execution.Turn slot progress w after)
    (added : after.1.results = progress.results ++ [result]) (failed : result.status = .failed) :
    after.2.stored = w.stored ∨ ∃ refusal, result.error = some (StepError.storage refusal).message ∧
      IsEmptied env execution.options progress.made slot.step
        (execution.attemptIn slot.step progress w) refusal after.2.stored := by
  obtain ⟨-, w₁, error, ran, quiet, hmessage⟩ :=
    (h.result_cases added).resolve_left fun other => other.1 failed
  rw [quiet.stored inMemory, ← stored_attemptIn inMemory slot.step progress w, hmessage]
  rcases executeStep_stored_of_error inMemory ran with kept | ⟨refusal, rfl, emptied⟩
  · exact .inl kept
  · exact .inr ⟨refusal, rfl, emptied⟩

/-- A refusal that a step meets is the failure that its result tells. If it leaves the collection of
the output empty, that is what is behind the turn of the step. -/
theorem Turn.of_meetsRefusal {after : Progress × World ω} {result : StepResult}
    (inMemory : execution.RunsIn env) (h : execution.Turn slot progress w after)
    (added : after.1.results = progress.results ++ [result]) (failed : result.status = .failed)
    (call : StoreCall) (refusal : StorageError)
    (meets : MeetsRefusal env execution.options progress.made slot.step
      (execution.attemptIn slot.step progress w) call refusal) :
    result.error = some (StepError.storage refusal).message ∧
      (LeavesEmpty w.stored slot.step.config.output call →
        after.2.stored = w.stored.put slot.step.config.output []) := by
  obtain ⟨-, w₁, error, ran, quiet, hmessage⟩ :=
    (h.result_cases added).resolve_left fun other => other.1 failed
  obtain ⟨_, refused, empties⟩ := executeStep_of_meetsRefusal inMemory meets
  obtain ⟨same, rfl⟩ := Prod.mk.inj (refused.symm.trans ran)
  obtain rfl := Except.error.inj same
  rw [stored_attemptIn inMemory] at empties
  refine ⟨hmessage, fun late => ?_⟩
  rw [quiet.stored inMemory, empties late]

end Execution

/-- **What a failed step leaves in a store.** Whatever the store refuses and whenever the run is
cancelled, a failed step leaves every collection but that of its output as it was, and in a dry run
that one too. A refusal that it meets when it replaces its output is the failure that its result
tells. If the store has refused the new records or, for a collection that the step has just created,
to clear it, the collection is there and has no records; otherwise the output is as it was, too. -/
theorem failedStep_stored {pipeline : Pipeline} {order : List Nat} (env : Environment ω)
    (settings : EngineSettings) (options : RunOptions) (w : World ω)
    (resolved : resolveOrder (pipeline.steps.map Node.ofStep) = .ok order) :
    let run :=
      ((runPipeline (memoryHost env) (aside env.isCancelled) settings pipeline options).run w).1
    ∀ s i result step, ResultAt order run s i result → pipeline.steps[i]? = some step →
      result.status = .failed →
      let before := storedInFront env pipeline options order w s
      let after := storedInFront env pipeline options order w (s + 1)
      let meets := MeetsRefusal env options (madeInFront env pipeline options order w s) step
        (attemptInFront env pipeline options order w s step)
      (∀ name, name ≠ step.config.output → after.records? name = before.records? name) ∧
      (options.dryRun = true → after = before) ∧
      (∀ call refusal, meets call refusal →
        result.error = some (StepError.storage refusal).message ∧
        (LeavesEmpty before step.config.output call → after = before.put step.config.output [])) ∧
      ((∀ call refusal, meets call refusal → ¬ LeavesEmpty before step.config.output call) →
        after = before) := by
  intro run s i result step at_s hstep failed before after meets
  have ends :=
    runPipeline_endsWith (memoryHost env) (aside env.isCancelled) settings options w resolved
  obtain ⟨hs, rfl, hresult⟩ := ends.exists_slot (map_place_freshSlots resolved) at_s
  obtain ⟨_, turn, added⟩ := Execution.turn_of_result hresult
  obtain ⟨hslot, -⟩ := mem_freshSlots (List.getElem_mem hs)
  obtain rfl := Option.some.inj (hstep.symm.trans hslot)
  have inMemory := Execution.runsIn_ofRun env pipeline
    ((beginRun (memoryHost env) pipeline options).run w).1 options
  have stored := turn.stored_of_failed inMemory added failed
  have refused := turn.of_meetsRefusal inMemory added failed
  have start := Execution.stored_attemptIn inMemory
  rw [← runUpTo_run _ _ options w s resolved, ← runUpTo_run _ _ options w (s + 1) resolved]
    at stored refused
  rcases stored with kept | ⟨refusal, -, emptied⟩
  · exact ⟨fun name _ => congrArg (Collections.records? · name) kept, fun _ => kept, refused,
      fun _ => kept⟩
  · obtain ⟨call, met, late⟩ := emptied.refused
    refine ⟨fun name different => ?_, fun dry => ?_, refused, fun never => ?_⟩
    · exact (emptied.records?_of_ne different).trans (by rw [start]; rfl)
    · cases met.wet.symm.trans dry
    · rw [start] at late
      exact absurd late (never call refusal met)

/-- Surroundings in which one operation of the store always fails. -/
def Environment.refusing (call : StoreCall) (error : StorageError) : Environment Unit :=
  { Environment.calm with refusal? := fun other => pure (if other =
    call then some error else none) }

/-- A store that takes no new records for one collection. -/
def fullDisk : Environment Unit := .refusing ⟨.createMany, "copied"⟩ (.failed "disk full")

/-- A step whose output is that collection. -/
def copyStep : Step := .passOn "copy" "users" "copied"

/-- A pipeline of this step. -/
def copyUsers : Pipeline := .ofSteps [copyStep]

/-- The source of the step, and a collection with another record under the name of its output. -/
def usersAndCopied : World Unit :=
  ⟨[("users", [[("name", .text "Alice")]]), ("copied", [[("name", .text "Bob")]])], ()⟩

/-- A run of the step. -/
def copyUsersRun : PipelineRun :=
  ((runPipeline (memoryHost fullDisk) (aside fullDisk.isCancelled) {} copyUsers {}).run
    usersAndCopied).1

theorem copyUsersRun_fails :
    ∃ result, ResultAt [0] copyUsersRun 0 0 result ∧ result.status = .failed := by
  have statuses : copyUsersRun.stepResults[0]?.map StepResult.status = some .failed := by
    decide +kernel
  obtain ⟨result, hresult, failed⟩ := Option.map_eq_some_iff.mp statuses
  exact ⟨result, ⟨rfl, hresult⟩, failed⟩

/-- The step has read its source when it is refused to store what it has made of it. -/
theorem copyStep_meetsRefusal :
    MeetsRefusal fullDisk {} (madeInFront fullDisk copyUsers {} [0] usersAndCopied 0) copyStep
      (attemptInFront fullDisk copyUsers {} [0] usersAndCopied 0 copyStep) ⟨.createMany, "copied"⟩
      (.failed "disk full") where
  wet := rfl
  free := by decide
  refused := ⟨⟨[[("name", .text "Alice")]], 1⟩, usersAndCopied, rfl, rfl⟩

theorem failedStep_stored_users :
    resolveOrder (copyUsers.steps.map Node.ofStep) = .ok [0] ∧
      LeavesEmpty (storedInFront fullDisk copyUsers {} [0] usersAndCopied 0) "copied"
        ⟨.createMany, "copied"⟩ ∧
      ∃ result, ResultAt [0] copyUsersRun 0 0 result ∧ result.status = .failed ∧
        result.error = some (StepError.storage (.failed "disk full")).message ∧
        (storedInFront fullDisk copyUsers {} [0] usersAndCopied 1).records? "users" =
          (storedInFront fullDisk copyUsers {} [0] usersAndCopied 0).records? "users" ∧
        storedInFront fullDisk copyUsers {} [0] usersAndCopied 1 =
          (storedInFront fullDisk copyUsers {} [0] usersAndCopied 0).put "copied" [] := by
  have resolved : resolveOrder (copyUsers.steps.map Node.ofStep) = .ok [0] := rfl
  obtain ⟨result, at_zero, failed⟩ := copyUsersRun_fails
  obtain ⟨others, -, refused, -⟩ :=
    failedStep_stored fullDisk {} {} usersAndCopied resolved 0 0 result copyStep at_zero rfl failed
  obtain ⟨message, empties⟩ := refused _ _ copyStep_meetsRefusal
  have late : LeavesEmpty (storedInFront fullDisk copyUsers {} [0] usersAndCopied 0) "copied"
      ⟨.createMany, "copied"⟩ := .inl rfl
  exact ⟨resolved, late, result, at_zero, failed, message, others "users" (by decide), empties late⟩

/-- A failed step loses the record that its output has had. -/
theorem failedStep_loses_records :
    resolveOrder (copyUsers.steps.map Node.ofStep) = .ok [0] ∧
      (∃ result, ResultAt [0] copyUsersRun 0 0 result ∧ result.status = .failed) ∧
      (storedInFront fullDisk copyUsers {} [0] usersAndCopied 0).records? "copied" =
        some [[("name", .text "Bob")]] ∧
      (storedInFront fullDisk copyUsers {} [0] usersAndCopied 1).records? "copied" = some [] :=
  ⟨rfl, copyUsersRun_fails, rfl, rfl⟩

end RecordFlow
