import RecordFlow.Proofs.Run.MemoryHost
import RecordFlow.Run.Execution

/-!
# Replacing a stored collection

A step that is not part of a dry run replaces the collection of its output. That takes up to four
operations of the store, which is asked for one after the other until it refuses one. What is stored
then depends on which one that is: the collection is emptied before it gets its new records.

## Main definitions

* `replacementCalls` — the operations that replace a collection
* `Environment.firstRefusal?` — the first of some operations that a store refuses
* `LeavesEmpty` — the operations whose refusal leaves the collection without records
* `Replacement` — how the replacement of a collection can end

## Main results

* `persist_replacement` — it ends in one of these ways
* `Execution.Turn.records?_of_unwritten` — a step leaves alone what it does not write
-/

namespace RecordFlow

variable {ω α : Type}

/-! ### Asking for several operations -/

/-- Asks a store for some operations, one after the other, until it refuses one. -/
def Environment.firstRefusal? (env : Environment ω) :
    List StoreCall → StateM ω (Option (StoreCall × StorageError))
  | [] => return none
  | call :: calls => do
    match ← env.refusal? call with
    | some error => return some (call, error)
    | none => env.firstRefusal? calls

section

variable {env : Environment ω} {call : StoreCall} {calls : List StoreCall} {around after : ω}

theorem Environment.firstRefusal?_of_granted
    (granted : (env.refusal? call).run around = (none, after)) :
    (env.firstRefusal? (call :: calls)).run around = (env.firstRefusal? calls).run after := by
  rw [firstRefusal?, run_bind, granted]

theorem Environment.firstRefusal?_of_refused {error : StorageError}
    (refused : (env.refusal? call).run around = (some error, after)) :
    (env.firstRefusal? (call :: calls)).run around = (some (call, error), after) := by
  rw [firstRefusal?, run_bind, refused]
  rfl

theorem Environment.refuses_of_firstRefusal? {error : StorageError}
    (refused : ((env.firstRefusal? calls).run around).1 = some (call, error)) :
    env.Refuses call error := by
  induction calls generalizing around with
  | nil => cases refused
  | cons first calls ih =>
    rcases h : (env.refusal? first).run around with ⟨_ | failure, after⟩
    · rw [firstRefusal?_of_granted h] at refused
      exact ih refused
    · rw [firstRefusal?_of_refused h] at refused
      obtain ⟨rfl, rfl⟩ := Prod.mk.inj (Option.some.inj refused)
      exact refuses_of_run h

theorem Environment.NeverRefuses.firstRefusal?_eq_none (never : env.NeverRefuses)
    (calls : List StoreCall) (around : ω) : ((env.firstRefusal? calls).run around).1 = none := by
  induction calls generalizing around with
  | nil => rfl
  | cons call calls ih =>
    rw [firstRefusal?_of_granted (Prod.ext (never call around) rfl)]
    exact ih _

end

/-! ### The operations that write -/

/-- A collection that is not there is created without records, unless the store refuses it. -/
theorem create_run (env : Environment ω) (name : String) (w : World ω)
    (absent : w.stored.records? name = none) : ∃ around,
    ((env.refusal? ⟨.create, name⟩).run w.around = (none, around) ∧
      ((memoryHost env).store.create name).run.run w = (.ok (), ⟨w.stored.put name [], around⟩)) ∨
    ∃ error, (env.refusal? ⟨.create, name⟩).run w.around = (some error, around) ∧
      ((memoryHost env).store.create name).run.run w = (.error error, { w with around }) := by
  obtain ⟨around, ⟨granted, done⟩ | refused⟩ :=
    guarded_run env ⟨.create, name⟩ (RecordStore.memory.create name) w
  · refine ⟨around, .inl ⟨granted, done.trans ?_⟩⟩
    simp only [RecordStore.memory, run_exceptBind, getThe_run, absent]
    rfl
  · exact ⟨around, .inr refused⟩

/-- A collection that is there is cleared, unless the store refuses it. -/
theorem clear_run (env : Environment ω) (name : String) (w : World ω)
    (there : w.stored.records? name ≠ none) : ∃ around,
    ((env.refusal? ⟨.clear, name⟩).run w.around = (none, around) ∧
      ((memoryHost env).store.clear name).run.run w = (.ok (), ⟨w.stored.put name [], around⟩)) ∨
    ∃ error, (env.refusal? ⟨.clear, name⟩).run w.around = (some error, around) ∧
      ((memoryHost env).store.clear name).run.run w = (.error error, { w with around }) := by
  obtain ⟨around, ⟨granted, done⟩ | refused⟩ :=
    guarded_run env ⟨.clear, name⟩ (RecordStore.memory.clear name) w
  · obtain ⟨records, hrecords⟩ := Option.ne_none_iff_exists'.mp there
    refine ⟨around, .inl ⟨granted, done.trans ?_⟩⟩
    simp only [RecordStore.memory, run_exceptBind, getThe_run, hrecords]
    rfl
  · exact ⟨around, .inr refused⟩

/-- Records are put behind those of a collection, unless the store refuses it. -/
theorem createMany_run (env : Environment ω) (name : String) (records : List Record) (w : World ω) :
    ∃ around, ((env.refusal? ⟨.createMany, name⟩).run w.around = (none, around) ∧
      ((memoryHost env).store.createMany name records).run.run w = (.ok records.length,
        ⟨w.stored.put name ((w.stored.records? name).getD [] ++ records), around⟩)) ∨
    ∃ error, (env.refusal? ⟨.createMany, name⟩).run w.around = (some error, around) ∧
      ((memoryHost env).store.createMany name records).run.run w =
        (.error error, { w with around }) :=
  guarded_run env ⟨.createMany, name⟩ (RecordStore.memory.createMany name records) w

/-! ### The replacement -/

/-- The operations that replace a collection, one after the other. -/
def replacementCalls (stored : Collections) (name : String) : List StoreCall :=
  if (stored.records? name).isSome then [⟨.has, name⟩, ⟨.clear, name⟩, ⟨.createMany, name⟩]
  else [⟨.has, name⟩, ⟨.create, name⟩, ⟨.clear, name⟩, ⟨.createMany, name⟩]

/-- The refusal of an operation leaves a collection without records that is being replaced: it has
been cleared, or it has just been created. -/
def LeavesEmpty (stored : Collections) (name : String) (call : StoreCall) : Prop :=
  call = ⟨.createMany, name⟩ ∨ (call = ⟨.clear, name⟩ ∧ stored.records? name = none)

/-- How the replacement of a stored collection can end, and with which collections. -/
inductive Replacement (env : Environment ω) (name : String) (records : List Record) (w : World ω) :
    Except StepError Unit × World ω → Prop
  /-- The name is reserved. -/
  | reserved (reserved : isReserved name = true) :
      Replacement env name records w (.error (.reservedName name), w)
  /-- The collection has the new records. -/
  | done {around : ω} (free : isReserved name = false)
      (granted : (env.firstRefusal? (replacementCalls w.stored name)).run w.around =
        (none, around)) :
      Replacement env name records w (.ok (), ⟨w.stored.put name records, around⟩)
  /-- The store refuses an operation before anything is changed. -/
  | refused {around : ω} {call : StoreCall} {error : StorageError} (free : isReserved name = false)
      (refused : (env.firstRefusal? (replacementCalls w.stored name)).run w.around =
        (some (call, error), around))
      (early : ¬ LeavesEmpty w.stored name call) :
      Replacement env name records w (.error (.storage error), { w with around })
  /-- The store refuses the new records, or to clear a collection that it has just created: the
  collection is there and has no records. -/
  | emptied {around : ω} {call : StoreCall} {error : StorageError} (free : isReserved name = false)
      (refused : (env.firstRefusal? (replacementCalls w.stored name)).run w.around =
        (some (call, error), around))
      (late : LeavesEmpty w.stored name call) :
      Replacement env name records w (.error (.storage error), ⟨w.stored.put name [], around⟩)

/-- Of two operations the second one is done if the store has not refused the first one. -/
theorem run_adapt_bind (operation : ExceptT StorageError (StateM (World ω)) α)
    (next : α → ExceptT StorageError (StateM (World ω)) Unit) (w : World ω) :
    ((operation >>= next).adapt StepError.storage).run.run w =
      match operation.run.run w with
      | (.ok a, w') => ((next a).adapt StepError.storage).run.run w'
      | (.error error, w') => (.error (.storage error), w') := by
  rw [run_adapt, run_exceptBind]
  obtain ⟨result, w'⟩ := operation.run.run w
  cases result <;> rfl

section

variable {env : Environment ω} {name : String} {w : World ω}

/-- The last operation gives the new records to a collection that has none. -/
theorem replacement_createMany {around : ω} (records : List Record) (free : isReserved name = false)
    (asked : (env.firstRefusal? (replacementCalls w.stored name)).run w.around =
      (env.firstRefusal? [⟨.createMany, name⟩]).run around) :
    Replacement env name records w
      (((do
        let _ ← (memoryHost env).store.createMany name records
        return ()).adapt StepError.storage).run.run ⟨w.stored.put name [], around⟩) := by
  rw [run_adapt_bind]
  obtain ⟨_, ⟨granted, done⟩ | ⟨error, refused, failed⟩⟩ :=
    createMany_run env name records ⟨w.stored.put name [], around⟩
  · rw [done, Collections.records?_put_self, Collections.put_put]
    exact .done free (asked.trans (Environment.firstRefusal?_of_granted granted))
  · rw [failed]
    exact .emptied free (asked.trans (Environment.firstRefusal?_of_refused refused)) (.inl rfl)

/-- The last two operations, on a collection that is there: in `v` it has just been created, or
nothing has been changed yet. -/
theorem replacement_clear {v : World ω} (records : List Record) (free : isReserved name = false)
    (there : v.stored.records? name ≠ none) (same : v.stored.put name [] = w.stored.put name [])
    (asked : (env.firstRefusal? (replacementCalls w.stored name)).run w.around =
      (env.firstRefusal? [⟨.clear, name⟩, ⟨.createMany, name⟩]).run v.around)
    (refused : ∀ around error, (env.firstRefusal? (replacementCalls w.stored name)).run w.around =
        (some (⟨.clear, name⟩, error), around) →
      Replacement env name records w (.error (.storage error), { v with around })) :
    Replacement env name records w
      (((do
        (memoryHost env).store.clear name
        let _ ← (memoryHost env).store.createMany name records
        return ()).adapt StepError.storage).run.run v) := by
  rw [run_adapt_bind]
  obtain ⟨around, ⟨granted, done⟩ | ⟨error, failing, failed⟩⟩ := clear_run env name v there
  · rw [done, same]
    exact replacement_createMany records free
      (asked.trans (Environment.firstRefusal?_of_granted granted))
  · rw [failed]
    exact refused around error (asked.trans (Environment.firstRefusal?_of_refused failing))

/-- A replacement ends in one of the four ways. -/
theorem persist_replacement (env : Environment ω) (name : String) (records : List Record)
    (w : World ω) :
    Replacement env name records w ((persist (memoryHost env).store name records).run.run w) := by
  rw [persist]
  cases free : isReserved name with
  | true => exact .reserved free
  | false =>
    simp only [Bool.false_eq_true, if_false]
    rw [run_adapt_bind]
    obtain ⟨around, ⟨granted, found⟩ | ⟨error, refused, failed⟩⟩ := has_run env name w
    · rw [found]
      cases there : w.stored.records? name with
      | some old =>
        have calls : replacementCalls w.stored name =
            [⟨.has, name⟩, ⟨.clear, name⟩, ⟨.createMany, name⟩] := by
          simp [replacementCalls, there]
        refine replacement_clear records free ?_ rfl ?_ fun around error refused => ?_
        · simp [there]
        · rw [calls]
          exact Environment.firstRefusal?_of_granted granted
        · exact .refused free refused (by simp [LeavesEmpty, there])
      | none =>
        have calls : replacementCalls w.stored name =
            [⟨.has, name⟩, ⟨.create, name⟩, ⟨.clear, name⟩, ⟨.createMany, name⟩] := by
          simp [replacementCalls, there]
        simp only [Option.isSome_none, Bool.not_false, if_true]
        rw [run_adapt_bind]
        obtain ⟨around', ⟨granted', created⟩ | ⟨error, refused, failed⟩⟩ :=
          create_run env name { w with around } there
        · rw [created]
          refine replacement_clear records free ?_ (Collections.put_put _) ?_ fun _ _ refused => ?_
          · simp [Collections.records?_put_self]
          · rw [calls, Environment.firstRefusal?_of_granted granted]
            exact Environment.firstRefusal?_of_granted granted'
          · exact .emptied free refused (.inr ⟨rfl, there⟩)
        · rw [failed]
          have early : ¬ LeavesEmpty w.stored name ⟨.create, name⟩ := by simp [LeavesEmpty]
          refine .refused free ?_ early
          rw [calls, Environment.firstRefusal?_of_granted granted]
          exact Environment.firstRefusal?_of_refused refused
    · rw [failed]
      have early : ¬ LeavesEmpty w.stored name ⟨.has, name⟩ := by simp [LeavesEmpty]
      refine .refused free ?_ early
      rw [replacementCalls]
      split <;> exact Environment.firstRefusal?_of_refused refused

end

/-! ### Collections that a step does not write -/

section

variable {env : Environment ω} {name output : String}

/-- A replacement leaves a collection of another name as it is, and one of a reserved name. -/
theorem Replacement.records?_of_unwritten {records : List Record} {w : World ω}
    {after : Except StepError Unit × World ω} (h : Replacement env output records w after)
    (unwritten : isReserved output = false → name ≠ output) :
    after.2.stored.records? name = w.stored.records? name := by
  cases h with
  | reserved _ => rfl
  | done free _ => exact Collections.records?_put_of_ne (unwritten free)
  | refused _ _ _ => rfl
  | emptied free _ _ => exact Collections.records?_put_of_ne (unwritten free)

namespace Execution

variable {execution : Execution (StateM (World ω))} {slot : Slot}
    {progress : Progress} {w : World ω}

/-- A step leaves the collections as they are that it does not write. -/
theorem keeps_executeStep_of_unwritten (inMemory : execution.RunsIn env)
    (made : Collections) (step : Step)
    (unwritten : isReserved step.config.output = false → name ≠ step.config.output) :
    Keeps (fun w => w.stored.records? name) (execution.executeStep made step).run := by
  rw [executeStep, inMemory.host]
  -- What is computed is put by the last call only, and a dry run leaves that one out.
  refine .exceptBind ((keeps_executeConfig env made step.config).comp (Collections.records? · name))
    fun output => ?_
  cases execution.options.dryRun with
  | true => exact .pure _ _
  | false =>
    refine .exceptBind (fun w => ?_) fun _ => .pure _ _
    exact (persist_replacement env step.config.output output.records w).records?_of_unwritten
      unwritten

/-- The turn of a step leaves the collections as they are that the step does not write. -/
theorem Turn.records?_of_unwritten {after : Progress × World ω} (inMemory : execution.RunsIn env)
    (h : execution.Turn slot progress w after)
    (unwritten : isReserved slot.step.config.output = false → name ≠ slot.step.config.output) :
    after.2.stored.records? name = w.stored.records? name := by
  cases h with
  | skipped _ quiet => rw [quiet.stored inMemory]
  | completed _ ran after | failed _ ran after =>
    have kept := keeps_executeStep_of_unwritten inMemory progress.made slot.step unwritten
      (execution.attemptIn slot.step progress w)
    simp only [ran, stored_attemptIn inMemory] at kept
    rw [after.stored inMemory, kept]

end Execution

end

end RecordFlow
