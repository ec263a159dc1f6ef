import RecordFlow.Proofs.Run.Persistence

/-!
# Steps on a store that refuses nothing

A step finds the set of a name among those that its run has made, or else in the store. On a store
that refuses nothing, what it makes of these sets is a matter of the clock alone, and all that it
changes is the collection of its output.

## Main definitions

* `sourceIn` — the set of a name, or the failure that there is none
* `Step.attempt` — what a step makes of the sets that it finds

## Main results

* `resolveSources_run` — what the processor of a step receives
* `Execution.executeStep_run` — what the step does
-/

namespace RecordFlow

variable {ω α : Type} {env : Environment ω} {w : World ω} {records : List Record}

/-- What is found under a name: a set that was made, or else what is stored. -/
def Collections.found (made stored : Collections) (name : String) : Option (List Record) :=
  (made.records? name).or (stored.records? name)

/-- The set of a name, where `find` tells what is found under it. -/
def sourceIn (find : String → Option (List Record)) (name : String) :
    Except StepError (List Record) :=
  (find name).elim (.error (.unresolvedSource name)) .ok

/-- What a step makes of the sets that it finds. -/
def Step.attempt (step : Step) (now : Timestamp) (find : String → Option (List Record)) :
    Except StepError StepOutput := do
  let inputs ← step.config.sources.mapM (sourceIn find)
  let output ← step.config.process now inputs
  if isReserved step.config.output then .error (.reservedName step.config.output) else .ok output

/-- Collections with what a step has made under the name of its output, if it has made anything. -/
def Collections.keep (collections : Collections) (name : String) :
    Except StepError StepOutput → Collections
  | .ok output => collections.put name output.records
  | .error _ => collections

/-- The clock may show a time. -/
def Environment.MayShow (env : Environment ω) (now : Timestamp) : Prop :=
  ∃ around, (env.now.run around).1 = now

/-! ### Reading -/

theorem has_run_of_neverRefuses (never : env.NeverRefuses) (name : String) (w : World ω) : ∃ around,
    ((memoryHost env).store.has name).run.run w =
      (.ok (w.stored.records? name).isSome, { w with around }) :=
  allowed_run never ⟨.has, name⟩ (RecordStore.memory.has name) w

theorem findAll_run_of_neverRefuses (never : env.NeverRefuses) {name : String}
    (there : w.stored.records? name = some records) : ∃ around,
    ((memoryHost env).store.findAll name).run.run w = (.ok records, { w with around }) := by
  obtain ⟨around, done⟩ := allowed_run never ⟨.find, name⟩ (RecordStore.memory.find name .all) w
  refine ⟨around, done.trans ?_⟩
  -- Every record passes the filter that selects all.
  have all : records.filter (RecordFilter.holds · .all) = records :=
    List.filter_eq_self.mpr fun record _ => by rw [RecordFilter.holds]
  simp only [RecordStore.memory, run_exceptBind, getThe_run, there]
  exact congrArg (fun kept => (Except.ok kept, { w with around })) all

theorem resolveSource_run (never : env.NeverRefuses) (made : Collections) (name : String)
    (w : World ω) : ∃ around, (resolveSource (memoryHost env).store made name).run.run w =
      (sourceIn (made.found w.stored) name, { w with around }) := by
  rw [resolveSource, sourceIn, Collections.found]
  cases made.records? name with
  | some records => exact ⟨w.around, rfl⟩
  | none =>
    rw [run_exceptBind, Option.none_or]
    obtain ⟨around, hhas⟩ := has_run_of_neverRefuses never name w
    rw [run_adapt, hhas]
    cases there : w.stored.records? name with
    | none => exact ⟨around, rfl⟩
    | some records =>
      obtain ⟨around', hfind⟩ := findAll_run_of_neverRefuses (w := { w with around }) never there
      refine ⟨around', ?_⟩
      simp only [mapError_ok, Option.isSome_some, if_true, run_adapt, hfind]
      rfl

/-- What the processor of a step receives, if the store refuses nothing. -/
theorem resolveSources_run (never : env.NeverRefuses) (made : Collections) (names : List String)
    (w : World ω) : ∃ around, (resolveSources (memoryHost env).store made names).run.run w =
      (names.mapM (sourceIn (made.found w.stored)), { w with around }) := by
  induction names generalizing w with
  | nil => exact ⟨w.around, rfl⟩
  | cons name names ih =>
    rw [resolveSources, run_exceptBind, List.mapM_cons]
    obtain ⟨around, hfirst⟩ := resolveSource_run never made name w
    rw [hfirst]
    cases sourceIn (made.found w.stored) name with
    | error error => exact ⟨around, rfl⟩
    | ok records =>
      obtain ⟨around', hrest⟩ := ih { w with around }
      refine ⟨around', ?_⟩
      simp only [run_exceptBind, hrest]
      cases names.mapM (sourceIn (made.found w.stored)) <;> rfl

/-! ### Running -/

/-- A configuration processes what it receives at a time that the clock shows. -/
theorem executeConfig_run (never : env.NeverRefuses) (made : Collections) (config : StepConfig)
    (w : World ω) : ∃ around now, env.MayShow now ∧
      (executeConfig (memoryHost env) made config).run.run w =
        ((config.sources.mapM (sourceIn (made.found w.stored))).bind (config.process now),
          { w with around }) := by
  obtain ⟨around, hsources⟩ := resolveSources_run never made config.sources w
  rw [executeConfig, run_exceptBind, hsources]
  cases config.sources.mapM (sourceIn (made.found w.stored)) with
  | error error => exact ⟨around, (env.now.run around).1, ⟨around, rfl⟩, rfl⟩
  | ok inputs => exact ⟨(env.now.run around).2, (env.now.run around).1, ⟨around, rfl⟩, rfl⟩

/-- On a store that refuses nothing, a collection is replaced unless its name is reserved. -/
theorem persist_run (never : env.NeverRefuses) (name : String) (records : List Record)
    (w : World ω) : ∃ around, (persist (memoryHost env).store name records).run.run w =
      if isReserved name then (.error (.reservedName name), w)
      else (.ok (), ⟨w.stored.put name records, around⟩) := by
  have replacement := persist_replacement env name records w
  generalize (persist (memoryHost env).store name records).run.run w = ended at replacement
  cases replacement with
  | reserved reserved => exact ⟨w.around, (if_pos reserved).symm⟩
  | @done around free _ => exact ⟨around, by simp [free]⟩
  | refused _ refused _ | emptied _ refused _ =>
    have none := never.firstRefusal?_eq_none (replacementCalls w.stored name) w.around
    rw [refused] at none
    cases none

/-- An attempt is what the configuration makes, unless the name of its output is reserved. -/
theorem Step.attempt_eq (step : Step) (now : Timestamp) (find : String → Option (List Record)) :
    step.attempt now find =
      ((step.config.sources.mapM (sourceIn find)).bind (step.config.process now)).bind fun output =>
        if isReserved step.config.output then .error (.reservedName step.config.output)
        else .ok output := by
  rw [attempt]
  cases step.config.sources.mapM (sourceIn find) <;> rfl

/-- A step makes what its attempt makes, and stores it. A step that fails stores nothing. -/
theorem Execution.executeStep_run {execution : Execution (StateM (World ω))}
    (inMemory : execution.RunsIn env) (never : env.NeverRefuses)
    (wet : execution.options.dryRun = false) (made : Collections) (step : Step) (w : World ω) :
    ∃ around now, env.MayShow now ∧ (execution.executeStep made step).run.run w =
      (step.attempt now (made.found w.stored),
        ⟨w.stored.keep step.config.output (step.attempt now (made.found w.stored)), around⟩) := by
  obtain ⟨around, now, shown, hconfig⟩ := executeConfig_run never made step.config w
  suffices ∃ around', (execution.executeStep made step).run.run w =
      (step.attempt now (made.found w.stored),
        ⟨w.stored.keep step.config.output (step.attempt now (made.found w.stored)), around'⟩) by
    obtain ⟨around', hrun⟩ := this
    exact ⟨around', now, shown, hrun⟩
  simp only [executeStep, inMemory.host, run_exceptBind, hconfig, wet, Bool.not_false, if_true,
    Step.attempt_eq]
  cases (step.config.sources.mapM (sourceIn (made.found w.stored))).bind
    (step.config.process now) with
  | error error => exact ⟨around, rfl⟩
  | ok output =>
    obtain ⟨around', hpersist⟩ :=
      persist_run never step.config.output output.records { w with around }
    simp only [Except.bind, hpersist]
    cases isReserved step.config.output with
    | true => exact ⟨around, rfl⟩
    | false => exact ⟨around', rfl⟩

end RecordFlow
