import RecordFlow.Proofs.Pipeline.BuiltGraph
import RecordFlow.Proofs.Run.Errors
import RecordFlow.Proofs.Run.Persistence

/-!
# The sources of a step

A step reads the sets that other steps of its run have made, and what is stored under all other
names. When it is started, the steps that make one of its sources are completed, so their sets are
there. And as long as the steps of a run take their turns, no collection is taken away: what was
stored at first is still found. A source is therefore only unresolved if no other step makes it and
nothing was stored under its name.

## Main results

* `Execution.mem_made_of_reads` — what other steps make is there for a step that reads it
* `Execution.unresolved_of_executeStep` — when a step fails because of an unresolved source
* `Execution.isSome_stored_reach` — what was stored at first stays there
-/

namespace RecordFlow

namespace Execution

section

variable {σ : Type} {execution : Execution (StateM σ)} {pipeline : Pipeline}
  {order : List Nat} {w : σ} {s a : Nat}

/-- What another step makes has been made when a step that reads it is started. -/
theorem mem_made_of_reads (resolved : resolveOrder (pipeline.steps.map Node.ofStep) = .ok order)
    (nodes : execution.nodes = pipeline.steps.map Node.ofStep)
    (hs : s < (freshSlots pipeline order).length)
    (started : ¬ execution.StatusAt (freshSlots pipeline order) w s .skipped) {other : Step}
    (hother : pipeline.steps[a]? = some other)
    (different : a ≠ (freshSlots pipeline order)[s].place)
    (reads : other.config.output ∈ (freshSlots pipeline order)[s].step.config.sources) :
    other.config.output ∈
      (execution.reach (freshSlots pipeline order) {} w s).1.made.map Prod.fst := by
  have scheduled := scheduled_freshSlots resolved
  rw [← nodes] at scheduled
  have hstep := (mem_freshSlots (List.getElem_mem hs)).1
  have dependsOn : DependsOn execution.nodes (freshSlots pipeline order)[s].place a := by
    rw [nodes]
    exact dependsOn_ofStep_iff.mpr ⟨_, other, hstep, hother, .inr ⟨different, reads⟩⟩
  obtain ⟨t, hts, completed, slot, hslot, rfl⟩ :=
    statusAt_completed_of_needs scheduled hs started (.single dependsOn)
  have hmade := (mem_freshSlots (List.mem_of_getElem? hslot)).1
  obtain rfl := Option.some.inj (hother.symm.trans hmade)
  exact (mem_made_reach_iff hs.le).mpr ⟨t, hts, completed, slot, hslot, rfl⟩

end

end Execution

section

variable {ω : Type} {env : Environment ω} {made : Collections} {name missing : String}
  {w w' : World ω}

/-! ### Unresolved sources -/

/-- A source is unresolved only if nothing was made and nothing is stored under its name. -/
theorem unresolved_of_resolveSource
    (ran : (resolveSource (memoryHost env).store made name).run.run w =
      (.error (.unresolvedSource missing), w')) :
    missing = name ∧ made.records? name = none ∧ w.stored.records? name = none := by
  rw [resolveSource] at ran
  cases hmade : made.records? name with
  | some records =>
    rw [hmade] at ran
    cases ran
  | none =>
    rw [hmade] at ran
    simp only [run_exceptBind, run_adapt] at ran
    obtain ⟨around, ⟨-, hhas⟩ | ⟨error, -, hhas⟩⟩ := has_run env name w
    · rw [hhas] at ran
      cases there : w.stored.records? name with
      | some records =>
        -- A collection that is there may be refused, but that is a failure of the store.
        simp only [there, Option.isSome_some, mapError_ok, if_true, run_adapt] at ran
        have failed := congrArg Prod.fst ran
        generalize (((memoryHost env).store.findAll name).run.run { w with around }).1 =
          found at failed
        cases found with
        | ok records => cases failed
        | error error => cases failed
      | none =>
        simp only [there, Option.isSome_none, mapError_ok, Bool.false_eq_true, if_false] at ran
        cases ran
        exact ⟨rfl, rfl, rfl⟩
    · rw [hhas] at ran
      cases ran

/-- Of several sources one that is unresolved is among them. -/
theorem unresolved_of_resolveSources {names : List String}
    (ran : (resolveSources (memoryHost env).store made names).run.run w =
      (.error (.unresolvedSource missing), w')) :
    missing ∈ names ∧ made.records? missing = none ∧ w.stored.records? missing = none := by
  induction names generalizing w w' with
  | nil => cases ran
  | cons name names ih =>
    rw [resolveSources, run_exceptBind] at ran
    -- To read the first source leaves the collections as they are for the others.
    have kept := keeps_resolveSource env made name w
    generalize first :
      (resolveSource (memoryHost env).store made name).run.run w = ended at ran kept
    obtain ⟨result, v⟩ := ended
    cases result with
    | error error =>
      obtain ⟨same, rfl⟩ := Prod.mk.inj ran
      rw [Except.error.inj same] at first
      obtain ⟨rfl, notMade, notStored⟩ := unresolved_of_resolveSource first
      exact ⟨List.mem_cons_self, notMade, notStored⟩
    | ok records =>
      simp only [run_exceptBind] at ran
      generalize rest : (resolveSources (memoryHost env).store made names).run.run v = ended at ran
      obtain ⟨result, v'⟩ := ended
      cases result with
      | ok others => cases ran
      | error error =>
        obtain ⟨same, rfl⟩ := Prod.mk.inj ran
        rw [Except.error.inj same] at rest
        obtain ⟨hmem, notMade, notStored⟩ := ih rest
        rw [kept] at notStored
        exact ⟨List.mem_cons_of_mem name hmem, notMade, notStored⟩

theorem unresolved_of_executeConfig {config : StepConfig}
    (ran : (executeConfig (memoryHost env) made config).run.run w =
      (.error (.unresolvedSource missing), w')) :
    missing ∈ config.sources ∧ made.records? missing = none ∧ w.stored.records? missing = none := by
  rw [executeConfig, run_exceptBind] at ran
  generalize sources : (resolveSources (memoryHost env).store made config.sources).run.run w = ended
    at ran
  obtain ⟨result, v⟩ := ended
  cases result with
  | error error =>
    obtain ⟨same, rfl⟩ := Prod.mk.inj ran
    rw [Except.error.inj same] at sources
    exact unresolved_of_resolveSources sources
  | ok inputs =>
    have processed : config.process _ inputs = .error (.unresolvedSource missing) :=
      congrArg Prod.fst ran
    exact absurd (StepConfig.process_isOfInputs processed) id

/-- To replace a collection does not fail because of an unresolved source. -/
theorem persist_ne_unresolved (env : Environment ω) (name : String) (records : List Record)
    (w : World ω) (missing : String) :
    ((persist (memoryHost env).store name records).run.run w).1 ≠
      .error (.unresolvedSource missing) := by
  intro failed
  have replacement := persist_replacement env name records w
  generalize (persist (memoryHost env).store name records).run.run w = ended at replacement failed
  cases replacement with
  | reserved _ => cases failed
  | done _ _ => cases failed
  | refused _ _ _ => cases failed
  | emptied _ _ _ => cases failed

/-! ### What stays stored -/

/-- To replace a collection takes none away. -/
theorem preserves_persist (env : Environment ω) (output : String) (records : List Record)
    (name : String) :
    Preserves (fun w => (w.stored.records? name).isSome)
      (persist (memoryHost env).store output records).run := by
  intro w there
  have kept (written : List Record) : ((w.stored.put output written).records? name).isSome := by
    rw [Collections.records?_put]
    split
    · rfl
    · exact there
  have replacement := persist_replacement env output records w
  generalize (persist (memoryHost env).store output records).run.run w = ended at replacement
  cases replacement with
  | reserved _ => exact there
  | done _ _ => exact kept records
  | refused _ _ _ => exact there
  | emptied _ _ _ => exact kept []

end

namespace Execution

variable {ω : Type} {env : Environment ω} {execution : Execution (StateM (World ω))} {slot : Slot}
  {slots : List Slot} {progress : Progress} {made : Collections} {step : Step}
  {name missing : String} {w w' : World ω} {s : Nat}

/-- A step fails because of an unresolved source only if it reads that source, its run has not made
it, and nothing is stored under its name. -/
theorem unresolved_of_executeStep (inMemory : execution.RunsIn env)
    (ran : (execution.executeStep made step).run.run w = (.error (.unresolvedSource missing), w')) :
    missing ∈ step.config.sources ∧ made.records? missing = none ∧
      w.stored.records? missing = none := by
  rw [executeStep, inMemory.host, run_exceptBind] at ran
  generalize computed : (executeConfig (memoryHost env) made step.config).run.run w = ended at ran
  obtain ⟨result, v⟩ := ended
  cases result with
  | error error =>
    obtain ⟨same, rfl⟩ := Prod.mk.inj ran
    rw [Except.error.inj same] at computed
    exact unresolved_of_executeConfig computed
  | ok output =>
    -- Only the replacement of the output can still fail, and it reads no source.
    cases dry : execution.options.dryRun with
    | true =>
      simp only [dry] at ran
      cases ran
    | false =>
      simp only [dry, Bool.not_false, if_true] at ran
      rw [run_exceptBind] at ran
      have never := persist_ne_unresolved env step.config.output output.records v missing
      generalize (persist (memoryHost env).store step.config.output output.records).run.run v =
        ended at ran never
      obtain ⟨result, v'⟩ := ended
      cases result with
      | ok _ => cases ran
      | error error =>
        obtain ⟨same, -⟩ := Prod.mk.inj ran
        rw [Except.error.inj same] at never
        exact absurd rfl never

theorem preserves_executeStep (inMemory : execution.RunsIn env) (made : Collections) (step : Step)
    (name : String) :
    Preserves (fun w => (w.stored.records? name).isSome) (execution.executeStep made step).run := by
  rw [executeStep, inMemory.host]
  have computed := keeps_executeConfig env made step.config
  refine .exceptBind (.of_keeps computed fun stored => (stored.records? name).isSome) fun output =>
    ?_
  cases execution.options.dryRun with
  | true => exact fun _ there => there
  | false => exact .exceptBind (preserves_persist env _ _ name) fun _ _ there => there

/-- The turn of a step takes no collection away. -/
theorem Turn.isSome_stored {after : Progress × World ω} (inMemory : execution.RunsIn env)
    (turn : execution.Turn slot progress w after) (there : (w.stored.records? name).isSome) :
    (after.2.stored.records? name).isSome := by
  cases turn with
  | skipped _ quiet =>
    rw [quiet.stored inMemory]
    exact there
  | completed _ ran after | failed _ ran after =>
    rw [← stored_attemptIn inMemory slot.step progress w] at there
    have kept := preserves_executeStep inMemory progress.made slot.step name _ there
    rw [ran] at kept
    rw [after.stored inMemory]
    exact kept

/-- What was stored at first is stored in front of every step. -/
theorem isSome_stored_reach (inMemory : execution.RunsIn env) (start : Progress) (w : World ω)
    (hs : s ≤ slots.length) (there : (w.stored.records? name).isSome) :
    ((execution.reach slots start w s).2.stored.records? name).isSome := by
  induction s with
  | zero => exact there
  | succ s ih => exact (execution.reach_turn start w hs).isSome_stored inMemory (ih (by omega))

end Execution

end RecordFlow
