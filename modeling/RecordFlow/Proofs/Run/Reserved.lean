import RecordFlow.Proofs.Run.Handover
import RecordFlow.Proofs.Run.NewRun
import RecordFlow.Proofs.Run.Persistence

/-!
# Reserved collections in a run

A step does not write to a reserved collection: it fails instead, unless the run is dry and the step
writes nothing at all. A dry run can therefore make a set of a reserved name, and if the name is
temporary too, the cleanup of the run drops the stored collection. This is the only way in which a
run reaches a reserved collection.

## Main definitions

* `PipelineRun.HasMade` — a completed step of a run has made a set
* `DropsReserved` — a run drops a reserved collection

## Main results

* `execute_reserved` — what a run leaves of a reserved collection, and
  when that is all that was there
* `rehearseOverPipelines_drops` — a dry run after which the collection of the pipelines is gone
* `records?_execute_of_free` — a pipeline whose steps all write elsewhere
-/

namespace RecordFlow

variable {ω : Type} {env : Environment ω} {name : String}

/-- A completed step of a run has made a set. -/
def PipelineRun.HasMade (run : PipelineRun) (pipeline : Pipeline) (name : String) : Prop :=
  ∃ pair ∈ (executionSteps pipeline).zip run.stepResults,
    pair.2.status = .completed ∧ pair.1.config.output = name

/-- A run drops a collection that it does not write to: it is dry and yet it is to clean up, the
name is temporary, and a completed step has made a set of that name. -/
structure DropsReserved (settings : EngineSettings) (options : RunOptions) (pipeline : Pipeline)
    (run : PipelineRun) (name : String) : Prop where
  dryRun : options.dryRun = true
  cleanup : options.cleanup = true
  temporary : isTemporary settings name = true
  made : run.HasMade pipeline name

theorem ne_of_reserved {output : String} (reserved : isReserved name = true)
    (free : isReserved output = false) : name ≠ output := by
  rintro rfl
  cases reserved.symm.trans free

namespace Execution

variable {execution : Execution (StateM (World ω))} {slot : Slot} {slots : List Slot}
  {progress : Progress} {w w' : World ω} {made : Collections} {step : Step} {s : Nat}

/-- A step of a run that is not dry makes no set of a reserved name. -/
theorem free_of_executeStep {output : StepOutput} (inMemory : execution.RunsIn env)
    (wet : execution.options.dryRun = false)
    (ran : (execution.executeStep made step).run.run w = (.ok output, w')) :
    isReserved step.config.output = false := by
  rw [executeStep, inMemory.host, run_exceptBind] at ran
  generalize (executeConfig (memoryHost env) made step.config).run.run w = computed at ran
  obtain ⟨result, v⟩ := computed
  cases result with
  | error failure => cases ran
  | ok output =>
    simp only [wet, Bool.not_false, if_true] at ran
    rw [run_exceptBind] at ran
    have replacement := persist_replacement env step.config.output output.records v
    generalize (persist (memoryHost env).store step.config.output output.records).run.run v = ended
      at ran replacement
    cases replacement with
    | done free _ => exact free
    | reserved _ => cases ran
    | refused _ _ _ => cases ran
    | emptied _ _ _ => cases ran

/-- The steps of a run leave a reserved collection as it is. -/
theorem records?_reach_of_reserved (inMemory : execution.RunsIn env)
    (start : Progress) (w : World ω) (reserved : isReserved name = true) (hs : s ≤ slots.length) :
    (execution.reach slots start w s).2.stored.records? name = w.stored.records? name := by
  induction s with
  | zero => rfl
  | succ s ih =>
    rw [(execution.reach_turn start w hs).records?_of_unwritten inMemory (ne_of_reserved reserved),
      ih (by omega)]

end Execution

namespace Execution

variable {σ : Type} {execution : Execution (StateM σ)} {slots : List Slot} {s : Nat}

/-- The sets that a run has made are those of its completed steps. -/
theorem mem_made_reach_zip_iff (start : Progress) (w : σ) (fresh : start.results = [])
    (none : start.made = []) (hs : s ≤ slots.length) :
    name ∈ (execution.reach slots start w s).1.made.map Prod.fst ↔
      ∃ pair ∈ (slots.take s).zip (execution.reach slots start w s).1.results,
        pair.2.status = .completed ∧ pair.1.step.config.output = name := by
  induction s with
  | zero => simp [none]
  | succ s ih =>
    -- The last slot goes with the result that its turn has added, the
    -- slots before with those before.
    obtain ⟨result, effect⟩ := (execution.reach_turn start w hs).exists_effect
    have lengths := execution.length_results_reach start w (show s ≤ slots.length by omega)
    rw [fresh, List.length_nil, Nat.zero_add] at lengths
    rw [effect.results, List.take_succ_eq_append_getElem hs,
      List.zip_append (by rw [lengths, List.length_take]; omega)]
    simp only [List.zip_cons_cons, List.zip_nil_left, List.mem_append,
      List.mem_singleton, or_and_right, exists_or, ← ih (by omega), exists_eq_left]
    by_cases completed : result.status = .completed
    · obtain ⟨records, hmade, -⟩ := effect.made_of_completed completed
      rw [hmade, Collections.mem_put_iff, eq_comm (a := name)]
      simp [completed]
    · simp [effect.made_of_not_completed completed, completed]

end Execution

/-- A run that is not dry makes no set of a reserved name. -/
theorem Execution.not_mem_made_of_reserved {execution : Execution (StateM (World ω))}
    {slots : List Slot} {s : Nat} (inMemory : execution.RunsIn env)
    (wet : execution.options.dryRun = false) (reserved : isReserved name = true) (start : Progress)
    (w : World ω) (none : start.made = []) (hs : s ≤ slots.length) :
    name ∉ (execution.reach slots start w s).1.made.map Prod.fst := by
  induction s with
  | zero => simp [none]
  | succ s ih =>
    have turn := execution.reach_turn start w hs
    have unmade := ih (by omega)
    generalize execution.reach slots start w (s + 1) = after at turn
    cases turn with
    | skipped _ _ => exact unmade
    | failed _ _ _ => exact unmade
    | completed _ ran _ =>
      have free := free_of_executeStep inMemory wet ran
      refine fun hmem => (Collections.mem_put_iff.mp hmem).elim unmade fun same => ?_
      exact ne_of_reserved reserved free same

theorem hasMade_iff {pipeline : Pipeline} {order : List Nat}
    {run : PipelineRun} (opened : PipelineRun)
    (resolved : resolveOrder (pipeline.steps.map Node.ofStep) = .ok order) :
    run.HasMade pipeline name ↔ ∃ pair ∈ (slotsOf pipeline order opened).zip run.stepResults,
      pair.2.status = .completed ∧ pair.1.step.config.output = name := by
  have steps : executionSteps pipeline = (slotsOf pipeline order opened).map Slot.step := by
    rw [executionSteps_of_ok resolved, ← map_place_slotsOf pipeline order opened, List.map_map]
    rfl
  rw [PipelineRun.HasMade, steps, List.zip_map_left]
  constructor
  · rintro ⟨pair, hpair, completed, output⟩
    obtain ⟨waited, hwaited, rfl⟩ := List.mem_map.mp hpair
    exact ⟨waited, hwaited, completed, output⟩
  · rintro ⟨waited, hwaited, completed, output⟩
    exact ⟨_, List.mem_map_of_mem hwaited, completed, output⟩

section

variable (env : Environment ω) (settings : EngineSettings) (pipeline : Pipeline) (run : PipelineRun)
  (options : RunOptions) (w : World ω)

theorem stored_openRun :
    ((openRun (memoryHost env) pipeline run).run w).2.stored = w.stored := by
  rw [openRun]
  cases run.startedAt <;> rfl

theorem stored_refuseCycle (cycle : CyclicDependency) :
    ((refuseCycle (memoryHost env) pipeline run cycle).run w).2.stored = w.stored := rfl

/-- A run whose steps cannot be ordered has made nothing. -/
theorem not_hasMade_refuseCycle (cycle : CyclicDependency) :
    ¬ ((refuseCycle (memoryHost env) pipeline run cycle).run w).1.HasMade pipeline name := by
  rintro ⟨pair, hpair, completed, -⟩
  obtain ⟨pending, -, skip⟩ := List.mem_map.mp (List.of_mem_zip hpair).2
  rw [← skip] at completed
  cases completed

/-- What a run has made are the sets that it has behind its last step. -/
theorem hasMade_endRun_iff {order : List Nat}
    (resolved : resolveOrder (pipeline.steps.map Node.ofStep) = .ok order)
    (name : String) (v : World ω) : ((endRun (memoryHost env) settings pipeline run options
      (lastTurn (memoryHost env) (aside env.isCancelled) run options w pipeline order).1).run
        v).1.HasMade pipeline name ↔
      name ∈ (lastTurn (memoryHost env) (aside env.isCancelled) run options w
        pipeline order).1.made.map Prod.fst := by
  rw [hasMade_iff run resolved, stepResults_endRun, lastTurn,
    Execution.mem_made_reach_zip_iff _ _ rfl rfl le_rfl, List.take_length]

/-- Only a dry run makes a set of a reserved name. -/
theorem dryRun_of_hasMade (reserved : isReserved name = true)
    (made : ((execute (memoryHost env) (aside env.isCancelled) settings pipeline run options).run
      w).1.HasMade pipeline name) : options.dryRun = true := by
  cases resolved : resolveOrder (pipeline.steps.map Node.ofStep) with
  | error cycle =>
    rw [execute_of_error _ _ settings run options w resolved] at made
    exact absurd made (not_hasMade_refuseCycle env pipeline _ _ cycle)
  | ok order =>
    rw [execute_of_ok _ _ settings run options w resolved,
      hasMade_endRun_iff env settings pipeline _ options _ resolved name] at made
    by_contra wet
    exact Execution.not_mem_made_of_reserved (Execution.runsIn_ofRun env pipeline _ options)
      (eq_false_of_ne_true wet) reserved _ _ rfl le_rfl made

/-- A run reaches a reserved collection only by dropping what it has made. -/
theorem records?_execute_of_reserved (reserved : isReserved name = true) :
    let ended :=
      (execute (memoryHost env) (aside env.isCancelled) settings pipeline run options).run w
    ∃ gone : List String,
      (name ∈ gone → options.cleanup = true ∧ isTemporary settings name = true ∧
        ended.1.HasMade pipeline name) ∧
      (env.NeverRefuses → options.cleanup = true → isTemporary settings name = true →
        ended.1.HasMade pipeline name → name ∈ gone) ∧
      ended.2.stored.records? name = (w.stored.removeAll gone).records? name := by
  intro ended
  cases resolved : resolveOrder (pipeline.steps.map Node.ofStep) with
  | error cycle =>
    have course :=
      execute_of_error (memoryHost env) (aside env.isCancelled) settings run options w resolved
    have unmade : ¬ ended.1.HasMade pipeline name := by
      rw [show ended = _ from course]
      exact not_hasMade_refuseCycle env pipeline _ _ cycle
    refine ⟨[], by simp, fun _ _ _ made => absurd made unmade, ?_⟩
    rw [Collections.removeAll_nil, show ended = _ from course, stored_refuseCycle, stored_openRun]
  | ok order =>
    have course :=
      execute_of_ok (memoryHost env) (aside env.isCancelled) settings run options w resolved
    have opening := stored_openRun env pipeline run w
    generalize (openRun (memoryHost env) pipeline run).run w = opened at course opening
    have kept := Execution.records?_reach_of_reserved
      (Execution.runsIn_ofRun env pipeline opened.1 options)
      { error := opened.1.error } opened.2 reserved
      (le_refl (slotsOf pipeline order opened.1).length)
    have made := hasMade_endRun_iff env settings pipeline opened.1 options opened.2 resolved name
    obtain ⟨gone, hgone, hall, hstored⟩ := stored_endRun env settings pipeline opened.1 options
      (lastTurn (memoryHost env) (aside env.isCancelled) opened.1 options opened.2 pipeline order).1
      (lastTurn (memoryHost env) (aside env.isCancelled) opened.1 options opened.2 pipeline order).2
    simp only [show ended = _ from course, made, hstored]
    -- The steps have left the collection, so it differs by what the end of the run removes.
    refine ⟨gone, fun hmem => hgone name hmem, fun never => hall name (never.alwaysDrops name), ?_⟩
    by_cases hmem : name ∈ gone
    · rw [Collections.records?_removeAll_of_mem hmem, Collections.records?_removeAll_of_mem hmem]
    · rw [Collections.records?_removeAll_of_not_mem hmem,
        Collections.records?_removeAll_of_not_mem hmem, lastTurn, kept, opening]

/-- A run of steps that make no set of a reserved name leaves the
reserved collections as they are. -/
theorem records?_execute_of_free
    (free : ∀ step ∈ pipeline.steps, isReserved step.config.output = false)
    (reserved : isReserved name = true) :
    ((execute (memoryHost env) (aside env.isCancelled) settings pipeline run options).run
      w).2.stored.records? name = w.stored.records? name := by
  obtain ⟨gone, hgone, -, left⟩ :=
    records?_execute_of_reserved env settings pipeline run options w reserved
  rw [left]
  refine Collections.records?_removeAll_of_not_mem fun hmem => ?_
  obtain ⟨-, -, pair, hpair, -, output⟩ := hgone hmem
  have hstep := mem_steps_of_mem_executionSteps (List.of_mem_zip hpair).1
  exact ne_of_reserved reserved (free _ hstep) output.symm

end

/-- **What a run leaves of a reserved collection.** Whatever the store refuses and whenever the run
is cancelled, a reserved collection that the run does not drop is as it was. On a store that refuses
nothing, only a collection that was not there stays as it was when the run drops it. -/
theorem execute_reserved (env : Environment ω) (settings : EngineSettings) (pipeline : Pipeline)
    (run : PipelineRun) (options : RunOptions) (w : World ω) (reserved : isReserved name = true) :
    let ended :=
      (execute (memoryHost env) (aside env.isCancelled) settings pipeline run options).run w
    (¬ DropsReserved settings options pipeline ended.1 name →
      ended.2.stored.records? name = w.stored.records? name) ∧
    (env.NeverRefuses → (ended.2.stored.records? name = w.stored.records? name ↔
      (DropsReserved settings options pipeline ended.1 name → w.stored.records? name = none))) := by
  intro ended
  obtain ⟨gone, hgone, hall, left⟩ :=
    records?_execute_of_reserved env settings pipeline run options w reserved
  have drops : name ∈ gone → DropsReserved settings options pipeline ended.1 name := fun hmem =>
    have ⟨cleanup, temporary, made⟩ := hgone hmem
    ⟨dryRun_of_hasMade env settings pipeline run options w reserved made, cleanup, temporary, made⟩
  -- On a store that refuses nothing, the run removes the collection exactly when it drops it.
  refine ⟨fun keeps => ?_, fun never => ⟨fun same drops => ?_, fun absent => ?_⟩⟩
  · rw [left, Collections.records?_removeAll_of_not_mem fun hmem => keeps (drops hmem)]
  · rw [← same, left, Collections.records?_removeAll_of_mem
      (hall never drops.cleanup drops.temporary drops.made)]
  · rw [left]
    by_cases hmem : name ∈ gone
    · rw [Collections.records?_removeAll_of_mem hmem, absent (drops hmem)]
    · rw [Collections.records?_removeAll_of_not_mem hmem]

/-- A step that makes a set of the name of the pipelines. -/
def overPipelines : Pipeline := .ofSteps [.passOn "copy" "users" "etl_pipelines"]

/-- A dry run of it that cleans up, beside stored pipelines. -/
def rehearseOverPipelines (settings : EngineSettings) : PipelineRun × World Unit :=
  (execute (memoryHost .calm) (aside Environment.calm.isCancelled) settings overPipelines
    (.create "run" .epoch overPipelines {}) { dryRun := true, cleanup := true }).run
      ⟨[("users", []), ("etl_pipelines", [])], ()⟩

/-- It keeps the stored pipelines, whose name is not temporary. -/
theorem rehearseOverPipelines_keeps : isReserved "etl_pipelines" = true ∧
    (rehearseOverPipelines {}).2.stored.records? "etl_pipelines" = some [] := by
  have reserved : isReserved "etl_pipelines" = true := by decide
  refine ⟨reserved, ?_⟩
  exact (execute_reserved .calm {} overPipelines (.create "run" .epoch overPipelines {})
    { dryRun := true, cleanup := true } ⟨[("users", []), ("etl_pipelines", [])], ()⟩ reserved).1
    fun drops => absurd drops.temporary (by decide +kernel)

/-- Where temporary names begin as theirs does, it drops them. -/
theorem rehearseOverPipelines_drops : isReserved "etl_pipelines" = true ∧
    (rehearseOverPipelines { tempPrefix := "etl_" }).2.stored.records? "etl_pipelines" = none := by
  decide +kernel

end RecordFlow
