import RecordFlow.Proofs.Pipeline.Soundness
import RecordFlow.Proofs.Run.Sources

/-!
# What a warning is good for

Validation warns of every source that no other step makes, since such a source has to be stored
already. These warnings miss nothing: a source that a run finds unresolved is one of which
validation has warned. Any other source is made by a step that stands in front and is completed, and
its set is still there when the source is read.

## Main definitions

* `Issue.unverifiedSource` — the warning of a source
* `PipelineInput.Announces` — validation warns of a source of the step at a place

## Main results

* `PipelineInput.Accepted.announces_of_reads` — validation warns of a
  source that no other step makes
* `ofInput_announces_unresolved` — it warns of every source that a run finds unresolved
-/

namespace RecordFlow

variable {ω : Type} {input : PipelineInput} {pipeline : Pipeline} {steps : List Step} {i s : Nat}
  {name : String}

/-- The warning of a source that no step makes but perhaps the one that reads it. -/
def Issue.unverifiedSource (reader source : String) : Issue :=
  { code := .unverifiedSource
    message := "Step '" ++ reader ++ "' reads '" ++ source ++
      "', which no step produces; it must exist in the record store"
    stepId := some reader }

/-- Validation warns of a source of the step at a place. -/
def PipelineInput.Announces (input : PipelineInput) (i : Nat) (name : String) : Prop :=
  ∃ node, input.nodes[i]? = some node ∧
    Issue.unverifiedSource node.id name ∈ (validate input).warnings

namespace Validation

theorem isProduced_iff {nodes : List Node} {source reader : String} :
    isProduced nodes source reader = true ↔
      ∃ node ∈ nodes, node.output = some source ∧ node.id ≠ reader := by
  simp [isProduced]

/-- The sources of which validation warns are those that nodes read and no other node makes. -/
theorem mem_sourceWarnings_iff {nodes : List Node} {issue : Issue} : issue ∈ sourceWarnings nodes ↔
    ∃ node ∈ nodes, ∃ source ∈ node.sources, isProduced nodes source node.id = false ∧
      Issue.unverifiedSource node.id source = issue := by
  simp [sourceWarnings, Issue.unverifiedSource, and_assoc]

end Validation

/-- Validation warns of what a step reads and no other step makes. -/
theorem PipelineInput.Accepted.announces_of_reads (accepted : input.Accepted)
    (builds : List.Forall₂ StepInput.Builds input.steps steps) {step : Step}
    (hstep : steps[i]? = some step) (reads : name ∈ step.config.sources)
    (alone : ∀ a other, a ≠ i → steps[a]? = some other → other.config.output ≠ name) :
    input.Announces i name := by
  obtain ⟨definition, hdefinition, built⟩ := exists_definition builds hstep
  have hnode : input.nodes[i]? = some (Node.ofInput i definition) := by
    rw [input.getElem?_nodes, hdefinition]
    rfl
  have named := accepted.isNamedIn (List.mem_of_getElem? hdefinition) built
  have notMade : Validation.isProduced input.nodes name (Node.ofInput i definition).id = false := by
    refine Bool.eq_false_iff.mpr fun made => ?_
    obtain ⟨node, hmem, output, different⟩ := Validation.isProduced_iff.mp made
    -- The step that validation sees making the source is built, too, and makes it.
    obtain ⟨a, ha⟩ := List.getElem?_of_mem hmem
    have elsewhere : a ≠ i := by
      rintro rfl
      obtain rfl := Option.some.inj (hnode.symm.trans ha)
      exact different rfl
    rw [input.getElem?_nodes, Option.map_eq_some_iff] at ha
    obtain ⟨definition', hdefinition', rfl⟩ := ha
    obtain ⟨other, hother, built'⟩ := exists_built builds hdefinition'
    have named' := accepted.isNamedIn (List.mem_of_getElem? hdefinition') built'
    exact alone a other elsewhere hother (Option.some.inj (named'.output.symm.trans output))
  refine ⟨_, hnode, List.mem_append_left _ ?_⟩
  exact Validation.mem_sourceWarnings_iff.mpr
    ⟨_, List.mem_of_getElem? hnode, name, named.sources reads, notMade, rfl⟩

/-- What a run finds unresolved was not stored at first, and validation has warned of it. -/
theorem PipelineInput.Accepted.announces_of_unresolved {order : List Nat} {result : StepResult}
    (accepted : input.Accepted) (builds : List.Forall₂ StepInput.Builds input.steps pipeline.steps)
    (resolved : resolveOrder (pipeline.steps.map Node.ofStep) = .ok order) (env : Environment ω)
    (settings : EngineSettings) (options : RunOptions) (w : World ω)
    (hresult : ((runPipeline (memoryHost env) (aside env.isCancelled) settings pipeline options).run
      w).1.stepResults[s]? = some result)
    (unresolved : result.error = some (StepError.unresolvedSource name).message) :
    ∃ i, order[s]? = some i ∧ (pipeline.steps[i]?).map Step.id = some result.stepId ∧
      input.Announces i name ∧ w.stored.records? name = none := by
  have ends :=
    runPipeline_endsWith (memoryHost env) (aside env.isCancelled) settings options w resolved
  have inMemory := Execution.runsIn_ofRun env pipeline
    ((beginRun (memoryHost env) pipeline options).run w).1 options
  rw [ends.stepResults] at hresult
  obtain ⟨hs, turn, added⟩ := Execution.turn_of_result hresult
  obtain ⟨hstep, hpending⟩ := mem_freshSlots (List.getElem_mem hs)
  obtain ⟨_, effect⟩ := Execution.effect_of_result hresult
  rcases turn.result_cases added with ⟨-, pending⟩ | ⟨failed, w₁, error, ran, -, hmessage⟩
  · -- A step that has not failed has the error of its pending result, which has none.
    rw [unresolved, hpending] at pending
    cases pending
  · obtain rfl := StepError.eq_unresolvedSource_of_message
      (Option.some.inj (hmessage.symm.trans unresolved))
    obtain ⟨reads, notMade, notStored⟩ := Execution.unresolved_of_executeStep inMemory ran
    rw [Execution.stored_attemptIn inMemory] at notStored
    refine ⟨(freshSlots pipeline order)[s].place, ?_, ?_, ?_, ?_⟩
    · rw [← congrArg (·[s]?) (map_place_freshSlots resolved)]
      simp [hs]
    · rw [hstep, effect.stepId, hpending]
      rfl
    · refine accepted.announces_of_reads builds hstep reads fun a other different hother output =>
        ?_
      subst output
      -- Any other step that makes the source has made it when it is read.
      have started :=
        mt (Execution.statusAt_iff hresult).mp (by simp [failed] : result.status ≠ .skipped)
      have made := Execution.mem_made_of_reads resolved rfl hs started hother different reads
      exact absurd made (Collections.records?_eq_none_iff_not_mem.mp notMade)
    · by_contra there
      have kept := Execution.isSome_stored_reach inMemory {}
        ((beginRun (memoryHost env) pipeline options).run w).2 hs.le
        (Option.isSome_iff_ne_none.mpr there)
      rw [notStored] at kept
      cases kept

/-- **Unresolved sources are announced.** Let a definition be without errors. Whatever the store
refuses and whenever a run of the built pipeline is cancelled: if a step of the run fails because of
an unresolved source, validation has warned of that source of that step. If everything of which
validation warns is stored at first, no step fails for that reason. -/
theorem ofInput_announces_unresolved {σ : Type} (now : StateM σ Timestamp)
    (freshId : StateM σ String) (input : PipelineInput) (w : σ)
    (valid : (validate input).valid = true) :
    ∃ pipeline w', (Pipeline.ofInput now freshId input).run.run w = (.ok pipeline, w') ∧
      ∀ (ω : Type) (env : Environment ω) (settings : EngineSettings)
      (options : RunOptions) (v : World ω),
        let run :=
          ((runPipeline (memoryHost env) (aside env.isCancelled) settings pipeline options).run v).1
        (∀ (s : Nat) (result : StepResult) (name : String), run.stepResults[s]? = some result →
          result.error = some (StepError.unresolvedSource name).message →
          ∃ order i, resolveOrder (pipeline.steps.map Node.ofStep) = .ok order ∧
            order[s]? = some i ∧ (pipeline.steps[i]?).map Step.id = some result.stepId ∧
            input.Announces i name) ∧
        ((∀ i name, input.Announces i name → (v.stored.records? name).isSome) →
          ∀ result ∈ run.stepResults, ∀ name,
            result.error ≠ some (StepError.unresolvedSource name).message) := by
  have accepted := accepted_of_valid valid
  obtain ⟨pipeline, w', hrun, builds⟩ := accepted.ofInput_run now freshId w
  refine ⟨pipeline, w', hrun, fun ω env settings options v => ?_⟩
  intro run
  have announced : ∀ (s : Nat) (result : StepResult) (name : String),
    run.stepResults[s]? = some result →
      result.error = some (StepError.unresolvedSource name).message →
      ∃ order i, resolveOrder (pipeline.steps.map Node.ofStep) = .ok order ∧ order[s]? = some i ∧
        (pipeline.steps[i]?).map Step.id = some result.stepId ∧ input.Announces i name ∧
        v.stored.records? name = none := by
    intro s result name hresult unresolved
    cases resolved : resolveOrder (pipeline.steps.map Node.ofStep) with
    | ok order =>
      obtain ⟨i, place, id, announces, absent⟩ :=
        accepted.announces_of_unresolved builds resolved env settings options v hresult unresolved
      exact ⟨order, i, rfl, place, id, announces, absent⟩
    | error cycle =>
      -- Without an order all steps are skipped, and a skipped step has no error.
      have skipped := runPipeline_stepResults_of_error (memoryHost env)
        (aside env.isCancelled) settings options v resolved
      have hmem := List.mem_of_getElem? hresult
      rw [skipped, List.mem_map] at hmem
      obtain ⟨pending, hpending, rfl⟩ := hmem
      obtain ⟨step, -, rfl⟩ := List.mem_map.mp hpending
      cases unresolved
  constructor
  · intro s result name hresult unresolved
    obtain ⟨order, i, resolved, place, id, announces, -⟩ :=
      announced s result name hresult unresolved
    exact ⟨order, i, resolved, place, id, announces⟩
  · intro stored result hmem name unresolved
    obtain ⟨s, hresult⟩ := List.getElem?_of_mem hmem
    obtain ⟨order, i, -, -, -, announces, absent⟩ := announced s result name hresult unresolved
    have there := stored i name announces
    rw [absent] at there
    cases there

/-- A step that reads what no step makes. -/
def lonelyInput : PipelineInput := .ofSteps [.passOn (some "copy") "users" "copied" [] 0 []]

theorem lonelyInput_announces_unresolved : (validate lonelyInput).valid = true ∧
    ∃ pipeline w', (Pipeline.ofInput (pure .epoch) countedId lonelyInput).run.run 0 =
      (.ok pipeline, w') ∧
        ∃ result, ((runPipeline (memoryHost .calm) (aside Environment.calm.isCancelled) {} pipeline
            {}).run ⟨[], ()⟩).1.stepResults[0]? = some result ∧
        result.error = some (StepError.unresolvedSource "users").message ∧
        ∃ i, lonelyInput.Announces i "users" := by
  have valid : (validate lonelyInput).valid = true := by decide +kernel
  obtain ⟨pipeline, w', hrun, announces⟩ :=
    ofInput_announces_unresolved (pure .epoch) countedId lonelyInput 0 valid
  let errorOf (built : Pipeline) : Option (Option String) :=
    ((runPipeline (memoryHost .calm) (aside Environment.calm.isCancelled) {} built {}).run
      ⟨[], ()⟩).1.stepResults[0]?.map StepResult.error
  have seen : some (errorOf pipeline) =
      some (some (some (StepError.unresolvedSource "users").message)) := by
    refine (congrArg (fun built => built.1.toOption.map errorOf) hrun).symm.trans ?_
    decide +kernel
  obtain ⟨result, hresult, unresolved⟩ := Option.map_eq_some_iff.mp (Option.some.inj seen)
  obtain ⟨order, i, -, -, -, announced⟩ :=
    (announces Unit .calm {} {} ⟨[], ()⟩).1 0 result "users" hresult unresolved
  exact ⟨valid, pipeline, w', hrun, result, hresult, unresolved, i, announced⟩

end RecordFlow
