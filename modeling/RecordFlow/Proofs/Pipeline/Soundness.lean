import RecordFlow.Proofs.Pipeline.BuiltGraph
import RecordFlow.Proofs.Run.Errors

/-!
# What validation promises

A definition in which validation finds no error can be built and run: its steps get different
ids, none of them writes to a reserved collection, and they have an order. The order respects
what the definition says of dependencies, as far as it names ids that it gives and sources
that the kinds of its steps read.

## Main results

* `ofInput_sound` — what is built of an accepted definition, and how its runs do not fail
* `ofInput_dependencies` — on what its steps depend
* `validation_sees_more` — a definition in which validation sees
  dependencies that the steps do not have
-/

namespace RecordFlow

variable {σ : Type} {input : PipelineInput} {steps : List Step}

/-- An accepted definition writes to no reserved collection, nor do its steps. -/
theorem PipelineInput.Accepted.free_outputs (accepted : input.Accepted)
    (builds : List.Forall₂ StepInput.Builds input.steps steps) :
    ∀ step ∈ steps, isReserved step.config.output = false := by
  intro step hstep
  obtain ⟨i, hi⟩ := List.getElem?_of_mem hstep
  obtain ⟨definition, hdefinition, built⟩ := exists_definition builds hi
  have node : input.nodes[i]? = some (Node.ofInput i definition) := by
    rw [input.getElem?_nodes, hdefinition]
    rfl
  have named := accepted.isNamedIn (List.mem_of_getElem? hdefinition) built
  exact accepted.outputs _ (List.mem_of_getElem? node) _ named.output

/-- An accepted definition is built. -/
theorem PipelineInput.Accepted.ofInput_run (accepted : input.Accepted) (now : StateM σ Timestamp)
    (freshId : StateM σ String) (w : σ) :
    ∃ pipeline w', (Pipeline.ofInput now freshId input).run.run w = (.ok pipeline, w') ∧
      List.Forall₂ StepInput.Builds input.steps pipeline.steps :=
  Pipeline.ofInput_run now freshId input w accepted.readable

/-- The steps of an accepted definition have an order. -/
theorem PipelineInput.Accepted.exists_order (accepted : input.Accepted)
    (builds : List.Forall₂ StepInput.Builds input.steps steps)
    (fresh : HasFreshIds input.steps steps) :
    ∃ order, resolveOrder (steps.map Node.ofStep) = .ok order := by
  obtain ⟨order, resolved⟩ := accepted.ordered
  exact exists_order_of_fewer resolved fun _ _ => dependsOn_of_built accepted builds fresh

/-- **What validation promises.** A pipeline is built of a definition without errors, and none
of its steps writes to a reserved collection. If the generated ids are fresh, all its steps
have different ids, there is an order for them, and no run tells of a cycle or of a reserved
name, whatever it works with. -/
theorem ofInput_sound (now : StateM σ Timestamp) (freshId : StateM σ String) (input : PipelineInput)
    (w : σ) (valid : (validate input).valid = true) :
    ∃ pipeline w', (Pipeline.ofInput now freshId input).run.run w = (.ok pipeline, w') ∧
      (∀ step ∈ pipeline.steps, isReserved step.config.output = false) ∧
      (HasFreshIds input.steps pipeline.steps →
        (pipeline.steps.map Step.id).Nodup ∧
        (∃ order, resolveOrder (pipeline.steps.map Node.ofStep) = .ok order) ∧
        ∀ (τ : Type) (host : Host (StateM τ)) (isCancelled : StateM τ Bool)
          (settings : EngineSettings) (options : RunOptions) (v : τ),
          let run := ((runPipeline host isCancelled settings pipeline options).run v).1
          (∀ cycle : CyclicDependency, run.error ≠ some cycle.message) ∧
          ∀ result ∈ run.stepResults, ∀ name,
            result.error ≠ some (StepError.reservedName name).message) := by
  have accepted := accepted_of_valid valid
  obtain ⟨pipeline, w', hrun, builds⟩ := accepted.ofInput_run now freshId w
  have free := accepted.free_outputs builds
  refine ⟨pipeline, w', hrun, free, fun fresh => ?_⟩
  obtain ⟨order, resolved⟩ := accepted.exists_order builds fresh
  refine ⟨nodup_ids accepted builds fresh, ⟨order, resolved⟩, ?_⟩
  intro τ host isCancelled settings options v run
  constructor
  · exact runPipeline_error_ne_cycle host isCancelled settings options v resolved
  · intro result hresult name
    exact runPipeline_error_ne_reserved host isCancelled settings options v
      resolved free hresult name

/-- The definition of a step that passes on up to ten records. -/
def StepInput.passOn (id : Option String) (source output : String) (others : List (String × Json))
    (order : Int) (dependsOn : List String) : StepInput :=
  ⟨id, output, .limit,
    .obj ([("source", .str source), ("output", .str output), ("limit", .int 10)] ++ others),
    order, dependsOn⟩

/-- The definition of a pipeline of some steps. -/
def PipelineInput.ofSteps (steps : List StepInput) : PipelineInput :=
  ⟨"pipeline", none, steps, .active, none, []⟩

/-- Ids with the numbers of those generated before. -/
def countedId : StateM Nat String := fun n => ("step " ++ toString n, n + 1)

/-- A step without an id, behind one that it names. -/
def keptInput : PipelineInput :=
  .ofSteps [.passOn none "users" "kept" [] 0 ["choose"],
    .passOn (some "choose") "users" "chosen" [] 0 []]

/-- What is built of a definition, seen through a property of its steps. -/
theorem eq_of_ofInput_run {α : Type} {w w' : σ} {now : StateM σ Timestamp}
    {freshId : StateM σ String} {pipeline : Pipeline} (view : List Step → α)
    (h : (Pipeline.ofInput now freshId input).run.run w = (.ok pipeline, w')) :
    ((Pipeline.ofInput now freshId input).run.run w).1.toOption.map
      (fun built => view built.steps) = some (view pipeline.steps) := by
  rw [h]
  rfl

theorem hasFreshIds_of_ofInput_run {w w' : σ} {now : StateM σ Timestamp} {freshId : StateM σ String}
    {pipeline : Pipeline} (ids : List String)
    (h : (Pipeline.ofInput now freshId input).run.run w = (.ok pipeline, w'))
    (generated : ((Pipeline.ofInput now freshId input).run.run w).1.toOption.map
      (fun built => generatedIds input.steps built.steps) = some ids) (nodup : ids.Nodup)
    (new : ∀ id ∈ ids, ∀ step ∈ input.steps, step.id ≠ some id ∧ id ∉ step.dependsOn) :
    HasFreshIds input.steps pipeline.steps := by
  have same : generatedIds input.steps pipeline.steps = ids :=
    Option.some.inj ((eq_of_ofInput_run (generatedIds input.steps) h).symm.trans generated)
  constructor
  · rwa [same]
  · exact fun id hid step hstep => (new id (same ▸ hid) step hstep).1
  · exact fun id hid step hstep => (new id (same ▸ hid) step hstep).2

theorem keptInput_sound : (validate keptInput).valid = true ∧
    ∃ pipeline w', (Pipeline.ofInput (pure .epoch) countedId keptInput).run.run 0 =
      (.ok pipeline, w') ∧ HasFreshIds keptInput.steps pipeline.steps ∧
      (pipeline.steps.map Step.id).Nodup ∧
      ∃ order, resolveOrder (pipeline.steps.map Node.ofStep) = .ok order := by
  have valid : (validate keptInput).valid = true := by decide +kernel
  obtain ⟨pipeline, w', hrun, -, sound⟩ := ofInput_sound (pure .epoch) countedId keptInput 0 valid
  have fresh : HasFreshIds keptInput.steps pipeline.steps :=
    hasFreshIds_of_ofInput_run ["step 0"] hrun (by decide +kernel) (by decide) (by decide)
  exact ⟨valid, pipeline, w', hrun, fresh, (sound fresh).1, (sound fresh).2.1⟩

/-- **On what the steps depend.** Let a definition without errors name no ids but those that it
gives. If the generated ids are fresh, the steps depend on the places that validation sees when only
the sources count that the kinds of the steps read; these are places that validation has seen, and
all of them if the definition names no other sources. Every id that a step names is that of a step
on which it depends and which stands in front of it in the order. -/
theorem ofInput_dependencies (now : StateM σ Timestamp) (freshId : StateM σ String)
    (input : PipelineInput) (w : σ) (valid : (validate input).valid = true)
    (names : input.NamesGivenIds) :
    ∃ pipeline w', (Pipeline.ofInput now freshId input).run.run w = (.ok pipeline, w') ∧
      (HasFreshIds input.steps pipeline.steps →
        predecessors (pipeline.steps.map Node.ofStep) =
          predecessors (input.nodesReading StepInput.readSources) ∧
        (∀ b a, DependsOn (pipeline.steps.map Node.ofStep) b a → DependsOn input.nodes b a) ∧
        ((∀ step ∈ input.steps, step.namedSources ⊆ step.readSources) →
          predecessors (pipeline.steps.map Node.ofStep) = predecessors input.nodes) ∧
        ∃ order, resolveOrder (pipeline.steps.map Node.ofStep) = .ok order ∧
          ∀ b step, pipeline.steps[b]? = some step → ∀ id ∈ step.dependsOn,
            ∃ a other, pipeline.steps[a]? = some other ∧ other.id = id ∧
              DependsOn (pipeline.steps.map Node.ofStep) b a ∧
              ∀ s, order[s]? = some b → a ∈ order.take s) := by
  have accepted := accepted_of_valid valid
  obtain ⟨pipeline, w', hrun, builds⟩ := accepted.ofInput_run now freshId w
  refine ⟨pipeline, w', hrun, fun fresh => ?_⟩
  obtain ⟨order, resolved⟩ := accepted.exists_order builds fresh
  refine ⟨predecessors_built accepted names builds fresh,
    fun _ _ => dependsOn_of_built accepted builds fresh,
    predecessors_built_of_read accepted names builds fresh, order, resolved, ?_⟩
  intro b step hstep id named
  obtain ⟨a, other, hother, same, dependsOn⟩ := exists_dependsOn_of_named names builds hstep named
  refine ⟨a, other, hother, same, dependsOn, fun s hs => ?_⟩
  obtain ⟨hlt, rfl⟩ := List.getElem?_eq_some_iff.mp hs
  exact (resolveOrder_ok resolved).1.mem_take_of_dependsOn hlt dependsOn

theorem keptInput_dependencies : (validate keptInput).valid = true ∧ keptInput.NamesGivenIds ∧
    ∃ pipeline w', (Pipeline.ofInput (pure .epoch) countedId keptInput).run.run 0 =
      (.ok pipeline, w') ∧ HasFreshIds keptInput.steps pipeline.steps ∧
      predecessors (pipeline.steps.map Node.ofStep) = predecessors keptInput.nodes := by
  have valid : (validate keptInput).valid = true := by decide +kernel
  have names : keptInput.NamesGivenIds := by
    unfold PipelineInput.NamesGivenIds
    decide
  obtain ⟨pipeline, w', hrun, depends⟩ :=
    ofInput_dependencies (pure .epoch) countedId keptInput 0 valid names
  have fresh : HasFreshIds keptInput.steps pipeline.steps :=
    hasFreshIds_of_ofInput_run ["step 0"] hrun (by decide +kernel) (by decide) (by decide)
  have read : ∀ step ∈ keptInput.steps, step.namedSources ⊆ step.readSources := by
    decide +kernel
  exact ⟨valid, names, pipeline, w', hrun, fresh, (depends fresh).2.2.1 read⟩

/-- A definition with a key that names a source for other kinds only, and a step that names the
place of another one instead of an id. -/
def looseInput : PipelineInput :=
  .ofSteps [.passOn none "users" "kept" [("from", .str "chosen")] 0 [],
    .passOn (some "choose") "users" "chosen" [] 0 [],
    .passOn (some "last") "users" "copied" [] (-1) ["#0"]]

/-- Validation sees dependencies that the steps do not have. -/
theorem validation_sees_more : (validate looseInput).valid = true ∧
    predecessors looseInput.nodes = [[1], [], [0]] ∧
    ∃ pipeline w', (Pipeline.ofInput (pure .epoch) countedId looseInput).run.run 0 =
      (.ok pipeline, w') ∧ HasFreshIds looseInput.steps pipeline.steps ∧
      predecessors (pipeline.steps.map Node.ofStep) = [[], [], []] := by
  have valid : (validate looseInput).valid = true := by decide +kernel
  obtain ⟨pipeline, w', hrun, -⟩ := (accepted_of_valid valid).ofInput_run (pure .epoch) countedId 0
  refine ⟨valid, by decide +kernel, pipeline, w', hrun, ?_, ?_⟩
  · exact hasFreshIds_of_ofInput_run ["step 0"] hrun (by decide +kernel) (by decide) (by decide)
  · refine Option.some.inj ((eq_of_ofInput_run (fun steps => predecessors (steps.map Node.ofStep))
      hrun).symm.trans ?_)
    decide +kernel

end RecordFlow
