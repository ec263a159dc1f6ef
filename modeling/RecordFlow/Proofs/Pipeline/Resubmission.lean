import RecordFlow.Proofs.Pipeline.Requirement
import RecordFlow.Proofs.Pipeline.Rereading
import RecordFlow.Proofs.Pipeline.Warning

/-!
# Definitions that are submitted again

A pipeline gives its definition in a normal form: defaults are written out, unknown keys are gone,
and every operator has its first name. Validation, which looks at configurations without reading
them, sees other documents than before. What it sees of them is what it has seen, but for sources
that no step reads. So an accepted definition in normal form is accepted again, with no new
warnings, and gives the steps that it was made of. This needs that all ids are given: ids that are
generated in place of lacking ones are not those that validation has seen.

## Main definitions

* `Node.Covers` — a node has the id, the output and all sources of another one
* `PipelineInput.GivesIds` — a definition gives the ids of all of its steps

## Main results

* `Pipeline.nodes_toInput` — validation sees the definition of a pipeline as its steps are
* `Validation.warnings_subset` — of nodes with fewer sources there are fewer warnings
* `accepted_toInput` — what is built of an accepted definition is accepted in normal form
* `resubmission_isStable` — an accepted definition is stable under resubmission
-/

namespace RecordFlow

variable {input : PipelineInput} {pipeline : Pipeline} {steps : List Step}

/-! ### What validation sees of a normal form -/

namespace StepConfig

theorem lookup_listField {α : Type} {name other : String} (write : α → Json)
    (items : List α) (h : name ≠ other) : (listField other write items).lookup name = none := by
  cases items with
  | nil => rfl
  | cons a items => simp [listField, List.lookup_cons, beq_false_of_ne h]

/-- The document of a configuration names the sources that the configuration reads and no others. -/
theorem sourcesIn_toJson (config : StepConfig) : Node.sourcesIn config.toJson = config.sources := by
  -- The keys of sources of other kinds are looked up in vain, in the
  -- fields that may be left out, too.
  cases config <;>
    simp [Node.sourcesIn, Node.sourceKeys, List.filterMap_cons, Node.textAt?, toJson,
      toFields, sources, Json.field?, List.lookup_cons, List.lookup_append, lookup_listField,
      textsJson, Json.asArr?, Json.asStr?, Function.comp_def]

theorem textAt?_output_toJson (config : StepConfig) :
    Node.textAt? config.toJson "output" = some config.output := by
  cases config <;>
    simp [Node.textAt?, toJson, toFields, output, Json.field?, List.lookup_cons, Json.asStr?]

end StepConfig

/-- Validation sees the definition of a step as the step is, wherever it stands. -/
theorem Node.ofInput_toInput (place : Nat) (step : Step) :
    Node.ofInput place step.toInput = Node.ofStep step := by
  simp [Node.ofInput, Node.ofStep, Step.toInput, StepConfig.sourcesIn_toJson,
    StepConfig.textAt?_output_toJson]

/-- Validation sees the definition of a pipeline as its steps are. -/
theorem Pipeline.nodes_toInput (pipeline : Pipeline) :
    pipeline.toInput.nodes = pipeline.steps.map Node.ofStep := by
  refine List.ext_getElem? fun i => ?_
  rw [PipelineInput.getElem?_nodes]
  simp [toInput, Function.comp_def, Node.ofInput_toInput]

/-! ### Having fewer sources -/

/-- A node has the id and the output of another one, and all of its sources. -/
structure Node.Covers (wide node : Node) : Prop where
  id : wide.id = node.id
  output : wide.output = node.output
  sources : node.sources ⊆ wide.sources

section

variable {wide nodes : List Node}

theorem Node.map_id_eq (covers : List.Forall₂ Node.Covers wide nodes) :
    wide.map Node.id = nodes.map Node.id := by
  induction covers with
  | nil => rfl
  | cons first _ ih => rw [List.map_cons, List.map_cons, first.id, ih]

namespace Validation

theorem isProduced_congr (covers : List.Forall₂ Node.Covers wide nodes) (source reader : String) :
    isProduced wide source reader = isProduced nodes source reader := by
  induction covers with
  | nil => rfl
  | cons first _ ih =>
    simp only [isProduced, List.any_cons, first.id, first.output] at ih ⊢
    rw [ih]

theorem producers_congr (covers : List.Forall₂ Node.Covers wide nodes) :
    producers wide = producers nodes := by
  have made : (wide.filterMap fun node => node.output.map fun output => (output, node.id)) =
      nodes.filterMap fun node => node.output.map fun output => (output, node.id) := by
    induction covers with
    | nil => rfl
    | cons first _ ih => simp only [List.filterMap_cons, first.id, first.output, ih]
  rw [producers, producers, made]

/-- Of nodes with fewer sources there are fewer warnings. -/
theorem warnings_subset (covers : List.Forall₂ Node.Covers wide nodes) :
    sourceWarnings nodes ++ outputWarnings nodes ⊆ sourceWarnings wide ++ outputWarnings wide := by
  have ofSources : sourceWarnings nodes ⊆ sourceWarnings wide := by
    intro issue reported
    obtain ⟨node, hnode, source, reads, notMade, rfl⟩ := mem_sourceWarnings_iff.mp reported
    obtain ⟨other, hother, covered⟩ := exists_of_forall₂ covers hnode
    rw [← covered.id] at notMade ⊢
    rw [← isProduced_congr covers] at notMade
    exact mem_sourceWarnings_iff.mpr ⟨other, hother, source, covered.sources reads, notMade, rfl⟩
  have ofOutputs : outputWarnings nodes = outputWarnings wide := by
    rw [outputWarnings, outputWarnings, producers_congr covers]
  rw [ofOutputs]
  exact List.append_subset.mpr ⟨List.subset_append_of_subset_left _ ofSources,
    List.subset_append_right _ _⟩

end Validation

end

/-! ### Definitions that give all ids -/

/-- A definition gives the ids of all of its steps. -/
def PipelineInput.GivesIds (input : PipelineInput) : Prop :=
  ∀ step ∈ input.steps, ∃ id, step.id = some id

namespace PipelineInput.GivesIds

/-- No id is generated where all are given. -/
theorem hasFreshIds (given : input.GivesIds) (steps : List Step) :
    HasFreshIds input.steps steps := by
  have none : generatedIds input.steps steps = [] := by
    refine List.filterMap_eq_nil_iff.mpr fun (definition, step) paired => ?_
    obtain ⟨id, hid⟩ := given definition (List.of_mem_zip paired).1
    simp [hid]
  constructor <;> simp [none]

/-- Validation sees all that the steps read. -/
theorem covers (given : input.GivesIds) (accepted : input.Accepted)
    (builds : List.Forall₂ StepInput.Builds input.steps steps) :
    List.Forall₂ Node.Covers input.nodes (steps.map Node.ofStep) := by
  have length : input.nodes.length = (steps.map Node.ofStep).length := by
    simp [PipelineInput.nodes, builds.length_eq]
  refine List.forall₂_iff_get.mpr ⟨length, fun i hi hi' => ?_⟩
  have hstep : i < steps.length := by simpa using hi'
  obtain ⟨definition, hdefinition, built⟩ :=
    exists_definition builds (List.getElem?_eq_getElem hstep)
  have hmem := List.mem_of_getElem? hdefinition
  have node : input.nodes.get ⟨i, hi⟩ = Node.ofInput i definition := by
    refine Option.some.inj ?_
    rw [List.get_eq_getElem, ← List.getElem?_eq_getElem, input.getElem?_nodes, hdefinition]
    rfl
  obtain ⟨id, hid⟩ := given definition hmem
  have named := accepted.isNamedIn hmem built
  rw [node, List.get_eq_getElem, List.getElem_map]
  exact ⟨by simp [Node.ofInput, Node.ofStep, hid, built.id id hid], named.output, named.sources⟩

end PipelineInput.GivesIds

/-! ### Definitions in normal form -/

/-- What is built of an accepted definition that gives all ids is accepted in normal form. -/
theorem accepted_toInput (accepted : input.Accepted) (given : input.GivesIds)
    (builds : List.Forall₂ StepInput.Builds input.steps pipeline.steps)
    (sound : ∀ step ∈ pipeline.steps, step.IsSound) : pipeline.toInput.Accepted := by
  have fresh := given.hasFreshIds pipeline.steps
  have ids : pipeline.toInput.nodes.map Node.id = input.nodes.map Node.id := by
    rw [pipeline.nodes_toInput, Node.map_id_eq (given.covers accepted builds)]
  constructor
  case ids => exact ids ▸ accepted.ids
  case configs =>
    intro definition hdefinition
    obtain ⟨step, hstep, rfl⟩ := List.mem_map.mp hdefinition
    exact ⟨_, step.config, rfl, StepConfig.parse_toJson (sound step hstep).config⟩
  case dependencies =>
    intro definition hdefinition id named
    obtain ⟨step, hstep, rfl⟩ := List.mem_map.mp hdefinition
    obtain ⟨origin, horigin, built⟩ := exists_of_forall₂ builds hstep
    rw [ids]
    exact accepted.dependencies origin horigin id (built.dependsOn ▸ named)
  case outputs =>
    rw [pipeline.nodes_toInput]
    intro node hnode output makes
    obtain ⟨step, hstep, rfl⟩ := List.mem_map.mp hnode
    obtain rfl := Option.some.inj makes
    exact accepted.free_outputs builds step hstep
  case ordered =>
    -- The order that validation has found need not be the one of the
    -- steps, which may depend on less.
    rw [pipeline.nodes_toInput]
    exact accepted.exists_order builds fresh

/-- Steps are made of their definitions, without fresh ids. -/
theorem stepsOfInputs_toInput {m : Type → Type} [Monad m] [LawfulMonad m] (freshId : m String)
    (sound : ∀ step ∈ steps, step.IsSound) :
    stepsOfInputs freshId (steps.map Step.toInput) = pure steps := by
  have drafts : (steps.map Step.toInput).mapM StepDraft.ofInput = .ok (steps.map Step.toDraft) := by
    rw [mapM_eq_ok_iff, List.forall₂_map_left_iff, List.forall₂_map_right_iff]
    exact List.forall₂_same.mpr fun step hstep => Step.ofInput_toInput (sound step hstep)
  have read : (ExceptT.mk (pure (.ok (steps.map Step.toDraft))) :
      ExceptT StepError m (List StepDraft)) = pure (steps.map Step.toDraft) := rfl
  rw [stepsOfInputs, drafts, read, pure_bind]
  exact completeSteps_toDraft (liftM freshId : ExceptT StepError m String) sound

namespace Pipeline

variable {σ : Type} (sound : ∀ step ∈ pipeline.steps, step.IsSound) (now : StateM σ Timestamp)
  (freshId : StateM σ String) (w : σ)

include sound

/-- A pipeline that is built of the definition of another one differs from
it by its id and its times. -/
theorem ofInput_toInput : (Pipeline.ofInput now freshId pipeline.toInput).run.run w =
    (.ok { pipeline with id :=
  (freshId.run (now.run w).2).1, createdAt := (now.run w).1, updatedAt := (now.run w).1 },
      (freshId.run (now.run w).2).2) := by
  simp only [Pipeline.ofInput, run_exceptBind, run_lift, toInput,
    stepsOfInputs_toInput freshId sound]
  rfl

/-- A pipeline that is redefined by its own definition differs by the time of the change. -/
theorem apply_toInput : (pipeline.apply now freshId pipeline.toInput).run.run w =
    (.ok { pipeline with updatedAt := (now.run w).1 }, (now.run w).2) := by
  simp only [Pipeline.apply, run_exceptBind, run_lift, toInput, stepsOfInputs_toInput freshId sound]
  rfl

end Pipeline

/-- **Accepted definitions are stable.** Let validation find no errors in a definition that gives
all ids, and let its numbers be such as a document can have. The built pipeline gives a
definition that is accepted again, of which validation warns no more than before, for no step of
a source of which it has not warned there before. A pipeline that is built of it, whenever and
with whatever ids, has the same steps in the same order, and to redefine the pipeline by it
changes nothing but the time of the change. -/
theorem resubmission_isStable {σ : Type} (now : StateM σ Timestamp) (freshId : StateM σ String)
    (input : PipelineInput) (w : σ) (valid : (validate input).valid = true) (given : input.GivesIds)
    (fits : ∀ step ∈ input.steps, step.Fits sizeLimit) :
    ∃ pipeline w', (Pipeline.ofInput now freshId input).run.run w = (.ok pipeline, w') ∧
      (validate pipeline.toInput).valid = true ∧
      (validate pipeline.toInput).warnings ⊆ (validate input).warnings ∧
      (∀ i name, pipeline.toInput.Announces i name → input.Announces i name) ∧
      ∀ (τ : Type) (now' : StateM τ Timestamp) (freshId' : StateM τ String) (v : τ),
        (∃ again v', (Pipeline.ofInput now' freshId' pipeline.toInput).run.run v = (.ok again, v') ∧
          again.steps = pipeline.steps ∧
          ∃ order, resolveOrder (pipeline.steps.map Node.ofStep) = .ok order ∧
            resolveOrder (again.steps.map Node.ofStep) = .ok order) ∧
        (pipeline.apply now' freshId' pipeline.toInput).run.run v =
          (.ok { pipeline with updatedAt := (now'.run v).1 }, (now'.run v).2) := by
  obtain ⟨named, nonempty, accepted⟩ := valid_iff.mp valid
  obtain ⟨id, steps, w', hrun, builds⟩ :=
    Pipeline.ofInput_run_create now freshId input w accepted.readable
  let pipeline := Pipeline.create id (now.run w).1 input steps
  have sound : ∀ step ∈ pipeline.steps, step.IsSound := isSound_of_builds fits builds
  have covers : List.Forall₂ Node.Covers input.nodes pipeline.toInput.nodes := by
    rw [pipeline.nodes_toInput]
    exact given.covers accepted builds
  have fewer : (validate pipeline.toInput).warnings ⊆ (validate input).warnings :=
    Validation.warnings_subset covers
  obtain ⟨order, resolved⟩ := accepted.exists_order builds (given.hasFreshIds steps)
  refine ⟨pipeline, w', hrun, ?_, fewer, ?_,
    fun τ now' freshId' v => ⟨?_, Pipeline.apply_toInput sound now' freshId' v⟩⟩
  · refine valid_iff.mpr
      ⟨named, fun none => nonempty ?_, accepted_toInput accepted given builds sound⟩
    obtain rfl : steps = [] := List.map_eq_nil_iff.mp none
    exact List.forall₂_nil_right_iff.mp builds
  · rintro i name ⟨node, hnode, warned⟩
    -- A warning names its step by the id, so it counts for the place where this id has been before.
    have ids := congrArg (·[i]?) (Node.map_id_eq covers)
    simp only [List.getElem?_map, hnode, Option.map_some, Option.map_eq_some_iff] at ids
    obtain ⟨wide, hwide, same⟩ := ids
    exact ⟨wide, hwide, same ▸ fewer warned⟩
  · exact ⟨_, _, Pipeline.ofInput_toInput sound now' freshId' v, rfl, order, resolved, resolved⟩

/-- A step that collects orders and has a key that no such step reads, and one that sums them and
has another name of an operator. What may be left out is left out. -/
def summedOrders : PipelineInput :=
  .ofSteps [.passOn (some "collect") "shop" "orders" [("from", .str "guests")] 0 [],
    ⟨some "sum", "", .map, sumMapping, 1, ["collect"]⟩]

theorem fits_summedOrders : ∀ step ∈ summedOrders.steps, step.Fits sizeLimit := by
  have order : IsInt64 0 ∧ IsInt64 1 := ⟨⟨by decide, by decide⟩, by decide, by decide⟩
  have config : (StepInput.passOn (some "collect") "shop" "orders" [("from", .str "guests")] 0
      []).config.Fits sizeLimit := by
    simp [StepInput.passOn, Json.fits_obj_iff, Json.fits_int_iff, sizeLimit]
  exact List.forall_mem_cons.mpr
    ⟨⟨config, order.1⟩, List.forall_mem_singleton.mpr ⟨sumMapping_fits, order.2⟩⟩

theorem summedOrders_isStable : (validate summedOrders).valid = true ∧ summedOrders.GivesIds ∧
    (∀ step ∈ summedOrders.steps, step.Fits sizeLimit) ∧
    ∃ pipeline w', (Pipeline.ofInput (pure .epoch) countedId summedOrders).run.run 0 =
      (.ok pipeline, w') ∧ (validate pipeline.toInput).valid = true ∧
      (validate pipeline.toInput).warnings ⊆ (validate summedOrders).warnings ∧
      (pipeline.apply (pure .epoch) countedId pipeline.toInput).run.run 0 =
        (.ok { pipeline with updatedAt := .epoch }, 0) := by
  have valid : (validate summedOrders).valid = true := by decide +kernel
  have given : summedOrders.GivesIds := by
    unfold PipelineInput.GivesIds
    simp [summedOrders, PipelineInput.ofSteps, StepInput.passOn]
  obtain ⟨pipeline, w', hrun, again, fewer, -, rebuilds⟩ :=
    resubmission_isStable (pure .epoch) countedId summedOrders 0 valid given fits_summedOrders
  exact ⟨valid, given, fits_summedOrders, pipeline, w', hrun, again, fewer,
    (rebuilds Nat (pure .epoch) countedId 0).2⟩

end RecordFlow
