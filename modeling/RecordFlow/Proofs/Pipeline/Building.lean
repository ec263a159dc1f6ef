import RecordFlow.Pipeline.Definition
import RecordFlow.Proofs.Action
import RecordFlow.Proofs.Document.Fields
import RecordFlow.Proofs.Pipeline.Acceptance

/-!
# Building a pipeline

A pipeline is built of a definition step by step. Every step keeps its id if the definition gives
one, and gets a generated one otherwise.

## Main definitions

* `StepInput.Builds` — a step is built of a definition
* `generatedIds` — the ids of the steps whose definitions give none
* `HasFreshIds` — the generated ids are new

## Main results

* `Pipeline.ofInput_run` — of definitions whose configurations can be read, a pipeline is built
* `perm_ids` — the ids of the steps are those that are given and those that are generated
-/

namespace RecordFlow

variable {σ : Type} {inputs : List StepInput} {steps : List Step}

/-- A step is built of a definition. -/
structure StepInput.Builds (input : StepInput) (step : Step) : Prop where
  id : ∀ id, input.id = some id → step.id = id
  name : step.name = if input.name.isEmpty then step.id else input.name
  config : StepConfig.parse input.kind input.config = .ok step.config
  order : step.order = input.order
  dependsOn : step.dependsOn = input.dependsOn

/-- The ids of the steps whose definitions give none. -/
def generatedIds (inputs : List StepInput) (steps : List Step) : List String :=
  (inputs.zip steps).filterMap fun (input, step) => if input.id.isNone then some step.id else none

/-- The generated ids differ from each other, and no definition gives or names one of them. -/
structure HasFreshIds (inputs : List StepInput) (steps : List Step) : Prop where
  nodup : (generatedIds inputs steps).Nodup
  notGiven : ∀ id ∈ generatedIds inputs steps, ∀ input ∈ inputs, input.id ≠ some id
  notNamed : ∀ id ∈ generatedIds inputs steps, ∀ input ∈ inputs, id ∉ input.dependsOn

/-! ### Steps -/

theorem builds_complete {input : StepInput} {draft : StepDraft}
    (h : StepDraft.ofInput input = .ok draft) (fresh : String) :
    input.Builds (draft.complete fresh) := by
  cases parsed : StepConfig.parse input.kind input.config with
  | error error => simp [StepDraft.ofInput, parsed, bind, Except.bind] at h
  | ok config =>
    obtain rfl : ⟨input.id, input.name, config, input.order, input.dependsOn⟩ = draft := by
      simpa [StepDraft.ofInput, parsed, bind, Except.bind, pure, Except.pure] using h
    exact ⟨fun id given => by simp [StepDraft.complete, given], rfl, parsed, rfl, rfl⟩

theorem exists_draft {input : StepInput} {config : StepConfig}
    (h : StepConfig.parse input.kind input.config = .ok config) :
    ∃ draft, StepDraft.ofInput input = .ok draft :=
  ⟨⟨input.id, input.name, config, input.order, input.dependsOn⟩, by simp [StepDraft.ofInput, h]⟩

theorem exists_drafts
    (readable : ∀ input ∈ inputs, ∃ config, StepConfig.parse input.kind input.config = .ok config) :
    ∃ drafts, List.Forall₂ (fun input draft => StepDraft.ofInput input =
      .ok draft) inputs drafts := by
  induction inputs with
  | nil => exact ⟨[], .nil⟩
  | cons input inputs ih =>
    obtain ⟨⟨config, hconfig⟩, others⟩ := List.forall_mem_cons.mp readable
    obtain ⟨draft, hdraft⟩ := exists_draft hconfig
    obtain ⟨drafts, hdrafts⟩ := ih others
    exact ⟨draft :: drafts, .cons hdraft hdrafts⟩

theorem completeSteps_run (freshId : StateM σ String) {drafts : List StepDraft}
    (h : List.Forall₂ (fun input draft => StepDraft.ofInput input = .ok draft) inputs drafts)
    (w : σ) :
    ∃ steps w', (completeSteps (liftM freshId : ExceptT StepError (StateM σ) String)
      drafts).run.run w = (.ok steps, w') ∧ List.Forall₂ StepInput.Builds inputs steps := by
  induction h generalizing w with
  | nil => exact ⟨[], w, rfl, .nil⟩
  | @cons input draft _ drafts hdraft _ ih =>
    rw [completeSteps]
    -- An id is generated only where it is lacking, so the two cases
    -- go on in different surroundings.
    cases draft.id with
    | some id =>
      obtain ⟨steps, w', hrun, builds⟩ := ih w
      refine ⟨draft.complete id :: steps, w', ?_, .cons (builds_complete hdraft id) builds⟩
      simp only [pure_bind, run_exceptBind, hrun]
      rfl
    | none =>
      obtain ⟨steps, w', hrun, builds⟩ := ih (freshId.run w).2
      refine ⟨draft.complete (freshId.run w).1 :: steps, w', ?_,
        .cons (builds_complete hdraft _) builds⟩
      simp only [run_exceptBind, run_lift, hrun]
      rfl

/-- Steps are built of definitions whose configurations can be read. -/
theorem stepsOfInputs_run (freshId : StateM σ String) (w : σ)
    (readable : ∀ input ∈ inputs, ∃ config, StepConfig.parse input.kind input.config = .ok config) :
    ∃ steps w', (stepsOfInputs freshId inputs).run.run w = (.ok steps, w') ∧
      List.Forall₂ StepInput.Builds inputs steps := by
  obtain ⟨drafts, hdrafts⟩ := exists_drafts readable
  obtain ⟨steps, w', hrun, builds⟩ := completeSteps_run freshId hdrafts w
  refine ⟨steps, w', ?_, builds⟩
  have hread : (ExceptT.mk (pure (inputs.mapM StepDraft.ofInput)) :
      ExceptT StepError (StateM σ) (List StepDraft)).run.run w = (.ok drafts, w) := by
    rw [mapM_eq_ok_iff.mpr hdrafts]
    rfl
  simp only [stepsOfInputs, run_exceptBind, hread, hrun]

/-- A pipeline is created of definitions whose configurations can be read. -/
theorem Pipeline.ofInput_run_create (now : StateM σ Timestamp) (freshId : StateM σ String)
    (input : PipelineInput) (w : σ)
    (readable : ∀ step ∈ input.steps, ∃ config,
      StepConfig.parse step.kind step.config = .ok config) :
    ∃ id steps w', (Pipeline.ofInput now freshId input).run.run w =
        (.ok (Pipeline.create id (now.run w).1 input steps), w') ∧
      List.Forall₂ StepInput.Builds input.steps steps := by
  obtain ⟨steps, w', hrun, builds⟩ := stepsOfInputs_run freshId (now.run w).2 readable
  refine ⟨(freshId.run w').1, steps, (freshId.run w').2, ?_, builds⟩
  simp only [Pipeline.ofInput, run_exceptBind, run_lift, hrun]
  rfl

/-- A pipeline is redefined by definitions whose configurations can be read. -/
theorem Pipeline.apply_run (pipeline : Pipeline) (now : StateM σ Timestamp)
    (freshId : StateM σ String) (input : PipelineInput) (w : σ)
    (readable : ∀ step ∈ input.steps, ∃ config,
      StepConfig.parse step.kind step.config = .ok config) :
    ∃ steps v w', (Pipeline.apply pipeline now freshId input).run.run w =
        (.ok (pipeline.redefine (now.run v).1 input steps), w') ∧
      List.Forall₂ StepInput.Builds input.steps steps := by
  obtain ⟨steps, v, hrun, builds⟩ := stepsOfInputs_run freshId w readable
  refine ⟨steps, v, (now.run v).2, ?_, builds⟩
  simp only [Pipeline.apply, run_exceptBind, run_lift, hrun]
  rfl

/-- A pipeline is built of definitions whose configurations can be read. -/
theorem Pipeline.ofInput_run (now : StateM σ Timestamp) (freshId : StateM σ String)
    (input : PipelineInput) (w : σ)
    (readable : ∀ step ∈ input.steps, ∃ config,
      StepConfig.parse step.kind step.config = .ok config) :
    ∃ pipeline w', (Pipeline.ofInput now freshId input).run.run w = (.ok pipeline, w') ∧
      List.Forall₂ StepInput.Builds input.steps pipeline.steps := by
  obtain ⟨id, steps, w', hrun, builds⟩ := ofInput_run_create now freshId input w readable
  exact ⟨_, w', hrun, builds⟩

/-! ### What it leaves as it is -/

section

variable {γ : Type} {view : σ → γ} {now : StateM σ Timestamp} {freshId : StateM σ String}

theorem keeps_completeSteps {ε : Type} (h : Keeps view freshId) (drafts : List StepDraft) :
    Keeps view (completeSteps (liftM freshId : ExceptT ε (StateM σ) String) drafts).run := by
  induction drafts with
  | nil => exact .pure _ _
  | cons draft drafts ih =>
    rw [completeSteps]
    cases draft.id with
    | some id => exact .exceptBind (.pure _ _) fun _ => .exceptBind ih fun _ => .pure _ _
    | none => exact .exceptBind h.lift fun _ => .exceptBind ih fun _ => .pure _ _

theorem keeps_stepsOfInputs (h : Keeps view freshId) (inputs : List StepInput) :
    Keeps view (stepsOfInputs freshId inputs).run :=
  .exceptBind (fun _ => rfl) fun drafts => keeps_completeSteps h drafts

/-- To build a pipeline changes only what the clock and the fresh ids change. -/
theorem keeps_ofInput (hnow : Keeps view now) (hfresh : Keeps view freshId)
    (input : PipelineInput) : Keeps view (Pipeline.ofInput now freshId input).run :=
  .exceptBind hnow.lift fun _ => .exceptBind (keeps_stepsOfInputs hfresh input.steps) fun _ =>
    .exceptBind hfresh.lift fun _ => .pure _ _

/-- So does redefining one. -/
theorem keeps_apply (hnow : Keeps view now) (hfresh : Keeps view freshId) (pipeline : Pipeline)
    (input : PipelineInput) : Keeps view (pipeline.apply now freshId input).run :=
  .exceptBind (keeps_stepsOfInputs hfresh input.steps) fun _ =>
    .exceptBind hnow.lift fun _ => .pure _ _

end

/-! ### Ids -/

theorem mem_generatedIds {i : Nat} {input : StepInput} {step : Step}
    (hinput : inputs[i]? = some input) (hstep : steps[i]? = some step) (lacking : input.id = none) :
    step.id ∈ generatedIds inputs steps := by
  have paired : (inputs.zip steps)[i]? = some (input, step) := by
    simp [List.getElem?_zip_eq_some, hinput, hstep]
  exact List.mem_filterMap.mpr ⟨_, List.mem_of_getElem? paired, by simp [lacking]⟩

/-- The ids of the steps are those that are given and those that are generated. -/
theorem perm_ids (builds : List.Forall₂ StepInput.Builds inputs steps) :
    (steps.map Step.id).Perm (inputs.filterMap StepInput.id ++ generatedIds inputs steps) := by
  induction builds with
  | nil => rfl
  | @cons input step inputs steps hbuilds _ ih =>
    cases given : input.id with
    | some id =>
      have same : step.id = id := hbuilds.id id given
      simpa [generatedIds, given, same] using ih
    | none =>
      simp only [generatedIds] at ih
      simpa [generatedIds, given] using (ih.cons step.id).trans List.perm_middle.symm

theorem sublist_givenIds (inputs : List StepInput) (k : Nat) :
    (inputs.filterMap StepInput.id).Sublist
      ((inputs.zipIdx k).map fun (input, place) => (Node.ofInput place input).id) := by
  induction inputs generalizing k with
  | nil => exact .slnil
  | cons input inputs ih =>
    rw [List.zipIdx_cons, List.map_cons, List.filterMap_cons]
    cases given : input.id with
    | none => exact (ih (k + 1)).cons _
    | some id =>
      have same : (Node.ofInput k input).id = id := by simp [Node.ofInput, given]
      simpa [same] using ih (k + 1)

/-- Fresh ids keep the ids of an accepted definition different. -/
theorem nodup_ids {input : PipelineInput} (accepted : input.Accepted)
    (builds : List.Forall₂ StepInput.Builds input.steps steps)
    (fresh : HasFreshIds input.steps steps) : (steps.map Step.id).Nodup := by
  have given : (input.steps.filterMap StepInput.id).Nodup := by
    have ids := accepted.ids
    rw [PipelineInput.nodes, List.map_map] at ids
    exact (sublist_givenIds input.steps 0).nodup ids
  refine (perm_ids builds).nodup_iff.mpr (List.nodup_append.mpr ⟨given, fresh.nodup, ?_⟩)
  rintro id hgiven _ hgenerated rfl
  obtain ⟨step, hstep, hid⟩ := List.mem_filterMap.mp hgiven
  exact fresh.notGiven id hgenerated step hstep hid

end RecordFlow
