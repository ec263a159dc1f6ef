import Mathlib.Data.List.Nodup
import RecordFlow.Pipeline.Validation

/-!
# What an accepted definition is like

Validation finds no error exactly when nothing of what it looks for is there. What that means is
said here without the issues and their texts.

## Main definitions

* `PipelineInput.nodes` — the nodes by which validation sees a definition
* `PipelineInput.Accepted` — what validation has made sure of

## Main results

* `accepted_of_valid` — a definition without errors is like that
-/

namespace RecordFlow

/-- The nodes by which validation sees a definition. -/
def PipelineInput.nodes (input : PipelineInput) : List Node :=
  input.steps.zipIdx.map fun (step, place) => Node.ofInput place step

/-- What validation has made sure of. -/
structure PipelineInput.Accepted (input : PipelineInput) : Prop where
  /-- No id is used twice, counting those that stand in for lacking ones. -/
  ids : (input.nodes.map Node.id).Nodup
  configs : ∀ step ∈ input.steps, ∃ fields config,
    step.config = .obj fields ∧ StepConfig.parse step.kind (.obj fields) = .ok config
  dependencies : ∀ step ∈ input.steps, ∀ id ∈ step.dependsOn, id ∈ input.nodes.map Node.id
  outputs : ∀ node ∈ input.nodes, ∀ output, node.output = some output → isReserved output = false
  ordered : ∃ order, resolveOrder input.nodes = .ok order

/-- The configurations of an accepted definition can be read. -/
theorem PipelineInput.Accepted.readable {input : PipelineInput} (accepted : input.Accepted) :
    ∀ step ∈ input.steps, ∃ config, StepConfig.parse step.kind step.config = .ok config := by
  intro step hstep
  obtain ⟨fields, config, hfields, parsed⟩ := accepted.configs step hstep
  exact ⟨config, hfields ▸ parsed⟩

theorem PipelineInput.getElem?_nodes (input : PipelineInput) (i : Nat) :
    input.nodes[i]? = (input.steps[i]?).map (Node.ofInput i) := by
  simp [nodes, List.getElem?_zipIdx]
  rfl

theorem PipelineInput.mem_zip_nodes_iff {input : PipelineInput} {step : StepInput} {node : Node} :
    (step, node) ∈ input.steps.zip input.nodes ↔
      ∃ i, input.steps[i]? = some step ∧ Node.ofInput i step = node := by
  rw [List.mem_iff_getElem?]
  refine exists_congr fun i => ?_
  rw [List.getElem?_zip_eq_some, input.getElem?_nodes]
  exact and_congr_right fun hi => by simp [hi]

open Validation in
/-- The errors of a definition, told of its nodes. -/
theorem errors_validate (input : PipelineInput) : (validate input).errors =
    shapeErrors input ++ idErrors input.nodes [] ++
      ((input.steps.zip input.nodes).flatMap fun (step, node) =>
        configErrors step node ++ dependencyErrors (input.nodes.map Node.id) step node) ++
      reservedErrors input.nodes ++ cycleErrors input.nodes := rfl

namespace Validation

variable {nodes : List Node}

/-- No id is told to be repeated when all differ from each other and from those seen before. -/
theorem idErrors_eq_nil_iff {seen : List String} : idErrors nodes seen = [] ↔
    (nodes.map Node.id).Nodup ∧ ∀ id ∈ nodes.map Node.id, id ∉ seen := by
  induction nodes generalizing seen with
  | nil => simp [idErrors]
  | cons node nodes ih =>
    by_cases known : node.id ∈ seen
    · simp [idErrors, known]
    · rw [idErrors, if_neg (by simpa using known), ih, List.map_cons,
        List.nodup_cons, List.forall_mem_cons]
      simp only [List.mem_cons, not_or, forall_and]
      constructor
      · rintro ⟨nodup, new, unseen⟩
        exact ⟨⟨fun hmem => new _ hmem rfl, nodup⟩, known, unseen⟩
      · rintro ⟨⟨new, nodup⟩, -, unseen⟩
        exact ⟨nodup, fun id hmem same => new (same ▸ hmem), unseen⟩

/-- Only an object can have all the fields that a kind requires. -/
theorem exists_obj_of_missingFields {config : Json} {kind : StepKind}
    (complete : missingFields config kind.requiredFields = []) :
    ∃ fields, config = .obj fields := by
  have required : "output" ∈ kind.requiredFields := by cases kind <;> decide
  have present := List.filter_eq_nil_iff.mp complete "output" required
  cases config with
  | obj fields => exact ⟨fields, rfl⟩
  | _ => exact absurd rfl present

theorem configErrors_eq_nil {step : StepInput} {node : Node} (none : configErrors step node = []) :
    ∃ fields config, step.config = .obj fields ∧
      StepConfig.parse step.kind (.obj fields) = .ok config := by
  rw [configErrors] at none
  split at none
  next complete =>
    obtain ⟨fields, hfields⟩ := exists_obj_of_missingFields complete
    split at none
    next config parsed => exact ⟨fields, config, hfields, hfields ▸ parsed⟩
    next => cases none
  next missing => exact absurd (List.map_eq_nil_iff.mp none) missing

theorem dependencyErrors_eq_nil_iff {ids : List String} {step : StepInput} {node : Node} :
    dependencyErrors ids step node = [] ↔ ∀ id ∈ step.dependsOn, id ∈ ids := by
  simp [dependencyErrors]

theorem reservedErrors_eq_nil_iff : reservedErrors nodes = [] ↔
    ∀ node ∈ nodes, ∀ output, node.output = some output → isReserved output = false := by
  simp [reservedErrors]

theorem cycleErrors_eq_nil_iff :
    cycleErrors nodes = [] ↔ ∃ order, resolveOrder nodes = .ok order := by
  rw [cycleErrors]
  cases resolveOrder nodes <;> simp

end Validation

open Validation in
/-- A definition without errors is accepted. -/
theorem accepted_of_valid {input : PipelineInput} (h : (validate input).valid = true) :
    input.Accepted := by
  have none : (validate input).errors = [] := List.isEmpty_iff.mp h
  simp only [errors_validate, List.append_eq_nil_iff] at none
  obtain ⟨⟨⟨⟨-, ids⟩, steps⟩, outputs⟩, ordered⟩ := none
  rw [List.flatMap_eq_nil_iff] at steps
  have each : ∀ step ∈ input.steps, ∃ node, configErrors step node = [] ∧
      dependencyErrors (input.nodes.map Node.id) step node = [] := by
    intro step hstep
    obtain ⟨i, hi⟩ := List.getElem?_of_mem hstep
    have paired : (step, Node.ofInput i step) ∈ input.steps.zip input.nodes :=
      PipelineInput.mem_zip_nodes_iff.mpr ⟨i, hi, rfl⟩
    exact ⟨_, List.append_eq_nil_iff.mp (steps _ paired)⟩
  constructor
  case ids => exact (idErrors_eq_nil_iff.mp ids).1
  case configs =>
    intro step hstep
    obtain ⟨_, none, -⟩ := each step hstep
    exact configErrors_eq_nil none
  case dependencies =>
    intro step hstep
    obtain ⟨_, -, none⟩ := each step hstep
    exact dependencyErrors_eq_nil_iff.mp none
  case outputs => exact reservedErrors_eq_nil_iff.mp outputs
  case ordered => exact cycleErrors_eq_nil_iff.mp ordered

end RecordFlow
