import Mathlib.Data.List.Sort
import RecordFlow.Proofs.Pipeline.Building
import RecordFlow.Proofs.Pipeline.Schedule
import RecordFlow.Proofs.Step.Naming

/-!
# The dependencies of a built pipeline

Validation sees a definition before it is built: an id that is lacking is made of the place, and the
sources are those under any key that names a source for some kind of step. The steps that are built
have generated ids and the sources that their kinds read. A built pipeline therefore never has a
dependency that validation has not seen. It has all of those that validation sees when only the
sources that are read count, provided that no definition names an id that was made of a place.

## Main definitions

* `PipelineInput.nodesReading` — the nodes of a definition, with some of its sources
* `PipelineInput.NamesGivenIds` — a definition names no id but those that it gives

## Main results

* `dependsOn_of_built` — a built pipeline has no dependency that validation has not seen
* `predecessors_built` — the dependencies that it has
-/

namespace RecordFlow

variable {a b i : Nat} {input : PipelineInput} {steps : List Step}

/-! ### Dependencies as lists -/

theorem pairwise_predecessors (nodes : List Node) (b : Nat) :
    ((predecessors nodes).getD b []).Pairwise (· < ·) := by
  rw [List.getD_eq_getElem?_getD]
  cases hb : nodes[b]? with
  | none =>
    have : (predecessors nodes)[b]? = none := by simpa using hb
    simp [this]
  | some node =>
    have places : (nodes.zipIdx.map Prod.swap).map Prod.fst = List.range' 0 nodes.length := by
      rw [List.map_map, ← List.zipIdx_map_snd]
      rfl
    rw [getElem?_predecessors hb, Option.getD_some]
    refine List.Pairwise.sublist (List.filter_sublist.map Prod.fst) ?_
    rw [places]
    exact List.pairwise_lt_range'

/-- The places on which nodes depend are listed in ascending order, so the
dependencies tell the lists. -/
theorem predecessors_congr {nodes others : List Node} (length : nodes.length = others.length)
    (h : ∀ b a, DependsOn nodes b a ↔ DependsOn others b a) :
    predecessors nodes = predecessors others := by
  refine List.ext_getElem (by simp [length]) fun b hb hb' => ?_
  have same := (pairwise_predecessors nodes b).eq_of_mem_iff (pairwise_predecessors others b) (h b)
  simpa [List.getD_eq_getElem?_getD, List.getElem?_eq_getElem hb,
    List.getElem?_eq_getElem hb'] using same

/-! ### Definitions and steps -/

/-- The nodes of a definition, when the given sources of each step count. -/
def PipelineInput.nodesReading (input : PipelineInput) (sources : StepInput → List String) :
    List Node :=
  input.steps.zipIdx.map fun (step, place) =>
    { Node.ofInput place step with sources := sources step }

/-- The sources that a step reads, as its kind has it. -/
def StepInput.readSources (step : StepInput) : List String :=
  match StepConfig.parse step.kind step.config with
  | .ok config => config.sources
  | .error _ => []

/-- The sources under all keys that name a source for some kind. -/
def StepInput.namedSources (step : StepInput) : List String := Node.sourcesIn step.config

/-- A definition names no ids but those that it gives to its steps. -/
def PipelineInput.NamesGivenIds (input : PipelineInput) : Prop :=
  ∀ step ∈ input.steps, ∀ id ∈ step.dependsOn, ∃ other ∈ input.steps, other.id = some id

theorem PipelineInput.nodesReading_namedSources (input : PipelineInput) :
    input.nodesReading StepInput.namedSources = input.nodes := rfl

/-- When a node of a definition depends on another one. -/
theorem dependsOn_nodesReading_iff {sources : StepInput → List String} :
    DependsOn (input.nodesReading sources) b a ↔ ∃ step other,
      input.steps[b]? = some step ∧ input.steps[a]? = some other ∧
        ((Node.ofInput a other).id ∈ step.dependsOn ∨
          (a ≠ b ∧ ∃ output, Node.textAt? other.config "output" = some output ∧
            output ∈ sources step)) := by
  rw [dependsOn_iff]
  simp [PipelineInput.nodesReading, List.getElem?_zipIdx, Node.ofInput]

/-- When a step depends on another one. -/
theorem dependsOn_ofStep_iff : DependsOn (steps.map Node.ofStep) b a ↔ ∃ step other,
    steps[b]? = some step ∧ steps[a]? = some other ∧
      (other.id ∈ step.dependsOn ∨ (a ≠ b ∧ other.config.output ∈ step.config.sources)) := by
  rw [dependsOn_iff]
  simp [Node.ofStep]

/-! ### The comparison -/

/-- The definition of a built step. -/
theorem exists_definition (builds : List.Forall₂ StepInput.Builds input.steps steps) {step : Step}
    (hstep : steps[i]? = some step) :
    ∃ definition, input.steps[i]? = some definition ∧ definition.Builds step := by
  obtain ⟨hi, rfl⟩ := List.getElem?_eq_some_iff.mp hstep
  have hi' : i < input.steps.length := builds.length_eq ▸ hi
  exact ⟨input.steps[i], List.getElem?_eq_getElem hi', builds.get hi' hi⟩

/-- The step that is built of a definition. -/
theorem exists_built (builds : List.Forall₂ StepInput.Builds input.steps steps)
    {definition : StepInput} (hdefinition : input.steps[i]? = some definition) :
    ∃ step, steps[i]? = some step ∧ definition.Builds step := by
  obtain ⟨hi, rfl⟩ := List.getElem?_eq_some_iff.mp hdefinition
  have hi' : i < steps.length := builds.length_eq ▸ hi
  exact ⟨steps[i], List.getElem?_eq_getElem hi', builds.get hi hi'⟩

theorem StepInput.Builds.readSources {definition : StepInput} {step : Step}
    (built : definition.Builds step) : definition.readSources = step.config.sources := by
  rw [StepInput.readSources, built.config]

/-- When fewer sources count, there are fewer dependencies. -/
theorem dependsOn_nodesReading_mono {few many : StepInput → List String}
    (h : ∀ step ∈ input.steps, few step ⊆ many step)
    (hfew : DependsOn (input.nodesReading few) b a) : DependsOn (input.nodesReading many) b a := by
  obtain ⟨step, other, hstep, hother, cause⟩ := dependsOn_nodesReading_iff.mp hfew
  refine dependsOn_nodesReading_iff.mpr ⟨step, other, hstep, hother, cause.imp_right ?_⟩
  rintro ⟨different, output, made, reads⟩
  exact ⟨different, output, made, h step (List.mem_of_getElem? hstep) reads⟩

namespace PipelineInput.Accepted

variable {definition other : StepInput} {step : Step}

/-- The output and the sources of a built step can be seen in its definition. -/
theorem isNamedIn (accepted : input.Accepted) (hdefinition : definition ∈ input.steps)
    (built : definition.Builds step) : step.config.IsNamedIn definition.config := by
  obtain ⟨fields, config, hfields, -⟩ := accepted.configs definition hdefinition
  have parsed := built.config
  rw [hfields] at parsed ⊢
  exact StepConfig.isNamedIn_of_parse parsed

theorem readSources_subset (accepted : input.Accepted) (hdefinition : definition ∈ input.steps) :
    definition.readSources ⊆ definition.namedSources := by
  obtain ⟨fields, config, hfields, parsed⟩ := accepted.configs definition hdefinition
  rw [StepInput.readSources, StepInput.namedSources, hfields, parsed]
  exact (StepConfig.isNamedIn_of_parse parsed).sources

/-- A step that has an id which a definition names has been given it. -/
theorem given_of_named (accepted : input.Accepted) (names : input.NamesGivenIds)
    (hdefinition : definition ∈ input.steps) (hother : input.steps[a]? = some other)
    (named : (Node.ofInput a other).id ∈ definition.dependsOn) :
    other.id = some (Node.ofInput a other).id := by
  obtain ⟨third, hthird, given⟩ := names definition hdefinition _ named
  obtain ⟨c, hc⟩ := List.getElem?_of_mem hthird
  -- No id is used twice, so the step to which the id is given is the one at the place `a`.
  have at_a : (input.nodes.map Node.id)[a]? = some (Node.ofInput a other).id := by
    simp [input.getElem?_nodes, hother]
  have at_c : (input.nodes.map Node.id)[c]? = some (Node.ofInput a other).id := by
    simp [input.getElem?_nodes, hc, Node.ofInput, given]
  have same : a = c := by
    obtain ⟨hlt, -⟩ := List.getElem?_eq_some_iff.mp at_a
    exact (List.getElem?_inj hlt accepted.ids).mp (at_a.trans at_c.symm)
  obtain rfl : other = third := by
    rw [same] at hother
    exact Option.some.inj (hother.symm.trans hc)
  exact given

end PipelineInput.Accepted

/-- An id that a definition names is not generated, so the step that has it has been given it. -/
theorem id_ofInput_of_named (fresh : HasFreshIds input.steps steps) {definition other : StepInput}
    {step : Step} (hdefinition : definition ∈ input.steps) (hother : input.steps[a]? = some other)
    (hstep : steps[a]? = some step) (built : other.Builds step)
    (named : step.id ∈ definition.dependsOn) : (Node.ofInput a other).id = step.id := by
  cases given : other.id with
  | some id => simp [Node.ofInput, given, built.id id given]
  | none =>
    have generated := mem_generatedIds hother hstep given
    exact absurd named (fresh.notNamed _ generated definition hdefinition)

/-- A built pipeline has no dependency that its definition has not, by the sources that are read. -/
theorem dependsOn_read_of_built (accepted : input.Accepted)
    (builds : List.Forall₂ StepInput.Builds input.steps steps)
    (fresh : HasFreshIds input.steps steps) (h : DependsOn (steps.map Node.ofStep) b a) :
    DependsOn (input.nodesReading StepInput.readSources) b a := by
  obtain ⟨step, other, hstep, hother, cause⟩ := dependsOn_ofStep_iff.mp h
  obtain ⟨definition, hdefinition, built⟩ := exists_definition builds hstep
  obtain ⟨definition', hdefinition', built'⟩ := exists_definition builds hother
  refine dependsOn_nodesReading_iff.mpr ⟨definition, definition', hdefinition, hdefinition', ?_⟩
  rcases cause with named | ⟨different, reads⟩
  · rw [built.dependsOn] at named
    left
    rw [id_ofInput_of_named fresh (List.mem_of_getElem? hdefinition) hdefinition' hother built'
      named]
    exact named
  · have output := (accepted.isNamedIn (List.mem_of_getElem? hdefinition') built').output
    exact .inr ⟨different, other.config.output, output, built.readSources ▸ reads⟩

/-- **No new dependencies.** A built pipeline has no dependency that validation has not seen. -/
theorem dependsOn_of_built (accepted : input.Accepted)
    (builds : List.Forall₂ StepInput.Builds input.steps steps)
    (fresh : HasFreshIds input.steps steps) (h : DependsOn (steps.map Node.ofStep) b a) :
    DependsOn input.nodes b a := by
  rw [← input.nodesReading_namedSources]
  exact dependsOn_nodesReading_mono (fun _ => accepted.readSources_subset)
    (dependsOn_read_of_built accepted builds fresh h)

/-- **The dependencies that are kept.** A built pipeline has those of its definition by the sources
that are read, if the definition names no ids but those that it gives. -/
theorem dependsOn_built_iff (accepted : input.Accepted) (names : input.NamesGivenIds)
    (builds : List.Forall₂ StepInput.Builds input.steps steps)
    (fresh : HasFreshIds input.steps steps) : DependsOn (steps.map Node.ofStep) b a ↔
      DependsOn (input.nodesReading StepInput.readSources) b a := by
  refine ⟨dependsOn_read_of_built accepted builds fresh, fun h => ?_⟩
  obtain ⟨definition, definition', hdefinition, hdefinition', cause⟩ :=
    dependsOn_nodesReading_iff.mp h
  obtain ⟨step, hstep, built⟩ := exists_built builds hdefinition
  obtain ⟨other, hother, built'⟩ := exists_built builds hdefinition'
  refine dependsOn_ofStep_iff.mpr ⟨step, other, hstep, hother, ?_⟩
  rcases cause with named | ⟨different, output, made, reads⟩
  · have given :=
      accepted.given_of_named names (List.mem_of_getElem? hdefinition) hdefinition' named
    left
    rwa [built'.id _ given, built.dependsOn]
  · have seen := (accepted.isNamedIn (List.mem_of_getElem? hdefinition') built').output
    obtain rfl : output = other.config.output := Option.some.inj (made.symm.trans seen)
    exact .inr ⟨different, built.readSources ▸ reads⟩

/-- The places on which the steps of a built pipeline depend. -/
theorem predecessors_built (accepted : input.Accepted) (names : input.NamesGivenIds)
    (builds : List.Forall₂ StepInput.Builds input.steps steps)
    (fresh : HasFreshIds input.steps steps) :
    predecessors (steps.map Node.ofStep) =
      predecessors (input.nodesReading StepInput.readSources) := by
  refine predecessors_congr ?_ fun b a => dependsOn_built_iff accepted names builds fresh
  simp [PipelineInput.nodesReading, builds.length_eq]

/-- They are the places that validation sees if the definition names
no sources that are not read. -/
theorem predecessors_built_of_read (accepted : input.Accepted) (names : input.NamesGivenIds)
    (builds : List.Forall₂ StepInput.Builds input.steps steps)
    (fresh : HasFreshIds input.steps steps)
    (read : ∀ step ∈ input.steps, step.namedSources ⊆ step.readSources) :
    predecessors (steps.map Node.ofStep) = predecessors input.nodes := by
  rw [predecessors_built accepted names builds fresh, ← input.nodesReading_namedSources]
  refine predecessors_congr (by simp [PipelineInput.nodesReading]) fun b a => ⟨?_, ?_⟩
  · exact dependsOn_nodesReading_mono fun _ => accepted.readSources_subset
  · exact dependsOn_nodesReading_mono read

/-- A step depends on the steps whose ids it names, and each of these ids is that of a step. -/
theorem exists_dependsOn_of_named (names : input.NamesGivenIds)
    (builds : List.Forall₂ StepInput.Builds input.steps steps) {step : Step}
    (hstep : steps[b]? = some step) {id : String} (named : id ∈ step.dependsOn) :
    ∃ a other, steps[a]? = some other ∧ other.id = id ∧ DependsOn (steps.map Node.ofStep) b a := by
  obtain ⟨definition, hdefinition, built⟩ := exists_definition builds hstep
  obtain ⟨third, hthird, given⟩ :=
    names definition (List.mem_of_getElem? hdefinition) id (built.dependsOn ▸ named)
  obtain ⟨a, ha⟩ := List.getElem?_of_mem hthird
  obtain ⟨other, hother, built'⟩ := exists_built builds ha
  have same : other.id = id := built'.id id given
  refine ⟨a, other, hother, same, dependsOn_ofStep_iff.mpr ⟨step, other, hstep, hother, .inl ?_⟩⟩
  rw [same]
  exact named

end RecordFlow
