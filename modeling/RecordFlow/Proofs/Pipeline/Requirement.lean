import RecordFlow.Proofs.Pipeline.Acceptance
import RecordFlow.Proofs.Step.Naming
import RecordFlow.Proofs.Step.Rereading

/-!
# Required fields and readable configurations

Validation looks for the keys of a table before it reads a configuration, and a configuration
declares its fields by itself. The two agree: the table lists the fields of each kind that have to
be there, and none of them is read from null. So what can be read misses nothing, and of an object
validation reports a fault exactly when it cannot be read.

## Main definitions

* `StepConfig.declaredFields` — the fields that a configuration of a kind declares
* `PipelineInput.HasStep` — a definition has a step with an id, given or made of its place

## Main results

* `StepKind.requiredFields_eq` — the table lists the declared fields that have to be there
* `missingFields_of_parse` — a configuration that can be read misses nothing
* `Validation.configErrors_eq_nil_iff` — when there is nothing to report of a configuration
* `valid_iff` — when a definition is without errors
* `validate_reports_unparsed` — what validation reports of the configurations of an id
-/

namespace RecordFlow

/-! ### The table and the declarations -/

namespace StepConfig

/-- The fields that a configuration of a kind declares. -/
def declaredFields : StepKind → List (Field Json)
  | .filter => filterFields.fields
  | .map => mapFields.fields
  | .aggregate => aggregateFields.fields
  | .join => joinFields.fields
  | .lookup => lookupFields.fields
  | .union => unionFields.fields
  | .deduplicate => deduplicateFields.fields
  | .sort => sortFields.fields
  | .limit => limitFields.fields
  | .pivot => pivotFields.fields
  | .unpivot => unpivotFields.fields
  | .flatten => flattenFields.fields

/-- The declared fields that have to be there. -/
def neededFields (kind : StepKind) : List (Field Json) :=
  (declaredFields kind).filter Field.required

theorem neededFields_refuse_null (kind : StepKind) :
    (neededFields kind).all (fun field => !(field.accepts .null).isOk) = true := by
  cases kind <;> rfl

/-- What a structure was read from has all of its declared fields that have to be
there, and it accepts them. -/
theorem exists_of_needed {α : Type} {f : α → StepConfig} {reader : FieldReader Json α}
    [lawful : reader.Lawful] {expecting : String} {fields : List (String × Json)}
    {config : StepConfig} (read : f <$> readStruct expecting reader (.obj fields) = .ok config)
    {field : Field Json} (hfield : field ∈ reader.fields.filter Field.required) :
    ∃ part, fields.lookup field.name = some part ∧ field.accepts part = .ok () := by
  obtain ⟨a, built, -⟩ := gives_of_map_readStruct read
  obtain ⟨declared, required⟩ := List.mem_filter.mp hfield
  obtain ⟨part, found⟩ :=
    Option.ne_none_iff_exists'.mp (lawful.required built field declared required)
  exact ⟨part, found, lawful.accepts built field declared part found⟩

variable {kind : StepKind} {fields : List (String × Json)} {config : StepConfig}

/-- What a configuration is read from has no null where a field has to be there. -/
theorem exists_of_read (read : StepConfig.read kind (.obj fields) = .ok config) {field : Field Json}
    (hfield : field ∈ neededFields kind) :
    ∃ part, fields.lookup field.name = some part ∧ part.isNull = false := by
  have accepted : ∃ part, fields.lookup field.name = some part ∧ field.accepts part = .ok () := by
    cases kind <;> exact exists_of_needed read hfield
  obtain ⟨part, found, accepts⟩ := accepted
  refine ⟨part, found, ?_⟩
  cases part with
  | null =>
    have refuses := List.all_eq_true.mp (neededFields_refuse_null kind) field hfield
    rw [accepts] at refuses
    cases refuses
  | _ => rfl

end StepConfig

/-- The table of required keys lists the declared fields that have to be there, in order. -/
theorem StepKind.requiredFields_eq (kind : StepKind) :
    kind.requiredFields = (StepConfig.neededFields kind).map Field.name := by
  cases kind <;> rfl

variable {kind : StepKind} {fields : List (String × Json)}
  {config : StepConfig} {input : PipelineInput} {step : StepInput} {node : Node} {issue : Issue}

/-- A configuration that can be read misses nothing. -/
theorem missingFields_of_parse (parsed : StepConfig.parse kind (.obj fields) = .ok config) :
    missingFields (.obj fields) kind.requiredFields = [] := by
  have read := StepConfig.parse_eq_ok_iff.mp parsed
  refine List.filter_eq_nil_iff.mpr fun key hkey => ?_
  rw [StepKind.requiredFields_eq, List.mem_map] at hkey
  obtain ⟨field, hfield, rfl⟩ := hkey
  obtain ⟨part, found, there⟩ := StepConfig.exists_of_read read hfield
  simp [Json.field?, found, there]

/-! ### What is reported of one configuration -/

/-- An issue tells that a configuration lacks a field or cannot be read. -/
def Issue.IsOfConfig (issue : Issue) : Prop :=
  issue.code = .missingField ∨ issue.code = .invalidConfig

namespace Validation

/-- There is nothing to report of a configuration when it is an object that can be read. -/
theorem configErrors_eq_nil_iff : configErrors step node = [] ↔
    ∃ fields config, step.config = .obj fields ∧
      StepConfig.parse step.kind (.obj fields) = .ok config := by
  refine ⟨configErrors_eq_nil, ?_⟩
  rintro ⟨fields, config, same, parsed⟩
  rw [configErrors, same, missingFields_of_parse parsed]
  simp only [parsed]

/-- What is reported of a configuration has the id of the step. -/
theorem of_mem_configErrors (h : issue ∈ configErrors step node) :
    issue.IsOfConfig ∧ issue.stepId = some node.id := by
  rw [configErrors] at h
  split at h
  · split at h
    · cases h
    · obtain rfl := List.mem_singleton.mp h
      exact ⟨.inr rfl, rfl⟩
  · obtain ⟨field, -, rfl⟩ := List.mem_map.mp h
    exact ⟨.inl rfl, rfl⟩

end Validation

open Validation in
/-- A definition is without errors when it is accepted, has a name that
is not blank, and has steps. -/
theorem valid_iff : (validate input).valid = true ↔
    (Text.trim input.name).isEmpty = false ∧ input.steps ≠ [] ∧ input.Accepted := by
  have shaped : shapeErrors input = [] ↔
      (Text.trim input.name).isEmpty = false ∧ input.steps ≠ [] := by
    simp [shapeErrors]
  constructor
  · intro valid
    have none : (validate input).errors = [] := List.isEmpty_iff.mp valid
    simp only [errors_validate, List.append_eq_nil_iff] at none
    obtain ⟨named, nonempty⟩ := shaped.mp none.1.1.1.1
    exact ⟨named, nonempty, accepted_of_valid valid⟩
  · rintro ⟨named, nonempty, accepted⟩
    refine List.isEmpty_iff.mpr ?_
    simp only [errors_validate, List.append_eq_nil_iff, List.flatMap_eq_nil_iff, Prod.forall]
    refine ⟨⟨⟨⟨shaped.mpr ⟨named, nonempty⟩, ?_⟩, fun step node paired => ?_⟩, ?_⟩, ?_⟩
    · exact idErrors_eq_nil_iff.mpr ⟨accepted.ids, fun _ _ => List.not_mem_nil⟩
    · have hstep := (List.of_mem_zip paired).1
      exact ⟨configErrors_eq_nil_iff.mpr (accepted.configs step hstep),
        dependencyErrors_eq_nil_iff.mpr (accepted.dependencies step hstep)⟩
    · exact reservedErrors_eq_nil_iff.mpr accepted.outputs
    · exact cycleErrors_eq_nil_iff.mpr accepted.ordered

namespace Validation

/-! ### What is reported of all configurations -/

theorem not_isOfConfig_of_mem_shapeErrors (h : issue ∈ shapeErrors input) : ¬ issue.IsOfConfig := by
  rcases List.mem_append.mp h with h | h <;> split at h <;> simp at h <;> simp [h, Issue.IsOfConfig]

theorem not_isOfConfig_of_mem_idErrors {nodes : List Node} {seen : List String}
    (h : issue ∈ idErrors nodes seen) : ¬ issue.IsOfConfig := by
  induction nodes generalizing seen with
  | nil => cases h
  | cons node nodes ih =>
    rw [idErrors] at h
    split at h
    · rcases List.mem_cons.mp h with rfl | later
      · simp [Issue.IsOfConfig]
      · exact ih later
    · exact ih h

theorem not_isOfConfig_of_mem_dependencyErrors {ids : List String}
    (h : issue ∈ dependencyErrors ids step node) : ¬ issue.IsOfConfig := by
  obtain ⟨dependency, -, rfl⟩ := List.mem_map.mp h
  simp [Issue.IsOfConfig]

theorem not_isOfConfig_of_mem_reservedErrors {nodes : List Node}
    (h : issue ∈ reservedErrors nodes) : ¬ issue.IsOfConfig := by
  obtain ⟨node, -, reserved⟩ := List.mem_filterMap.mp h
  obtain ⟨output, -, rfl⟩ := Option.map_eq_some_iff.mp reserved
  simp [Issue.IsOfConfig]

theorem not_isOfConfig_of_mem_cycleErrors {nodes : List Node} (h : issue ∈ cycleErrors nodes) :
    ¬ issue.IsOfConfig := by
  rw [cycleErrors] at h
  split at h
  · cases h
  · obtain rfl := List.mem_singleton.mp h
    simp [Issue.IsOfConfig]

end Validation

open Validation in
/-- What validation reports of configurations it reports of the configuration of a step. -/
theorem mem_errors_iff_of_isOfConfig (about : issue.IsOfConfig) : issue ∈ (validate input).errors ↔
    ∃ i step, input.steps[i]? = some step ∧ issue ∈ configErrors step (Node.ofInput i step) := by
  rw [errors_validate]
  simp only [List.mem_append, List.mem_flatMap, Prod.exists]
  constructor
  · rintro ((((shape | ids) | ⟨step, node, paired, config | dependency⟩) | reserved) | cycle)
    · exact absurd about (not_isOfConfig_of_mem_shapeErrors shape)
    · exact absurd about (not_isOfConfig_of_mem_idErrors ids)
    · obtain ⟨i, hi, rfl⟩ := PipelineInput.mem_zip_nodes_iff.mp paired
      exact ⟨i, step, hi, config⟩
    · exact absurd about (not_isOfConfig_of_mem_dependencyErrors dependency)
    · exact absurd about (not_isOfConfig_of_mem_reservedErrors reserved)
    · exact absurd about (not_isOfConfig_of_mem_cycleErrors cycle)
  · rintro ⟨i, step, hi, config⟩
    exact .inl (.inl (.inr
      ⟨step, _, PipelineInput.mem_zip_nodes_iff.mpr ⟨i, hi, rfl⟩, .inl config⟩))

/-- A definition has a step with an id, which is its own or is made of its place. -/
def PipelineInput.HasStep (input : PipelineInput) (id : String) (step : StepInput) : Prop :=
  ∃ i, input.steps[i]? = some step ∧ (Node.ofInput i step).id = id

open Validation in
/-- **Validation reports what cannot be read.** Let the configurations of the steps with an id be
objects. Of this id validation reports neither a missing field nor an invalid configuration exactly
when they can be read. Of what can be read, the sources are among those that validation has seen,
and the output is the one that it has seen. -/
theorem validate_reports_unparsed (input : PipelineInput) (id : String)
    (objects : ∀ step, input.HasStep id step → ∃ fields, step.config = .obj fields) :
    ((∀ issue ∈ (validate input).errors, issue.stepId = some id →
        issue.code ≠ .missingField ∧ issue.code ≠ .invalidConfig) ↔
      ∀ step, input.HasStep id step →
        ∃ config, StepConfig.parse step.kind step.config = .ok config) ∧
    ∀ step, input.HasStep id step → ∀ config, StepConfig.parse step.kind step.config = .ok config →
      config.sources ⊆ Node.sourcesIn step.config ∧
      Node.textAt? step.config "output" = some config.output := by
  refine ⟨⟨fun silent step has => ?_, fun readable issue hissue same => ?_⟩,
    fun step has config parsed => ?_⟩
  · obtain ⟨fields, object⟩ := objects step has
    obtain ⟨i, hi, named⟩ := has
    have nothing : configErrors step (Node.ofInput i step) = [] := by
      refine List.eq_nil_iff_forall_not_mem.mpr fun issue hissue => ?_
      obtain ⟨about, same⟩ := of_mem_configErrors hissue
      have silentOf := silent issue ((mem_errors_iff_of_isOfConfig about).mpr ⟨i, step, hi, hissue⟩)
        (named ▸ same)
      exact about.elim silentOf.1 silentOf.2
    obtain ⟨fields, config, object, parsed⟩ := configErrors_eq_nil_iff.mp nothing
    exact ⟨config, object ▸ parsed⟩
  · -- A report of this id would be of a configuration of this id, and of
    -- none there is anything to report.
    rw [← not_or]
    intro about
    obtain ⟨i, step, hi, reported⟩ := (mem_errors_iff_of_isOfConfig about).mp hissue
    have named : (Node.ofInput i step).id = id :=
      Option.some.inj ((of_mem_configErrors reported).2.symm.trans same)
    obtain ⟨fields, object⟩ := objects step ⟨i, hi, named⟩
    obtain ⟨config, parsed⟩ := readable step ⟨i, hi, named⟩
    rw [configErrors_eq_nil_iff.mpr ⟨fields, config, object, object ▸ parsed⟩] at reported
    cases reported
  · obtain ⟨fields, object⟩ := objects step has
    rw [object] at parsed ⊢
    exact ⟨(StepConfig.isNamedIn_of_parse parsed).sources,
      (StepConfig.isNamedIn_of_parse parsed).output⟩

/-- The definition of a union, with null for what may be absent and with a source
that a union does not read. -/
def StepInput.looseUnion : StepInput :=
  ⟨some "unite", "", .union,
    .obj [("sources", textsJson ["users", "guests"]),
      ("output", .str "all"), ("distinctKeys", .null), ("from", .str "others")], 0, []⟩

theorem validate_reports_unparsed_looseUnion :
    let input : PipelineInput := ⟨"pipeline", none, [.looseUnion], .active, none, []⟩
    (∀ step, input.HasStep "unite" step → ∃ fields, step.config = .obj fields) ∧
    (∀ issue ∈ (validate input).errors, issue.stepId = some "unite" →
      issue.code ≠ .missingField ∧ issue.code ≠ .invalidConfig) ∧
    ["users", "guests"] ⊆ Node.sourcesIn StepInput.looseUnion.config ∧
    Node.textAt? StepInput.looseUnion.config "output" = some "all" := by
  intro input
  have only : ∀ step, input.HasStep "unite" step → step = .looseUnion := by
    rintro step ⟨_ | i, hi, -⟩
    · exact (Option.some.inj hi).symm
    · cases hi
  have has : input.HasStep "unite" .looseUnion := ⟨0, rfl, rfl⟩
  have objects : ∀ step, input.HasStep "unite" step → ∃ fields, step.config = .obj fields := by
    intro step hstep
    obtain rfl := only step hstep
    exact ⟨_, rfl⟩
  have parsed : StepConfig.parse .union StepInput.looseUnion.config =
      .ok (.union ⟨["users", "guests"], "all", .all, none⟩) := rfl
  obtain ⟨reports, names⟩ := validate_reports_unparsed input "unite" objects
  refine ⟨objects, reports.mpr fun step hstep => ?_, names _ has _ parsed⟩
  rw [only step hstep]
  exact ⟨_, parsed⟩

end RecordFlow
