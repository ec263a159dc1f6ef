import RecordFlow.Proofs.Calendar.Rereading
import RecordFlow.Proofs.Pipeline.Building
import RecordFlow.Proofs.Step.Rereading
import RecordFlow.Service.Repository

/-!
# Pipelines that are written and read again

A pipeline that was built of a definition is read again from its document, if its times
survive their texts. What a definition must be like for that, every definition is like that
was itself read from a document.

## Main definitions

* `PipelineInput.IsRepresentable` — a definition as it comes from a document
* `Pipeline.IsSound` — what stands in a pipeline can be written and read again
* `Pipeline.sizes` — the unsigned numbers of the configurations of a pipeline

## Main results

* `PipelineInput.isRepresentable_of_reader` — a definition that was read is representable
* `isSound_create` — a pipeline that is built of a representable definition is sound
* `PipelineDraft.reader_toJson` — a sound pipeline is read again
-/

namespace RecordFlow

instance : Naming StepKind.names := ⟨fun kind => by cases kind <;> decide⟩
instance : Naming PipelineStatus.names := ⟨fun status => by cases status <;> decide⟩

theorem nameIn_stepKind (kind : StepKind) : nameIn StepKind.names kind = kind.name := by
  cases kind <;> decide

/-! ### Definitions -/

/-- The definition of a step has numbers that a document can have: the integers of its configuration
are below a limit and its floats are finite, and its order has 64 bits. -/
structure StepInput.Fits (limit : Nat) (input : StepInput) : Prop where
  config : input.config.Fits limit
  order : IsInt64 input.order

/-- What is in a definition can stand in a document. -/
structure PipelineInput.IsRepresentable (input : PipelineInput) : Prop where
  steps : ∀ step ∈ input.steps, step.Fits sizeLimit
  nodup : input.metadata.names.Nodup
  finite : input.metadata.IsFinite

section

variable {δ : Type} [Document δ] [InMemory δ] {d : δ}

theorem StepInput.fits_of_reader {input : StepInput} {limit : Nat}
    (read : StepInput.reader d = .ok input) (fits : (shown d).Fits limit) : input.Fits limit := by
  refine property_of_readStruct read fits fun values parts => ?_
  simp only [FieldReader.yields_map_iff, FieldReader.yields_seq_iff,
    FieldReader.yields_required_iff, FieldReader.yields_withDefault_iff,
    FieldReader.yields_optional_iff]
  intro id _ name _ _ _ kind _ config readConfig order readOrder dependsOn _
  refine ⟨?_, isInt64_of_readsAs readOrder⟩
  cases found : values "config" with
  | none =>
    rw [found, readsAs_none] at readConfig
    exact readConfig ▸ .null
  | some part =>
    rw [found, readsAs_some, Reader.json, InMemory.json_eq, Except.ok.injEq] at readConfig
    exact readConfig ▸ parts _ _ found

/-- A definition that was read is representable. -/
theorem PipelineInput.isRepresentable_of_reader {input : PipelineInput}
    (read : PipelineInput.reader d = .ok input) (fits : (shown d).Fits sizeLimit) :
    input.IsRepresentable := by
  refine property_of_readStruct read fits fun values parts => ?_
  simp only [FieldReader.yields_map_iff, FieldReader.yields_seq_iff,
    FieldReader.yields_withDefault_iff, FieldReader.yields_optional_iff]
  intro name _ description _ steps readSteps status _ schedule _ metadata readMetadata
  have ofSteps : ∀ step ∈ steps, step.Fits sizeLimit := by
    cases found : values "steps" with
    | none =>
      rw [found, readsAs_none] at readSteps
      simp [readSteps]
    | some part =>
      rw [found, readsAs_some] at readSteps
      obtain ⟨items, same, each⟩ := Reader.listOf_eq_ok_iff.mp readSteps
      have below := parts _ _ found
      rw [same, Json.fits_arr_iff] at below
      intro step hstep
      obtain ⟨item, hitem, read⟩ := exists_of_forall₂ each hstep
      exact StepInput.fits_of_reader read (by simpa using below item hitem)
  cases found : values "metadata" with
  | none =>
    rw [found, readsAs_none] at readMetadata
    subst readMetadata
    exact ⟨ofSteps, List.nodup_nil, List.forall_mem_nil _⟩
  | some part =>
    rw [found, readsAs_some] at readMetadata
    obtain ⟨nodup, finite⟩ := Reader.record_sound readMetadata (parts _ _ found)
    exact ⟨ofSteps, nodup, finite⟩

end

/-! ### Steps -/

namespace Step

/-- What stands in a step can be written and read again. -/
structure IsSound (step : Step) : Prop where
  config : step.config.IsSoundBelow sizeLimit
  order : IsInt64 step.order
  named : step.name.isEmpty = true → step.name = step.id

/-- A step with its id. -/
def toDraft (step : Step) : StepDraft :=
  ⟨some step.id, step.name, step.config, step.order, step.dependsOn⟩

variable {step : Step}

theorem complete_toDraft (sound : step.IsSound) (fresh : String) :
    step.toDraft.complete fresh = step := by
  have named := sound.named
  obtain ⟨id, name, config, order, dependsOn⟩ := step
  simp only [StepDraft.complete, toDraft, Option.getD_some, mk.injEq, true_and, and_true]
  exact ite_eq_right_iff.mpr fun unnamed => (named unnamed).symm

theorem reader_toInput (sound : step.IsSound) :
    StepInput.reader (wrap step.toInput.toJson : Json) = .ok step.toInput := by
  -- What each field is read as; the simple ones are rewritten at the end.
  have id : Reader.optional Reader.text (wrap (.str step.id) : Json) = .ok (some step.id) := by
    rw [Reader.optional_eq, Reader.text_eq_ok_iff.mpr (InMemory.shown_wrap _)]
    rfl
  have kind : Reader.choice StepKind.names (StepKind.names.map Prod.fst) "StepType"
      (wrap (.str step.config.kind.name) : Json) = .ok step.config.kind := by
    rw [← nameIn_stepKind, choice_wrap_iff]
  have config (json : Json) : Reader.json (wrap json : Json) = .ok json := InMemory.json_eq _
  have texts : Reader.listOf Reader.text (wrap (textsJson step.dependsOn) : Json) =
      .ok step.dependsOn :=
    textsReader_wrap step.dependsOn
  have order : -(2 ^ 63) ≤ step.order ∧ step.order < 2 ^ 63 := sound.order
  refine readStruct_of_obj rfl (by simp [toInput, optionalField]) ?_
  simpa [toInput, optionalField, List.lookup_cons, id, kind, config, texts] using order

/-- The definition of a step gives the step with its id. -/
theorem ofInput_toInput (sound : step.IsSound) :
    StepDraft.ofInput step.toInput = .ok step.toDraft := by
  rw [StepDraft.ofInput, toInput, StepConfig.parse_toJson sound.config]
  rfl

theorem reader_toJson (sound : step.IsSound) :
    StepDraft.reader (wrap step.toInput.toJson) = .ok step.toDraft := by
  rw [StepDraft.reader, reader_toInput sound]
  simp only [bind, Except.bind, ofInput_toInput sound, mapError_ok]

end Step

/-- A step that is built of a representable definition is sound. -/
theorem StepInput.Builds.isSound {input : StepInput} {step : Step} (builds : input.Builds step)
    (fits : input.Fits sizeLimit) : step.IsSound where
  config := StepConfig.isSoundBelow_of_parse builds.config fits.config (Nat.le_refl _) (by decide)
  order := builds.order ▸ fits.order
  named := by
    rw [builds.name]
    split
    · exact fun _ => rfl
    next named => exact fun unnamed => absurd unnamed named

/-! ### Pipelines -/

/-- An instant is read again from its text. -/
def Timestamp.Survives (t : Timestamp) : Prop := Timestamp.parseLoosely t.toIsoFull = .ok t

namespace Timestamp

/-- An instant is, unless it is in a leap second that is not the last second of a minute. -/
theorem IsRegular.survives {t : Timestamp} (h : t.IsRegular) :
    t.Survives := parseLoosely_toIsoFull h

theorem Survives.reader_wrap {t : Timestamp} (h : t.Survives) :
    Timestamp.reader (wrap t.toJson : Json) = .ok t := by
  rw [Timestamp.reader]
  simp only [InMemory.scalarText_eq, InMemory.shown_wrap, toJson, Json.asStr?,
    show parseLoosely _ = _ from h]

end Timestamp

namespace Pipeline

/-- What stands in a pipeline can be written and read again. -/
structure IsSound (pipeline : Pipeline) : Prop where
  steps : ∀ step ∈ pipeline.steps, step.IsSound
  nodup : pipeline.metadata.names.Nodup
  finite : pipeline.metadata.IsFinite
  createdAt : pipeline.createdAt.Survives
  updatedAt : pipeline.updatedAt.Survives

/-- The unsigned numbers of the configurations of a pipeline. -/
def sizes (pipeline : Pipeline) : List Nat := pipeline.steps.flatMap fun step => step.config.sizes

/-- A pipeline whose steps have their ids. -/
def toDraft (pipeline : Pipeline) : PipelineDraft :=
  { id := pipeline.id
    name := pipeline.name
    description := pipeline.description
    steps := pipeline.steps.map Step.toDraft
    status := pipeline.status
    schedule := pipeline.schedule
    metadata := pipeline.metadata
    createdAt := pipeline.createdAt
    updatedAt := pipeline.updatedAt }

variable {pipeline : Pipeline}

/-- A pipeline that was written is read again. -/
theorem reader_toJson (sound : pipeline.IsSound) :
    PipelineDraft.reader pipeline.toJson = .ok pipeline.toDraft := by
  have steps : Reader.listOf StepDraft.reader
      (wrap (.arr (pipeline.steps.map fun step => step.toInput.toJson)) : Json) =
        .ok (pipeline.steps.map Step.toDraft) := by
    refine Reader.listOf_eq_ok_iff.mpr ⟨_, rfl, ?_⟩
    rw [List.forall₂_map_left_iff, List.forall₂_map_right_iff]
    exact List.forall₂_same.mpr fun step hstep => Step.reader_toJson (sound.steps step hstep)
  have status : PipelineStatus.reader (wrap (.str (nameIn PipelineStatus.names pipeline.status)) :
      Json) = .ok pipeline.status := by
    rw [PipelineStatus.reader, choice_wrap_iff]
  have metadata : Reader.record (wrap (.ofRecord pipeline.metadata) : Json) =
      .ok pipeline.metadata :=
    Reader.record_of_obj rfl sound.nodup sound.finite
  refine readStruct_of_obj rfl ?_ ?_
  · cases pipeline.description <;> cases pipeline.schedule <;> simp [optionalField]
  · simp [List.lookup_cons, List.lookup_append, textField, steps, status, metadata,
      sound.createdAt.reader_wrap, sound.updatedAt.reader_wrap, toDraft]

/-- The integers of the document of a pipeline are signed integers of 64 bits if its sizes are. -/
theorem fits_toJson (sound : pipeline.IsSound) (small : ∀ n ∈ pipeline.sizes, n < int64Limit) :
    pipeline.toJson.Fits int64Limit := by
  have steps : (Json.arr (pipeline.steps.map fun step => step.toInput.toJson)).Fits int64Limit := by
    refine StepConfig.fits_map fun step hstep => ?_
    have config := StepConfig.fits_toJson (sound.steps step hstep).config.1 fun n hn =>
      small n (List.mem_flatMap.mpr ⟨step, hstep, hn⟩)
    have order := Expression.fits_int (sound.steps step hstep).order
    simp [StepInput.toJson, Step.toInput, Json.fits_obj_iff, optionalField, config, order]
  have metadata : (Json.ofRecord pipeline.metadata).Fits int64Limit :=
    .obj (Json.fits_ofFields pipeline.metadata)
  simp [toJson, Json.fits_obj_iff, or_imp, forall_and, steps, metadata, Timestamp.toJson]

end Pipeline

/-- The unsigned numbers of a step that was read are below the limit of its document. -/
theorem StepDraft.sizes_lt_of_reader {json : Json} {draft : StepDraft} {limit : Nat}
    (read : StepDraft.reader json = .ok draft) (fits : json.Fits limit) (le : limit ≤ sizeLimit)
    (pos : 0 < limit) : ∀ n ∈ draft.config.sizes, n < limit := by
  rw [StepDraft.reader] at read
  cases readInput : StepInput.reader json with
  | error rejection => simp [readInput, bind, Except.bind] at read
  | ok input =>
    simp only [readInput, bind, Except.bind] at read
    cases ofInput : StepDraft.ofInput input with
    | error error => simp [ofInput] at read
    | ok same =>
      rw [ofInput, mapError_ok, Except.ok.injEq] at read
      -- Any id will do, since only the configuration is looked at.
      have parsed := (builds_complete ofInput "").config
      rw [read] at parsed
      exact (StepConfig.isSoundBelow_of_parse parsed
        (StepInput.fits_of_reader readInput fits).config le pos).2

/-- The unsigned numbers of a pipeline that was read are below the limit of its document. -/
theorem PipelineDraft.sizes_lt_of_reader {json : Json} {draft : PipelineDraft} {limit : Nat}
    (read : PipelineDraft.reader json = .ok draft) (fits : json.Fits limit) (le : limit ≤ sizeLimit)
    (pos : 0 < limit) : ∀ step ∈ draft.steps, ∀ n ∈ step.config.sizes, n < limit := by
  obtain ⟨values, built, parts⟩ := exists_build_of_readStruct read fits
  simp only [FieldReader.build_eq_ok_iff, FieldReader.gives_map_iff, FieldReader.gives_seq_iff,
    FieldReader.gives_withDefault_iff, FieldReader.gives_optional_iff,
    FieldReader.gives_required_iff, textField] at built
  -- Of all the fields only the steps matter.
  obtain ⟨_, _, _, _, _, _, _, _, _, _, part, found, steps, readSteps, _, _, _, _,
    _, _, _, _, _, _, _, _, _, _, rfl⟩ := built
  obtain ⟨items, same, each⟩ := Reader.listOf_eq_ok_iff.mp readSteps
  have below := parts _ _ found
  rw [same, Json.fits_arr_iff] at below
  intro step hstep
  obtain ⟨item, hitem, readStep⟩ := exists_of_forall₂ each hstep
  exact StepDraft.sizes_lt_of_reader readStep (below item hitem) le pos

/-! ### Ids of steps -/

section

variable {m : Type → Type} [Monad m] [LawfulMonad m]

/-- Steps that have their ids need no fresh ones. -/
theorem completeSteps_toDraft (freshId : m String) {steps : List Step}
    (sound : ∀ step ∈ steps, step.IsSound) :
    completeSteps freshId (steps.map Step.toDraft) = pure steps := by
  induction steps with
  | nil => rfl
  | cons step steps ih =>
    obtain ⟨first, others⟩ := List.forall_mem_cons.mp sound
    rw [List.map_cons, completeSteps]
    simp only [show step.toDraft.id = some step.id from rfl, ih others,
      Step.complete_toDraft first, pure_bind]

/-- Nor do pipelines. -/
theorem completeDrafts_toDraft (freshId : m String) {pipelines : List Pipeline}
    (sound : ∀ pipeline ∈ pipelines, pipeline.IsSound) :
    completeDrafts freshId (pipelines.map Pipeline.toDraft) = pure pipelines := by
  induction pipelines with
  | nil => rfl
  | cons pipeline pipelines ih =>
    obtain ⟨first, others⟩ := List.forall_mem_cons.mp sound
    rw [List.map_cons, completeDrafts]
    simp only [Pipeline.toDraft, completeSteps_toDraft freshId first.steps, ih others, pure_bind]
    rfl

end

/-! ### Pipelines of definitions -/

/-- What a definition and its configurations are like whose unsigned
numbers are also signed integers. -/
def PipelineInput.HasSignedSizes (input : PipelineInput) : Prop :=
  ∀ step ∈ input.steps, ∀ config, StepConfig.parse step.kind step.config = .ok config →
    ∀ n ∈ config.sizes, n < int64Limit

section

variable {input : PipelineInput} {steps : List Step}

theorem isSound_of_builds (fits : ∀ step ∈ input.steps, step.Fits sizeLimit)
    (builds : List.Forall₂ StepInput.Builds input.steps steps) : ∀ step ∈ steps, step.IsSound := by
  intro step hstep
  obtain ⟨definition, hdefinition, built⟩ := exists_of_forall₂ builds hstep
  exact built.isSound (fits definition hdefinition)

/-- A pipeline that is built of a representable definition is sound. -/
theorem isSound_create (id : String) {now : Timestamp} (representable : input.IsRepresentable)
    (builds : List.Forall₂ StepInput.Builds input.steps steps) (survives : now.Survives) :
    (Pipeline.create id now input steps).IsSound where
  steps := isSound_of_builds representable.steps builds
  nodup := representable.nodup
  finite := representable.finite
  createdAt := survives
  updatedAt := survives

/-- So is a pipeline that is redefined. -/
theorem isSound_redefine {pipeline : Pipeline} {now : Timestamp} (sound : pipeline.IsSound)
    (representable : input.IsRepresentable)
    (builds : List.Forall₂ StepInput.Builds input.steps steps) (survives : now.Survives) :
    (pipeline.redefine now input steps).IsSound :=
  { isSound_create pipeline.id representable builds survives with createdAt := sound.createdAt }

/-- The unsigned numbers of a pipeline are those of its definition. -/
theorem sizes_lt_iff (builds : List.Forall₂ StepInput.Builds input.steps steps) :
    (∀ n ∈ steps.flatMap fun step => step.config.sizes, n < int64Limit) ↔ input.HasSignedSizes := by
  rw [PipelineInput.HasSignedSizes]
  generalize input.steps = definitions at builds
  induction builds with
  | nil => simp
  | @cons definition step _ _ built _ ih =>
    rw [List.flatMap_cons, List.forall_mem_append, ih, List.forall_mem_cons, built.config]
    simp only [Except.ok.injEq, forall_eq']

end

end RecordFlow
