import RecordFlow.Calendar.Reading
import RecordFlow.Pipeline.Definition
import RecordFlow.Step.Document

/-!
# Pipelines as documents

Definitions are read from documents of every kind; pipelines that are kept are JSON objects.
-/

namespace RecordFlow

namespace PipelineStatus

/-- The statuses by name. -/
def names : List (String × PipelineStatus) :=
  [("active", active), ("paused", paused), ("disabled", disabled)]

end PipelineStatus

section

variable {δ : Type} [Document δ]

/-- Reads the definition of a step. -/
def StepInput.reader : Reader δ StepInput :=
  readStruct "struct TransformStepInput"
    (StepInput.mk <$> .optional "id" Reader.text
      <*> .withDefault "name" Reader.text ""
      <*> .required "type" (Reader.choice StepKind.names (StepKind.names.map Prod.fst) "StepType")
      <*> .withDefault "config" Reader.json .null
      <*> .withDefault "order" Reader.int64 0
      <*> .withDefault "dependsOn" (Reader.listOf Reader.text) [])

/-- Reads the status of a pipeline. -/
def PipelineStatus.reader : Reader δ PipelineStatus :=
  Reader.choice PipelineStatus.names (PipelineStatus.names.map Prod.fst) "PipelineStatus"

/-- Reads the definition of a pipeline. -/
def PipelineInput.reader : Reader δ PipelineInput :=
  readStruct "struct PipelineInput"
    (PipelineInput.mk <$> .withDefault "name" Reader.text ""
      <*> .optional "description" Reader.text
      <*> .withDefault "steps" (Reader.listOf StepInput.reader) []
      <*> .withDefault "status" PipelineStatus.reader .active
      <*> .optional "schedule" Reader.text
      <*> .withDefault "metadata" Reader.record [])

/-- Reads an instant. -/
def Timestamp.reader : Reader δ Timestamp := fun d =>
  match Document.scalarText d with
  | some s =>
    match Timestamp.parseLoosely s with
    | .ok t => .ok t
    | .error error => rejectAfter (.meaningless error.message) d
  | none => rejectType "an RFC 3339 formatted date and time string" d

end

/-- The document of an instant. -/
def Timestamp.toJson (t : Timestamp) : Json := .str t.toIsoFull

namespace StepInput

/-- The document of the definition of a step. -/
def toJson (input : StepInput) : Json :=
  .obj (optionalField "id" Json.str input.id ++
    [("name", .str input.name), ("type", .str input.kind.name), ("config", input.config),
      ("order", .int input.order), ("dependsOn", textsJson input.dependsOn)])

end StepInput

namespace PipelineInput

/-- The document of the definition of a pipeline. -/
def toJson (input : PipelineInput) : Json :=
  .obj ([("name", .str input.name)] ++ optionalField "description" Json.str input.description ++
    [("steps", .arr (input.steps.map StepInput.toJson)),
      ("status", .str (nameIn PipelineStatus.names input.status))] ++
    optionalField "schedule" Json.str input.schedule ++ [("metadata", .ofRecord input.metadata)])

end PipelineInput

/-- Reads a step that was kept. -/
def StepDraft.reader : Reader Json StepDraft := fun json => do
  let input ← StepInput.reader json
  (StepDraft.ofInput input).mapError fun error => ⟨.meaningless error.message, none⟩

/-- A pipeline whose steps may lack their ids. -/
structure PipelineDraft where
  id : String
  name : String
  description : Option String
  steps : List StepDraft
  status : PipelineStatus
  schedule : Option String
  metadata : Record
  createdAt : Timestamp
  updatedAt : Timestamp

namespace PipelineDraft

/-- Reads a pipeline that was kept. -/
def reader : Reader Json PipelineDraft :=
  readStruct "struct Pipeline"
    (PipelineDraft.mk <$> textField "id" <*> textField "name" <*>
      .optional "description" Reader.text <*> .required "steps" (Reader.listOf StepDraft.reader)
      <*> .withDefault "status" PipelineStatus.reader .active
      <*> .optional "schedule" Reader.text <*> .withDefault "metadata" Reader.record []
      <*> .required "createdAt" Timestamp.reader <*> .required "updatedAt" Timestamp.reader)

/-- The pipeline with its steps. -/
def complete (draft : PipelineDraft) (steps : List Step) : Pipeline :=
  { id := draft.id
    name := draft.name
    description := draft.description
    steps
    status := draft.status
    schedule := draft.schedule
    metadata := draft.metadata
    createdAt := draft.createdAt
    updatedAt := draft.updatedAt }

end PipelineDraft

namespace Pipeline

/-- The document of a pipeline. -/
def toJson (pipeline : Pipeline) : Json :=
  .obj ([("id", .str pipeline.id), ("name", .str pipeline.name)] ++
    optionalField "description" Json.str pipeline.description ++
    [("steps", .arr (pipeline.steps.map fun step => step.toInput.toJson)),
      ("status", .str (nameIn PipelineStatus.names pipeline.status))] ++
    optionalField "schedule" Json.str pipeline.schedule ++
    [("metadata", .ofRecord pipeline.metadata), ("createdAt", pipeline.createdAt.toJson),
      ("updatedAt", pipeline.updatedAt.toJson)])

end Pipeline

end RecordFlow
