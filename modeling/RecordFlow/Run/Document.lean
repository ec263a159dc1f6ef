import RecordFlow.Pipeline.Document
import RecordFlow.Run.Basic

/-!
# Runs as documents

Runs, the results of their steps and the options of runs, read and written.
-/

namespace RecordFlow

/-- The statuses of runs by name. -/
def RunStatus.names : List (String × RunStatus) :=
  [("pending", .pending), ("running", .running), ("completed", .completed), ("failed", .failed),
    ("cancelled", .cancelled)]

/-- The statuses of steps by name. -/
def StepStatus.names : List (String × StepStatus) :=
  [("pending", .pending), ("running", .running), ("completed", .completed), ("failed", .failed),
    ("skipped", .skipped)]

section

variable {δ : Type} [Document δ]

/-- Reads the result of a step. -/
def StepResult.reader : Reader δ StepResult :=
  readStruct "struct StepResult"
    (StepResult.mk <$> .required "stepId" Reader.text <*> .required "stepName" Reader.text
      <*> .required "stepType" (Reader.choice StepKind.names (StepKind.names.map Prod.fst))
      <*> .required "status" (Reader.choice StepStatus.names (StepStatus.names.map Prod.fst))
      <*> .required "inputRows" Reader.size <*> .required "outputRows" Reader.size
      <*> .optional "startedAt" Timestamp.reader <*> .optional "completedAt" Timestamp.reader
      <*> .optional "durationMs" Reader.int64 <*> .optional "error" Reader.text
      <*> .required "output" Reader.text)

/-- Reads a run. -/
def PipelineRun.reader : Reader δ PipelineRun :=
  readStruct "struct PipelineRun"
    (PipelineRun.mk <$> .required "id" Reader.text <*> .required "pipelineId" Reader.text
      <*> .required "status" (Reader.choice RunStatus.names (RunStatus.names.map Prod.fst))
      <*> .optional "triggeredBy" Reader.text <*> .required "dryRun" Reader.boolean
      <*> .required "createdAt" Timestamp.reader <*> .optional "startedAt" Timestamp.reader
      <*> .optional "completedAt" Timestamp.reader <*> .optional "durationMs" Reader.int64
      <*> .required "stepResults" (Reader.listOf StepResult.reader)
      <*> .optional "error" Reader.text <*> .withDefault "context" Reader.record [])

/-- Reads the options of a run. -/
def RunOptions.reader : Reader δ RunOptions :=
  readStruct "struct RunOptions"
    (RunOptions.mk <$> .withDefault "dryRun" Reader.boolean false
      <*> .withDefault "continueOnError" Reader.boolean false
      <*> .withDefault "cleanupTempCollections" Reader.boolean false
      <*> .optional "triggeredBy" Reader.text <*> .withDefault "context" Reader.record [])

end

/-- The fields of the times of a run or of a step. -/
def timeFields (startedAt completedAt : Option Timestamp) (durationMs : Option Int) :
    List (String × Json) :=
  optionalField "startedAt" Timestamp.toJson startedAt ++
    optionalField "completedAt" Timestamp.toJson completedAt ++
    optionalField "durationMs" Json.int durationMs

/-- The document of the result of a step. -/
def StepResult.toJson (result : StepResult) : Json :=
  .obj ([("stepId", .str result.stepId), ("stepName", .str result.stepName),
    ("stepType", .str result.kind.name), ("status", .str (nameIn StepStatus.names result.status)),
    ("inputRows", .int result.inputRows), ("outputRows", .int result.outputRows)] ++
    timeFields result.startedAt result.completedAt result.durationMs ++
    optionalField "error" Json.str result.error ++ [("output", .str result.output)])

/-- The document of a run. -/
def PipelineRun.toJson (run : PipelineRun) : Json :=
  .obj ([("id", .str run.id), ("pipelineId", .str run.pipelineId),
    ("status", .str (nameIn RunStatus.names run.status))] ++
    optionalField "triggeredBy" Json.str run.triggeredBy ++
    [("dryRun", .bool run.dryRun), ("createdAt", run.createdAt.toJson)] ++
    timeFields run.startedAt run.completedAt run.durationMs ++
    [("stepResults", .arr (run.stepResults.map StepResult.toJson))] ++
    optionalField "error" Json.str run.error ++ [("context", .ofRecord run.context)])

/-- The document of the options of a run. -/
def RunOptions.toJson (options : RunOptions) : Json :=
  .obj [("dryRun", .bool options.dryRun), ("continueOnError", .bool options.continueOnError),
    ("cleanupTempCollections", .bool options.cleanup),
    ("triggeredBy", (options.triggeredBy.map Json.str).getD .null),
    ("context", .ofRecord options.context)]

end RecordFlow
