import RecordFlow.Pipeline.Definition
import RecordFlow.Pipeline.Validation
import RecordFlow.Run.Execution
import RecordFlow.Service.Repository

/-!
# The service

What callers can do with the engine: keep pipelines, run them and look at their runs, and try a
single step. Pipelines are validated before they are kept.

## Main definitions

* `ServiceError` — why a request is refused
* `Service` — the engine with its active runs
* `Service.create`, `Service.update`, `Service.delete`, `Service.run`, `Service.preview` and others
-/

namespace RecordFlow

/-- Why a request is refused. -/
inductive ServiceError where
  | noPipeline (id : String)
  | noRun (id : String)
  | noActiveRun (id : String)
  | invalid (result : ValidationResult)
  | notActive (name : String) (status : PipelineStatus)
  | step (error : StepError)
  | storage (error : StorageError)

/-- The status of a pipeline as it is shown in messages. -/
def PipelineStatus.title : PipelineStatus → String
  | active => "Active"
  | paused => "Paused"
  | disabled => "Disabled"

/-- The text of a refusal. -/
def ServiceError.message : ServiceError → String
  | noPipeline id => "Not found: Pipeline '" ++ id ++ "'"
  | noRun id => "Not found: Pipeline run '" ++ id ++ "'"
  | noActiveRun id => "Not found: Active run '" ++ id ++ "'"
  | invalid result => "Validation failed: " ++ result.summary
  | notActive name status =>
    "Invalid state: Pipeline '" ++ name ++ "' is " ++ status.title ++ " and cannot run"
  | step error => "Processing error: " ++ error.message
  | storage error => "Storage error: " ++ error.message

/-- A run that has not ended, and whether it was asked to stop. -/
structure ActiveRun where
  id : String
  cancelled : Bool := false
  deriving DecidableEq

/-- The engine with the runs that have not ended. -/
structure Service (m : Type → Type) where
  host : Host m
  settings : EngineSettings
  activeRuns : m (List ActiveRun)
  setActiveRuns : List ActiveRun → m Unit

/-- Whether a run was asked to stop. -/
def isAskedToStop (id : String) (runs : List ActiveRun) : Bool :=
  runs.any fun run => run.id == id && run.cancelled

namespace Service

variable {m : Type → Type} [Monad m]

/-- Reports a message of the service. -/
def report (service : Service m) (level : LogLevel) (text : String) : m Unit :=
  service.host.log ⟨level, .service, text⟩

/-- Refuses a definition that is not valid. -/
def ensureValid (input : PipelineInput) : ExceptT ServiceError m Unit :=
  let result := validate input
  if result.valid then return () else throw (.invalid result)

/-- A pipeline as it is named in messages. -/
def label (pipeline : Pipeline) : String := "'" ++ pipeline.name ++ "' (" ++ pipeline.id ++ ")"

/-- Keeps a new pipeline. -/
def create (service : Service m) (input : PipelineInput) : ExceptT ServiceError m Pipeline := do
  ensureValid input
  let host := service.host
  let pipeline ← (Pipeline.ofInput host.now host.freshId input).adapt ServiceError.step
  (savePipeline host.store pipeline).adapt ServiceError.storage
  service.report .info ("Created pipeline " ++ label pipeline)
  return pipeline

/-- The pipeline of an id. -/
def get (service : Service m) (id : String) : ExceptT ServiceError m Pipeline := do
  match ← (findPipeline? service.host.store service.host.freshId id).adapt ServiceError.storage with
  | some pipeline => return pipeline
  | none => throw (.noPipeline id)

/-- All pipelines. -/
def list (service : Service m) : ExceptT ServiceError m (List Pipeline) :=
  (listPipelines service.host.store service.host.freshId).adapt ServiceError.storage

/-- Gives a pipeline a new definition. -/
def update (service : Service m) (id : String) (input : PipelineInput) :
    ExceptT ServiceError m Pipeline := do
  let pipeline ← service.get id
  ensureValid input
  let host := service.host
  let pipeline ← (pipeline.apply host.now host.freshId input).adapt ServiceError.step
  (savePipeline host.store pipeline).adapt ServiceError.storage
  service.report .info ("Updated pipeline " ++ label pipeline)
  return pipeline

/-- Deletes a pipeline with its runs. -/
def delete (service : Service m) (id : String) : ExceptT ServiceError m Unit := do
  let found ← (deletePipeline service.host.store id).adapt ServiceError.storage
  if !found then throw (.noPipeline id)
  -- The pipeline is gone by now, whatever becomes of its runs.
  let count ← (deleteRuns service.host.store id).adapt ServiceError.storage
  service.report .info ("Deleted pipeline " ++ id ++ " and " ++ toString count ++ " run(s)")

/-- Adds a run to the active ones. -/
def register (service : Service m) (id : String) : m Unit := do
  service.setActiveRuns ((← service.activeRuns).filter (·.id != id) ++ [⟨id, false⟩])

/-- Removes a run from the active ones. -/
def unregister (service : Service m) (id : String) : m Unit := do
  service.setActiveRuns ((← service.activeRuns).filter (·.id != id))

/-- Executes a run that was saved, and saves it again. A failure to do so is only reported. -/
def runToEnd (service : Service m) (pipeline : Pipeline)
    (run : PipelineRun) (options : RunOptions) : m PipelineRun := do
  service.register run.id
  let isCancelled := isAskedToStop run.id <$> service.activeRuns
  let run ← execute service.host isCancelled service.settings pipeline run options
  service.unregister run.id
  match ← (saveRun service.host.store run).run with
  | .ok _ => return run
  | .error error =>
    service.report .error
      ("Failed to store run " ++ run.id ++ " of pipeline " ++ pipeline.id ++ ": " ++ error.message)
    return run

/-- Runs a pipeline. -/
def run (service : Service m) (id : String) (options : RunOptions) :
    ExceptT ServiceError m PipelineRun := do
  let pipeline ← service.get id
  if pipeline.status ≠ .active then throw (.notActive pipeline.name pipeline.status)
  let host := service.host
  let run ← (newRun host pipeline options : m PipelineRun)
  let run := run.start (← host.now)
  (saveRun host.store run).adapt ServiceError.storage
  service.runToEnd pipeline run options

/-- Asks an active run to stop before its next step. -/
def cancel (service : Service m) (id : String) : ExceptT ServiceError m Unit := do
  let runs ← service.activeRuns
  if runs.any (·.id == id) then
    service.report .info ("Cancelling run " ++ id)
    service.setActiveRuns
      (runs.map fun run => if run.id = id then { run with cancelled := true } else run)
  else throw (.noActiveRun id)

/-- The ids of the active runs. -/
def activeIds (service : Service m) : m (List String) := do
  return (← service.activeRuns).map ActiveRun.id

/-- The run of an id. -/
def getRun (service : Service m) (id : String) : ExceptT ServiceError m PipelineRun := do
  match ← (findRun? service.host.store id).adapt ServiceError.storage with
  | some run => return run
  | none => throw (.noRun id)

/-- The runs of a pipeline. -/
def runsOf (service : Service m) (pipelineId : String) :
    ExceptT ServiceError m (List PipelineRun) :=
  (listRuns service.host.store pipelineId).adapt ServiceError.storage

/-- The first records that a step makes of what is stored. Nothing is written. -/
def preview (service : Service m) (input : StepInput) (limit : Option Nat) :
    ExceptT ServiceError m (List Record) := do
  let draft ← ExceptT.mk (pure ((StepDraft.ofInput input).mapError ServiceError.step))
  let output ← (executeConfig service.host [] draft.config).adapt ServiceError.step
  return output.records.take (limit.getD service.settings.previewLimit)

end Service

end RecordFlow
