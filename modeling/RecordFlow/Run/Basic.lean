import RecordFlow.Pipeline.Graph
import RecordFlow.Settings.Basic

/-!
# Runs

A run is one execution of a pipeline. It has a result for every step, in the order of execution.

## Main definitions

* `StepResult` — how a step fared, with `start`, `complete`, `fail` and `skip`
* `PipelineRun` — a run, with `PipelineRun.start` and `PipelineRun.finish`
* `RunOptions` — what is asked of a run
* `executionSteps` — the steps of a pipeline in the order of execution
-/

namespace RecordFlow

/-- How far a run has come. -/
inductive RunStatus where
  | pending
  | running
  | completed
  | failed
  | cancelled
  deriving DecidableEq

/-- How far a step has come. -/
inductive StepStatus where
  | pending
  | running
  | completed
  | failed
  | skipped
  deriving DecidableEq

/-- How a step fared. -/
structure StepResult where
  stepId : String
  stepName : String
  kind : StepKind
  status : StepStatus
  inputRows : Nat
  outputRows : Nat
  startedAt : Option Timestamp
  completedAt : Option Timestamp
  durationMs : Option Int
  error : Option String
  output : String

/-- The whole milliseconds between two instants. -/
def millisBetween (start stop : Timestamp) : Int := (stop.nanosSince start).tdiv 1000000

namespace StepResult

/-- The result of a step that has not started. -/
def pending (step : Step) : StepResult :=
  { stepId := step.id
    stepName := step.name
    kind := step.config.kind
    status := .pending
    inputRows := 0
    outputRows := 0
    startedAt := none
    completedAt := none
    durationMs := none
    error := none
    output := step.config.output }

/-- The step starts. -/
def start (result : StepResult) (now : Timestamp) : StepResult :=
  { result with status := .running, startedAt := some now }

/-- The step ends. -/
def finish (result : StepResult) (status : StepStatus) (now : Timestamp) : StepResult :=
  { result with
    status, completedAt := some now, durationMs := result.startedAt.map (millisBetween · now) }

/-- The step ends with records. -/
def complete (result : StepResult) (inputRows outputRows : Nat) (now : Timestamp) : StepResult :=
  { result with inputRows, outputRows }.finish .completed now

/-- The step fails. -/
def fail (result : StepResult) (error : String) (now : Timestamp) : StepResult :=
  { result with error := some error }.finish .failed now

/-- The step does not run. -/
def skip (result : StepResult) : StepResult := { result with status := .skipped }

end StepResult

/-- A run. -/
structure PipelineRun where
  id : String
  pipelineId : String
  status : RunStatus
  triggeredBy : Option String
  dryRun : Bool
  createdAt : Timestamp
  startedAt : Option Timestamp
  completedAt : Option Timestamp
  durationMs : Option Int
  stepResults : List StepResult
  error : Option String
  context : Record

/-- What is asked of a run. A dry run keeps nothing. -/
structure RunOptions where
  dryRun : Bool := false
  continueOnError : Bool := false
  cleanup : Bool := false
  triggeredBy : Option String := none
  context : Record := []

/-- The options that settings ask for. -/
def RunOptions.ofSettings (settings : EngineSettings) : RunOptions :=
  { continueOnError := settings.continueOnError, cleanup := settings.cleanup }

/-- The steps at some places, with their places. -/
def stepsAt (steps : List Step) (places : List Nat) : List (Nat × Step) :=
  places.filterMap fun i => (steps[i]?).map fun step => (i, step)

/-- The steps of a pipeline in the order of execution; in the order of
declaration if there is none. -/
def executionSteps (pipeline : Pipeline) : List Step :=
  match resolveOrder (pipeline.steps.map Node.ofStep) with
  | .ok order => (stepsAt pipeline.steps order).map Prod.snd
  | .error _ => pipeline.steps

namespace PipelineRun

/-- A run of a pipeline that has not started. -/
def create (id : String) (now : Timestamp) (pipeline : Pipeline) (options : RunOptions) :
    PipelineRun :=
  { id
    pipelineId := pipeline.id
    status := .pending
    triggeredBy := options.triggeredBy
    dryRun := options.dryRun
    createdAt := now
    startedAt := none
    completedAt := none
    durationMs := none
    stepResults := (executionSteps pipeline).map StepResult.pending
    error := none
    context := options.context }

/-- The run starts. -/
def start (run : PipelineRun) (now : Timestamp) : PipelineRun :=
  { run with status := .running, startedAt := some now }

/-- The run ends. -/
def finish (run : PipelineRun) (status : RunStatus) (now : Timestamp) : PipelineRun :=
  { run with
    status, completedAt := some now, durationMs := run.startedAt.map (millisBetween · now) }

/-- Whether a step has failed. -/
def hasFailures (run : PipelineRun) : Bool := run.stepResults.any (·.status == .failed)

end PipelineRun

end RecordFlow
