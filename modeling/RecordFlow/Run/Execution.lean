import RecordFlow.Run.Basic
import RecordFlow.Run.Workspace
import RecordFlow.Store.Basic

/-!
# Executing a pipeline

The steps run one after the other in the order of their dependencies. A step that fails is recorded
in the run; what depends on it is skipped, and so is everything behind it unless the run continues
on errors. A cancelled run starts no further step.

## Main definitions

* `persist` — replaces a stored collection by what a step has made
* `Execution` — what stays the same in a run, and `Progress` — how far it has come
* `Slot` — a step that waits for its turn
* `Execution.runStep`, `Execution.runSteps` — one step and all steps
* `execute` — a run from its start to its end, and `runPipeline` — a new run
-/

namespace RecordFlow

section

variable {m : Type → Type} [Monad m]

/-- Replaces a stored collection. -/
def persist (store : RecordStore m) (name : String) (records : List Record) :
    ExceptT StepError m Unit :=
  if isReserved name then throw (.reservedName name)
  else ExceptT.adapt StepError.storage do
    let found ← store.has name
    if !found then store.create name
    store.clear name
    let _ ← store.createMany name records

/-- What stays the same in a run. -/
structure Execution (m : Type → Type) where
  host : Host m
  isCancelled : m Bool
  runId : String
  nodes : List Node
  options : RunOptions

/-- A step that waits for its turn: its place among the steps, and the
result that the run has for it. -/
structure Slot where
  place : Nat
  step : Step
  pending : StepResult

/-- How far a run has come: the results so far, the sets that were made, the places of the steps
that cannot run any more, and why no further step runs. -/
structure Progress where
  results : List StepResult := []
  made : Collections := []
  tainted : List Nat := []
  halted : Bool := false
  cancelled : Bool := false
  error : Option String := none

/-- Adds the result of the next step. -/
def Progress.add (progress : Progress) (result : StepResult) : Progress :=
  { progress with results := progress.results ++ [result] }

/-- Reports a message of an execution. -/
def Host.report (host : Host m) (level : LogLevel) (text : String) : m Unit :=
  host.log ⟨level, .execution, text⟩

namespace Execution

/-- What a step makes, which is stored unless the run is dry. -/
def executeStep (execution : Execution m) (made : Collections) (step : Step) :
    ExceptT StepError m StepOutput := do
  let output ← executeConfig execution.host made step.config
  if !execution.options.dryRun then
    persist execution.host.store step.config.output output.records
  return output

/-- Whether the run is cancelled when it comes to a step. -/
def checkCancelled (execution : Execution m) (step : Step) (cancelled : Bool) : m Bool :=
  if cancelled then return true
  else do
    let now ← execution.isCancelled
    if now then
      execution.host.report .warn
        ("Run " ++ execution.runId ++ " cancelled before step '" ++ step.id ++ "'")
    return now

/-- The message that a step starts. -/
def startText (step : Step) : String :=
  "Step '" ++ step.id ++ "' (" ++ step.config.kind.name ++ ") started"

/-- The failure of a step as it is recorded in a run. -/
def failureText (step : Step) (error : StepError) : String :=
  "Step '" ++ step.id ++ "' failed: " ++ error.message

/-- Starts a step and records how it fares. -/
def startStep (execution : Execution m) (slot : Slot) (progress : Progress) : m Progress := do
  let step := slot.step
  let started := slot.pending.start (← execution.host.now)
  execution.host.report .debug (startText step)
  match ← (execution.executeStep progress.made step).run with
  | .ok output =>
    let count := output.records.length
    execution.host.report .debug ("Step '" ++ step.id ++ "' completed: " ++
      toString output.inputRows ++ " rows in, " ++ toString count ++ " rows out")
    let result := started.complete output.inputRows count (← execution.host.now)
    return { progress with made := progress.made.put step.config.output output.records }.add result
  | .error error =>
    execution.host.report .warn (failureText step error)
    let result := started.fail error.message (← execution.host.now)
    return { progress with
      tainted := progress.tainted ++ dependents execution.nodes slot.place
      halted := progress.halted || !execution.options.continueOnError
      error := progress.error <|> some (failureText step error) }.add result

/-- Deals with a step: it is started unless something keeps it from running. -/
def runStep (execution : Execution m) (slot : Slot) (progress : Progress) : m Progress := do
  let cancelled ← execution.checkCancelled slot.step progress.cancelled
  let progress := { progress with cancelled }
  if cancelled || progress.halted || progress.tainted.contains slot.place then
    return progress.add slot.pending.skip
  else execution.startStep slot progress

/-- Deals with the steps one after the other. -/
def runSteps (execution : Execution m) : List Slot → Progress → m Progress
  | [], progress => return progress
  | slot :: slots, progress => do
    let progress ← execution.runStep slot progress
    execution.runSteps slots progress

end Execution

/-- Drops a collection that is there. -/
def dropIfThere (store : RecordStore m) (name : String) : ExceptT StorageError m Unit := do
  let found ← store.has name
  if found then store.drop name else return ()

/-- Drops temporary collections. What cannot be dropped is only reported. -/
def dropTemporary (host : Host m) : List String → m Unit
  | [] => return ()
  | name :: names => do
    match ← (dropIfThere host.store name).run with
    | .ok _ => host.report .debug ("Removed temporary collection '" ++ name ++ "'")
    | .error error =>
      host.report .warn ("Failed to remove temporary collection '" ++
        name ++ "': " ++ error.message)
    dropTemporary host names

/-- Whether a name is that of a temporary collection. -/
def isTemporary (settings : EngineSettings) (name : String) : Bool :=
  settings.tempPrefix.toList.isPrefixOf name.toList

/-- The results of a run if they belong to the given steps, and pending ones otherwise. -/
def alignResults (steps : List Step) (results : List StepResult) : List StepResult :=
  if results.map StepResult.stepId =
    steps.map Step.id then results else steps.map StepResult.pending

/-- A status as it is shown in messages. -/
def RunStatus.title : RunStatus → String
  | pending => "Pending"
  | running => "Running"
  | completed => "Completed"
  | failed => "Failed"
  | cancelled => "Cancelled"

/-- A run at its end, before its times are set: status and error follow from the progress. -/
def Progress.conclude (progress : Progress) (run : PipelineRun) : PipelineRun :=
  let run := { run with stepResults := progress.results }
  if progress.cancelled then
    { run with status := .cancelled, error := progress.error <|> some "Run was cancelled" }
  else
    { run with status := if run.hasFailures then .failed else .completed, error := progress.error }

/-- Ends a run whose steps cannot be ordered. -/
def refuseCycle (host : Host m) (pipeline : Pipeline) (run : PipelineRun)
    (cycle : CyclicDependency) : m PipelineRun := do
  host.report .warn ("Pipeline '" ++ pipeline.name ++ "' cannot run: " ++ cycle.message)
  let results := (alignResults pipeline.steps run.stepResults).map StepResult.skip
  return { run with stepResults := results, error := some cycle.message }.finish .failed
    (← host.now)

/-- What stays the same in a run of a pipeline. -/
def Execution.ofRun (host : Host m) (isCancelled : m Bool) (pipeline : Pipeline) (run : PipelineRun)
    (options : RunOptions) : Execution m :=
  { host, isCancelled, runId := run.id, nodes := pipeline.steps.map Node.ofStep, options }

/-- The steps of a pipeline in an order, as they wait in a run. -/
def slotsOf (pipeline : Pipeline) (order : List Nat) (run : PipelineRun) : List Slot :=
  let steps := stepsAt pipeline.steps order
  List.zipWith (fun (place, step) pending => ⟨place, step, pending⟩) steps
    (alignResults (steps.map Prod.snd) run.stepResults)

/-- Ends a run behind its last step. -/
def endRun (host : Host m) (settings : EngineSettings) (pipeline : Pipeline) (run : PipelineRun)
    (options : RunOptions) (progress : Progress) : m PipelineRun := do
  -- Only names of sets that this run has made are temporary; other
  -- stored collections are left alone.
  if options.cleanup then
    dropTemporary host ((progress.made.map Prod.fst).filter (isTemporary settings))
  let run := progress.conclude run
  let run := run.finish run.status (← host.now)
  host.report .info ("Pipeline '" ++ pipeline.name ++ "' run " ++ run.id ++ " finished: " ++
    run.status.title ++ " in " ++ toString (run.durationMs.getD 0) ++ " ms")
  return run

/-- Runs the steps of a pipeline in their order and ends the run. -/
def executeOrdered (host : Host m) (isCancelled : m Bool) (settings : EngineSettings)
    (pipeline : Pipeline) (order : List Nat) (run : PipelineRun) (options : RunOptions) :
    m PipelineRun := do
  let execution := Execution.ofRun host isCancelled pipeline run options
  let progress ← execution.runSteps (slotsOf pipeline order run) { error := run.error }
  endRun host settings pipeline run options progress

/-- Starts a run that has not started. -/
def openRun (host : Host m) (pipeline : Pipeline) (run : PipelineRun) : m PipelineRun := do
  let run ← match run.startedAt with
    | some _ => pure run
    | none => run.start <$> host.now
  host.report .info ("Running pipeline '" ++ pipeline.name ++ "' (run " ++ run.id ++ ")")
  return run

/-- Takes a run of a pipeline to its end. Failures of steps are recorded in the run. -/
def execute (host : Host m) (isCancelled : m Bool) (settings : EngineSettings) (pipeline : Pipeline)
    (run : PipelineRun) (options : RunOptions) : m PipelineRun := do
  let run ← openRun host pipeline run
  match resolveOrder (pipeline.steps.map Node.ofStep) with
  | .ok order => executeOrdered host isCancelled settings pipeline order run options
  | .error cycle => refuseCycle host pipeline run cycle

/-- A new run of a pipeline. -/
def newRun (host : Host m) (pipeline : Pipeline) (options : RunOptions) : m PipelineRun := do
  return PipelineRun.create (← host.freshId) (← host.now) pipeline options

/-- Runs a pipeline from the start to the end. -/
def runPipeline (host : Host m) (isCancelled : m Bool) (settings : EngineSettings)
    (pipeline : Pipeline) (options : RunOptions) : m PipelineRun := do
  let run ← newRun host pipeline options
  execute host isCancelled settings pipeline run options

end

end RecordFlow
