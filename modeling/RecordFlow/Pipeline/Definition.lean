import RecordFlow.Calendar.Timestamp
import RecordFlow.Step.Process

/-!
# Pipelines

A pipeline is a list of steps with a name. Its definition comes in from outside with the
configurations of its steps as documents; a pipeline that is kept has them in their own form, and
every step has an id. A pipeline is made of a definition with a time and with fresh ids for itself
and for the steps that have none. It is redefined with its own id and the time of its creation.

## Main definitions

* `StepInput`, `PipelineInput` — definitions as they come in
* `Step`, `Pipeline` — pipelines that are kept
* `StepDraft` — a step whose id is still open
* `Pipeline.ofInput`, `Pipeline.apply` — the pipeline of a definition, and one with a new definition
-/

namespace RecordFlow

/-- Whether a pipeline may run. -/
inductive PipelineStatus where
  | active
  | paused
  | disabled
  deriving DecidableEq

/-- The definition of a step as it comes in. -/
structure StepInput where
  id : Option String
  name : String
  kind : StepKind
  config : Json
  order : Int
  dependsOn : List String

/-- The definition of a pipeline as it comes in. -/
structure PipelineInput where
  name : String
  description : Option String
  steps : List StepInput
  status : PipelineStatus
  schedule : Option String
  metadata : Record

/-- A step. Among steps that are ready the one with the least `order` runs first. -/
structure Step where
  id : String
  name : String
  config : StepConfig
  order : Int
  dependsOn : List String

/-- A pipeline. -/
structure Pipeline where
  id : String
  name : String
  description : Option String
  steps : List Step
  status : PipelineStatus
  schedule : Option String
  metadata : Record
  createdAt : Timestamp
  updatedAt : Timestamp

/-- A step whose id may be open. -/
structure StepDraft where
  id : Option String
  name : String
  config : StepConfig
  order : Int
  dependsOn : List String

namespace StepDraft

/-- The step of a definition, if its configuration is one. -/
def ofInput (input : StepInput) : Except StepError StepDraft := do
  let config ← StepConfig.parse input.kind input.config
  return ⟨input.id, input.name, config, input.order, input.dependsOn⟩

/-- The step with an id for the case that it has none. A step without a name is named by its id. -/
def complete (draft : StepDraft) (fresh : String) : Step :=
  let id := draft.id.getD fresh
  ⟨id, if draft.name.isEmpty then id else draft.name, draft.config, draft.order, draft.dependsOn⟩

end StepDraft

/-- Steps with their ids. A fresh id is taken for each step that has none. -/
def completeSteps {m : Type → Type} [Monad m] (freshId : m String) : List StepDraft → m (List Step)
  | [] => return []
  | draft :: drafts => do
    let fresh ← match draft.id with
      | some id => pure id
      | none => freshId
    let steps ← completeSteps freshId drafts
    return draft.complete fresh :: steps

namespace Step

/-- The definition of a step. -/
def toInput (step : Step) : StepInput :=
  ⟨some step.id, step.name, step.config.kind, step.config.toJson, step.order, step.dependsOn⟩

end Step

namespace Pipeline

/-- The definition of a pipeline. -/
def toInput (pipeline : Pipeline) : PipelineInput :=
  { name := pipeline.name
    description := pipeline.description
    steps := pipeline.steps.map Step.toInput
    status := pipeline.status
    schedule := pipeline.schedule
    metadata := pipeline.metadata }

/-- The pipeline of a definition and its steps, made now. -/
def create (id : String) (now : Timestamp) (input : PipelineInput) (steps : List Step) : Pipeline :=
  { id
    name := input.name
    description := input.description
    steps
    status := input.status
    schedule := input.schedule
    metadata := input.metadata
    createdAt := now
    updatedAt := now }

/-- The pipeline with a new definition. -/
def redefine (pipeline : Pipeline) (now : Timestamp) (input : PipelineInput)
    (steps : List Step) : Pipeline :=
  { create pipeline.id now input steps with createdAt := pipeline.createdAt }

end Pipeline

/-! ### Making pipelines -/

section

variable {m : Type → Type} [Monad m]

/-- The steps of definitions. -/
def stepsOfInputs (freshId : m String) (inputs : List StepInput) :
    ExceptT StepError m (List Step) := do
  let drafts ← ExceptT.mk (pure (inputs.mapM StepDraft.ofInput))
  completeSteps freshId drafts

/-- The pipeline of a definition. -/
def Pipeline.ofInput (now : m Timestamp) (freshId : m String) (input : PipelineInput) :
    ExceptT StepError m Pipeline := do
  let time ← now
  let steps ← stepsOfInputs freshId input.steps
  return Pipeline.create (← freshId) time input steps

/-- The pipeline with a new definition. -/
def Pipeline.apply (pipeline : Pipeline) (now : m Timestamp) (freshId : m String)
    (input : PipelineInput) : ExceptT StepError m Pipeline := do
  let steps ← stepsOfInputs freshId input.steps
  return pipeline.redefine (← now) input steps

end

end RecordFlow
