import RecordFlow.Pipeline.Document
import RecordFlow.Pipeline.Graph
import RecordFlow.Store.Basic

/-!
# Validation

What is wrong with the definition of a pipeline, found without looking at any data. Errors keep a
pipeline from being accepted, warnings do not.

## Main definitions

* `IssueCode`, `Issue`, `ValidationResult` — what is found
* `validate` — the validation of a definition
-/

namespace RecordFlow

/-- The kind of an issue. -/
inductive IssueCode where
  | emptyName
  | noSteps
  | missingField
  | invalidConfig
  | duplicateStepId
  | unknownDependency
  | cyclicDependency
  | reservedName
  | unverifiedSource
  | duplicateOutput
  deriving DecidableEq

/-- The name of the kind of an issue. -/
def IssueCode.name : IssueCode → String
  | emptyName => "EMPTY_NAME"
  | noSteps => "NO_STEPS"
  | missingField => "MISSING_FIELD"
  | invalidConfig => "INVALID_CONFIG"
  | duplicateStepId => "DUPLICATE_STEP_ID"
  | unknownDependency => "UNKNOWN_DEPENDENCY"
  | cyclicDependency => "CYCLIC_DEPENDENCY"
  | reservedName => "RESERVED_NAME"
  | unverifiedSource => "UNVERIFIED_SOURCE"
  | duplicateOutput => "DUPLICATE_OUTPUT"

/-- An issue, with the step and the field that it is about. -/
structure Issue where
  code : IssueCode
  message : String
  stepId : Option String := none
  field : Option String := none

/-- The document of an issue. -/
def Issue.toJson (issue : Issue) : Json :=
  .obj ([("code", .str issue.code.name), ("message", .str issue.message)] ++
    optionalField "stepId" Json.str issue.stepId ++ optionalField "field" Json.str issue.field)

/-- The issues of a definition. -/
structure ValidationResult where
  errors : List Issue
  warnings : List Issue

namespace ValidationResult

/-- Whether a definition is accepted. -/
def valid (result : ValidationResult) : Bool := result.errors.isEmpty

/-- The document of the issues. -/
def toJson (result : ValidationResult) : Json :=
  .obj [("valid", .bool result.valid), ("errors", .arr (result.errors.map Issue.toJson)),
    ("warnings", .arr (result.warnings.map Issue.toJson))]

/-- The texts of all errors. -/
def summary (result : ValidationResult) : String :=
  "; ".intercalate (result.errors.map Issue.message)

end ValidationResult

/-- The keys that a configuration of a kind has to have. -/
def StepKind.requiredFields : StepKind → List String
  | filter => ["source", "output", "conditions"]
  | map => ["source", "output", "mappings"]
  | aggregate => ["source", "output", "aggregations"]
  | join => ["left", "right", "output", "on"]
  | lookup => ["source", "from", "localField", "foreignField", "as", "output"]
  | union => ["sources", "output"]
  | deduplicate => ["source", "output", "keys"]
  | sort => ["source", "output", "orderBy"]
  | limit => ["source", "output", "limit"]
  | pivot => ["source", "output", "groupBy", "pivotField", "valueField", "aggregation"]
  | unpivot => ["source", "output", "unpivotFields"]
  | flatten => ["source", "output", "field"]

/-- The required keys that a configuration does not have or has with null. -/
def missingFields (config : Json) (required : List String) : List String :=
  required.filter fun key => (config.field? key).all Json.isNull

namespace Validation

/-- Issues with the name and with the number of steps. -/
def shapeErrors (input : PipelineInput) : List Issue :=
  (if (Text.trim input.name).isEmpty then
    [{ code := .emptyName, message := "'name' cannot be empty", field := some "name" }] else []) ++
  (if input.steps.isEmpty then
    [{ code := .noSteps, message := "Pipeline must have at least one step" }] else [])

/-- Issues with ids that occur before, among `seen` or among earlier nodes. -/
def idErrors : List Node → (seen : List String) → List Issue
  | [], _ => []
  | node :: nodes, seen =>
    if seen.contains node.id then
      { code := .duplicateStepId, message := "Step id '" ++ node.id ++ "' is used more than once",
        stepId := some node.id } :: idErrors nodes seen
    else idErrors nodes (node.id :: seen)

/-- Issues with the configuration of a step. What is missing is reported first, and only a
configuration that misses nothing is read. -/
def configErrors (step : StepInput) (node : Node) : List Issue :=
  match missingFields step.config step.kind.requiredFields with
  | [] =>
    match StepConfig.parse step.kind step.config with
    | .ok _ => []
    | .error error =>
      [{ code := .invalidConfig, message := "Step '" ++ node.id ++ "': " ++ error.message,
         stepId := some node.id }]
  | missing => missing.map fun field =>
    { code := .missingField,
      message := "Step '" ++ node.id ++ "' (" ++ step.kind.name ++ ") is missing '" ++ field ++ "'",
      stepId := some node.id, field := some field }

/-- Issues with the ids that a step depends on. -/
def dependencyErrors (ids : List String) (step : StepInput) (node : Node) : List Issue :=
  (step.dependsOn.filter (!ids.contains ·)).map fun dependency =>
    { code := .unknownDependency,
      message := "Step '" ++ node.id ++ "' depends on unknown step '" ++ dependency ++ "'",
      stepId := some node.id, field := some "dependsOn" }

/-- Issues with outputs that are reserved. -/
def reservedErrors (nodes : List Node) : List Issue :=
  nodes.filterMap fun node =>
    (node.output.filter isReserved).map fun output =>
      { code := .reservedName,
        message :=
          "Step '" ++ node.id ++ "' cannot write to reserved collection '" ++ output ++ "'",
        stepId := some node.id, field := some "output" }

/-- The issue with a cycle. -/
def cycleErrors (nodes : List Node) : List Issue :=
  match resolveOrder nodes with
  | .ok _ => []
  | .error cycle => [{ code := .cyclicDependency, message := cycle.message }]

/-- Whether a step other than the one with the id `reader` makes a set. -/
def isProduced (nodes : List Node) (source reader : String) : Bool :=
  nodes.any fun node => node.output == some source && node.id != reader

/-- Warnings about sources that no other step makes. -/
def sourceWarnings (nodes : List Node) : List Issue :=
  nodes.flatMap fun node =>
    (node.sources.filter (!isProduced nodes · node.id)).map fun source =>
      { code := .unverifiedSource,
        message := "Step '" ++ node.id ++ "' reads '" ++ source ++
          "', which no step produces; it must exist in the record store",
        stepId := some node.id }

/-- The outputs, each with the ids of the steps that make it. -/
def producers (nodes : List Node) : List (String × List String) :=
  (gather Prod.fst (nodes.filterMap fun node => node.output.map
    fun output => (output, node.id))).map fun (output, made) => (output, made.map Prod.snd)

/-- Warnings about outputs that several steps make, in ascending order. -/
def outputWarnings (nodes : List Node) : List Issue :=
  let repeated := ((producers nodes).filter fun (_, ids) => 1 < ids.length).mergeSort
    fun a b => (Value.compareTexts a.1 b.1).isLE
  repeated.map fun (output, ids) =>
    { code := .duplicateOutput,
      message := "Output '" ++ output ++ "' is written by steps " ++ ", ".intercalate ids }

end Validation

open Validation in
/-- The issues of the definition of a pipeline. -/
def validate (input : PipelineInput) : ValidationResult :=
  let nodes := input.steps.zipIdx.map fun (step, place) => Node.ofInput place step
  let ids := nodes.map Node.id
  { errors :=
      shapeErrors input ++ idErrors nodes [] ++
        ((input.steps.zip nodes).flatMap fun (step, node) =>
          configErrors step node ++ dependencyErrors ids step node) ++
        reservedErrors nodes ++ cycleErrors nodes
    warnings := sourceWarnings nodes ++ outputWarnings nodes }

end RecordFlow
