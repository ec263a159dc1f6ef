import RecordFlow.Step.Aggregation
import RecordFlow.Step.Document
import RecordFlow.Step.Joining
import RecordFlow.Step.Reshaping
import RecordFlow.Store.Error

/-!
# Running a step

A step takes the sets that it reads and makes its own.

## Main definitions

* `StepError` — why a step fails
* `StepOutput` — what a step makes
* `StepConfig.process` — the step itself
-/

namespace RecordFlow

/-- Why a step fails. -/
inductive StepError where
  | invalidConfig (kind : StepKind) (error : DecodeError)
  | unresolvedSource (name : String)
  | inputCount (kind : StepKind) (expected found : Nat)
  | nothingToUnite
  | noJoinFields
  | reservedName (name : String)
  | storage (error : StorageError)

namespace StepError

/-- A number of inputs. -/
def inputsText (n : Nat) : String := toString n ++ (if n = 1 then " input" else " inputs")

/-- The text of a failure. -/
def message : StepError → String
  | invalidConfig kind error => "Invalid config: " ++ kind.name ++ " step: " ++ error.message
  | unresolvedSource name =>
    "Unresolved source '" ++ name ++ "': no earlier step output or stored collection has this name"
  | inputCount kind expected found =>
    "Invalid argument: " ++ kind.name ++ " step expects " ++ inputsText expected ++
      ", got " ++ toString found
  | nothingToUnite => "Invalid argument: union requires at least one source"
  | noJoinFields => "Invalid argument: join requires at least one 'on' field pair"
  | reservedName name => "Invalid argument: '" ++ name ++ "' is reserved for pipeline storage"
  | storage error => "Storage error: " ++ error.message

end StepError

/-- What a step makes, and the number of records that it has read. -/
structure StepOutput where
  records : List Record
  inputRows : Nat

namespace StepConfig

/-- Runs a step that reads one set. -/
def onOne (kind : StepKind) (rows : List Record → List Record) (inputs : List (List Record)) :
    Except StepError StepOutput :=
  match inputs with
  | [input] => .ok ⟨rows input, input.length⟩
  | _ => .error (.inputCount kind 1 inputs.length)

/-- Runs a step on the sets that it reads. -/
def process (now : Timestamp) (inputs : List (List Record)) : StepConfig →
    Except StepError StepOutput
  | filter c => onOne .filter (fun input => input.filter (holdsAll c.conditions c.logic)) inputs
  | map c => onOne .map (c.rows now) inputs
  | aggregate c => onOne .aggregate c.rows inputs
  | deduplicate c => onOne .deduplicate c.rows inputs
  | sort c => onOne .sort (sortRecords c.orderBy) inputs
  | limit c => onOne .limit (fun input => (input.drop c.offset).take c.limit) inputs
  | pivot c => onOne .pivot c.rows inputs
  | unpivot c => onOne .unpivot c.rows inputs
  | flatten c => onOne .flatten c.rows inputs
  | union c =>
    match inputs with
    | [] => .error .nothingToUnite
    | sets => .ok ⟨c.rows sets, (sets.map List.length).foldr (· + ·) 0⟩
  | join c =>
    match inputs with
    | [left, right] =>
      if c.on.isEmpty then .error .noJoinFields
        else .ok ⟨c.rows left right, left.length + right.length⟩
    | _ => .error (.inputCount .join 2 inputs.length)
  | lookup c =>
    match inputs with
    | [source, reference] => .ok ⟨c.rows source reference, source.length⟩
    | _ => .error (.inputCount .lookup 2 inputs.length)

/-- The configuration of a kind of step in a document; what is none makes the step fail. -/
def parse (kind : StepKind) (json : Json) : Except StepError StepConfig :=
  (read kind json).mapError fun rejection => .invalidConfig kind rejection.error

end StepConfig

end RecordFlow
