import RecordFlow.Service.Basic
import RecordFlow.Settings.File

/-!
# Failures as they are reported

A failure of the program is reported with the causes that lead to it, the nearest first. Causes are
numbered when there are several.

## Main definitions

* `Failure` — a message with its causes, and `Failure.report`, the text of both
* `DataError.failure`, `StorageError.failure`, `ServiceError.failure`, `SettingsError.failure` — the
  failures of the parts of the engine
-/

namespace RecordFlow

/-- A message with its causes. -/
structure Failure where
  message : String
  causes : List String := []

namespace Failure

/-- A failure in the context of what was attempted. -/
def within (failure : Failure) (context : String) : Failure :=
  ⟨context, failure.message :: failure.causes⟩

/-- The lines of a text behind the first one, indented. -/
def indentLines (indent text : String) : String :=
  ("\n" ++ indent).intercalate (Text.splitAtChar '\n' text)

/-- A number in a column of five. -/
def numberText (n : Nat) : String :=
  let digits := toString n
  String.ofList (List.replicate (5 - digits.length) ' ') ++ digits

/-- The lines of causes. -/
def causeLines : List String → List String
  | [] => []
  | [cause] => ["    " ++ indentLines "    " cause]
  | causes => causes.zipIdx.map fun (cause, n) => numberText n ++ ": " ++
    indentLines "       " cause

/-- The text of a failure. -/
def report (failure : Failure) : String :=
  let head := "Error: " ++ failure.message
  match causeLines failure.causes with
  | [] => head
  | lines => head ++ "\n\nCaused by:\n" ++ "\n".intercalate lines

end Failure

/-- A failure that carries another one. -/
def Failure.carrying (message : String) (inner : Failure) : Failure := inner.within message

/-- A failure of a file system. -/
def IoError.failure (error : IoError) : Failure := ⟨error.message, []⟩

/-- A failure of a table. -/
def CsvError.failure (error : CsvError) : Failure :=
  match error with
  | .io cause => ⟨error.message, [cause.message]⟩
  | .notText _ field validUpTo => ⟨error.message, [CsvError.notTextMessage field validUpTo]⟩
  | .unequalLengths .. => ⟨error.message, []⟩

/-- A failure of a data file. -/
def DataError.failure (error : DataError) : Failure :=
  match error with
  | .io cause => .carrying error.message cause.failure
  | .json cause => ⟨error.message, [cause]⟩
  | .csv cause => .carrying error.message cause.failure
  | _ => ⟨error.message, []⟩

/-- A failure of a store. -/
def StorageError.failure (error : StorageError) : Failure :=
  match error with
  | .data cause => .carrying error.message cause.failure
  | .io cause => .carrying error.message cause.failure
  | .malformed cause => ⟨error.message, [cause]⟩
  | _ => ⟨error.message, []⟩

/-- A failure of a step. -/
def StepError.failure (error : StepError) : Failure :=
  match error with
  | .storage cause => .carrying error.message cause.failure
  | _ => ⟨error.message, []⟩

/-- A failure of the service. -/
def ServiceError.failure (error : ServiceError) : Failure :=
  match error with
  | .step cause => .carrying error.message cause.failure
  | .storage cause => .carrying error.message cause.failure
  | _ => ⟨error.message, []⟩

/-- A failure of settings. -/
def SettingsError.failure (error : SettingsError) : Failure :=
  match error with
  | .io cause => .carrying error.message cause.failure
  | _ => ⟨error.message, []⟩

end RecordFlow
