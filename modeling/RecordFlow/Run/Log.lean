import RecordFlow.Text.Case

/-!
# Messages

What the engine reports while it works: how grave a message is, which part of the engine reports it,
and its text.

## Main definitions

* `LogLevel` — how grave a message is
* `LogSource` — who reports it
* `LogEntry` — a message
-/

namespace RecordFlow

/-- How grave a message is. -/
inductive LogLevel where
  | error
  | warn
  | info
  | debug
  | trace
  deriving DecidableEq

namespace LogLevel

/-- The name of a level. -/
def name : LogLevel → String
  | error => "ERROR"
  | warn => "WARN"
  | info => "INFO"
  | debug => "DEBUG"
  | trace => "TRACE"

/-- The rank of a level; the gravest has the least. -/
def rank : LogLevel → Nat
  | error => 1
  | warn => 2
  | info => 3
  | debug => 4
  | trace => 5

/-- The levels that a setting names: messages up to one of them are logged. A name that is none
stands for `info`, and nothing is logged for `off`. -/
def ofSetting (setting : String) : Option LogLevel :=
  match Text.toLowerText setting with
  | "off" => none
  | "error" => some error
  | "warn" => some warn
  | "debug" => some debug
  | "trace" => some trace
  | _ => some info

/-- Whether messages of a level are logged up to a limit. -/
def passes (level : LogLevel) (limit : Option LogLevel) : Bool :=
  match limit with
  | some limit => level.rank ≤ limit.rank
  | none => false

end LogLevel

/-- Who reports a message. -/
inductive LogSource where
  | program
  | service
  | execution
  deriving DecidableEq

/-- A message. -/
structure LogEntry where
  level : LogLevel
  source : LogSource
  text : String
  deriving DecidableEq

end RecordFlow
