import RecordFlow.Calendar.Timestamp
import RecordFlow.Run.Log
import RecordFlow.Step.Process
import RecordFlow.Store.Memory

/-!
# What the engine works with

A host gives the engine a store, a clock, fresh ids and a place for its messages. A run keeps the
sets that its steps have made. A step reads a set that was made in the run, and what is stored
under a name that no step has made.

## Main definitions

* `Host` — what the engine works with
* `resolveSource` — the set of a name
* `executeConfig` — a step on its inputs
-/

namespace RecordFlow

/-- What the engine works with. -/
structure Host (m : Type → Type) where
  store : RecordStore m
  now : m Timestamp
  freshId : m String
  log : LogEntry → m Unit

section

variable {m : Type → Type} [Monad m]

/-- The set of a name: one that was made, or else a stored collection. -/
def resolveSource (store : RecordStore m) (made : Collections) (name : String) :
    ExceptT StepError m (List Record) :=
  match made.records? name with
  | some records => return records
  | none => do
    let found ← (store.has name).adapt StepError.storage
    if found then (store.findAll name).adapt StepError.storage else throw (.unresolvedSource name)

/-- The sets of several names. -/
def resolveSources (store : RecordStore m) (made : Collections) :
    List String → ExceptT StepError m (List (List Record))
  | [] => return []
  | name :: names => do
    let records ← resolveSource store made name
    let others ← resolveSources store made names
    return records :: others

/-- Runs a configuration on the sets that it names. The clock is read once, behind the sets:
whatever the step computes from the present time, it computes from this one reading, which so stands
for all moments between the start and the end of its processing. -/
def executeConfig (host : Host m) (made : Collections) (config : StepConfig) :
    ExceptT StepError m StepOutput := do
  let inputs ← resolveSources host.store made config.sources
  let now ← host.now
  ExceptT.mk (pure (config.process now inputs))

end

end RecordFlow
