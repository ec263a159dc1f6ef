import Mathlib.Data.List.Basic
import RecordFlow.Step.Process

/-!
# Steps that do not ask for the time

Of all that a step may do, only the date expression of the present time asks the clock. A step in
whose expressions it does not occur makes the same at all times.

## Main definitions

* `Expression.asksTime`, `StepConfig.asksTime` — the present time
  occurs in an expression or in a step

## Main results

* `Expression.evaluate_eq_of_not_asksTime` — without it an expression
  has the same value at all times
* `StepConfig.process_eq_of_not_asksTime` — and a step makes the same
-/

namespace RecordFlow

namespace Expression

mutual

/-- The present time occurs in an expression. -/
def asksTime : Expression → Bool
  | concat values _ => anyAsksTime values
  | math _ left right => asksTime left || optionAsksTime right
  | coalesce values => anyAsksTime values
  | conditional _ positive negative => asksTime positive || optionAsksTime negative
  | date .now => true
  | _ => false

/-- The present time occurs in one of several expressions. -/
def anyAsksTime : List Expression → Bool
  | [] => false
  | e :: es => asksTime e || anyAsksTime es

/-- The present time occurs in an expression that may be lacking. -/
def optionAsksTime : Option Expression → Bool
  | none => false
  | some e => asksTime e

end

variable (now now' : Timestamp) (record : Record)

mutual

/-- **The same value at all times.** The cases are those of `evaluate`. -/
theorem evaluate_eq_of_not_asksTime :
    ∀ e : Expression, e.asksTime = false → e.evaluate now record = e.evaluate now' record
  | concat values _, never => by
    rw [evaluate, evaluate, evaluateAll_eq_of_not_asksTime values never]
  | math _ left right, never => by
    obtain ⟨first, second⟩ := Bool.or_eq_false_iff.mp never
    rw [evaluate, evaluate, evaluate_eq_of_not_asksTime left first,
      evaluateOption_eq_of_not_asksTime right second]
  | coalesce values, never => by
    rw [evaluate, evaluate, evaluateAll_eq_of_not_asksTime values never]
  | conditional _ positive negative, never => by
    obtain ⟨first, second⟩ := Bool.or_eq_false_iff.mp never
    rw [evaluate, evaluate, evaluate_eq_of_not_asksTime positive first,
      evaluateOption_eq_of_not_asksTime negative second]
  | date op, never => by
    cases op with
    | now => cases never
    | _ => rfl
  | field _, _ | literal _, _ | template _, _ | list _ _, _ | text _ _, _ => rfl

theorem evaluateAll_eq_of_not_asksTime : ∀ es : List Expression,
    anyAsksTime es = false → evaluateAll now record es = evaluateAll now' record es
  | [], _ => rfl
  | e :: es, never => by
    obtain ⟨first, others⟩ := Bool.or_eq_false_iff.mp never
    rw [evaluateAll, evaluateAll, evaluate_eq_of_not_asksTime e first,
      evaluateAll_eq_of_not_asksTime es others]

theorem evaluateOption_eq_of_not_asksTime : ∀ e : Option Expression,
    optionAsksTime e = false → evaluateOption now record e = evaluateOption now' record e
  | none, _ => rfl
  | some e, never => evaluate_eq_of_not_asksTime e never

end

end Expression

/-- A mapping of fields that does not ask for the time makes the same at all times. -/
theorem MapConfig.row_eq_of_not_asksTime {config : MapConfig}
    (never : ∀ mapping ∈ config.mappings, mapping.2.asksTime = false) (now now' : Timestamp) :
    config.row now = config.row now' := by
  funext record
  refine List.foldl_ext _ _ _ fun row mapping hmem => ?_
  have same := mapping.2.evaluate_eq_of_not_asksTime now now' record (never mapping hmem)
  simp only [same]

namespace StepConfig

/-- The present time occurs in what a step computes. -/
def asksTime : StepConfig → Bool
  | map config => config.mappings.any (·.2.asksTime)
  | _ => false

/-- A step that does not ask for the time makes the same at all times. -/
theorem process_eq_of_not_asksTime {config : StepConfig} (never : config.asksTime = false)
    (now now' : Timestamp) : config.process now = config.process now' := by
  cases config with
  | map config =>
    have rows : config.rows now = config.rows now' := by
      have row := MapConfig.row_eq_of_not_asksTime (by simpa [asksTime] using never) now now'
      funext records
      rw [MapConfig.rows, MapConfig.rows, row]
    funext inputs
    rw [process, process, rows]
  | _ => rfl

end StepConfig

end RecordFlow
