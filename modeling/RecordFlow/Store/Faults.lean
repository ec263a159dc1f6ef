import RecordFlow.Store.Basic

/-!
# Planned faults

A plan of faults says which operations of a store fail, or cancel what is running, and after how
many of their kind have been let through.

## Main definitions

* `Fault` — a planned fault
* `Verdict` — what the plan does to an operation
* `Fault.judge` — the verdict on an operation, and the plan behind it
-/

namespace RecordFlow

/-- A planned fault. Without a message it does not refuse the operation
but cancels what is running. -/
structure Fault where
  call : StoreCall
  message : Option String
  skip : Nat

/-- What a plan does to an operation. -/
structure Verdict where
  cancels : Bool := false
  refusal : Option String := none

/-- The verdict on an operation, and the plan behind it. A refusal ends
the search through the plan. -/
def Fault.judge (call : StoreCall) : List Fault → Verdict × List Fault
  | [] => ({}, [])
  | fault :: faults =>
    if fault.call ≠ call then
      let (verdict, rest) := judge call faults
      (verdict, fault :: rest)
    else match fault.skip, fault.message with
      | skip + 1, _ =>
        let (verdict, rest) := judge call faults
        (verdict, { fault with skip } :: rest)
      | 0, some message => ({ refusal := some message }, fault :: faults)
      | 0, none =>
        let (verdict, rest) := judge call faults
        ({ verdict with cancels := true }, fault :: rest)

end RecordFlow
