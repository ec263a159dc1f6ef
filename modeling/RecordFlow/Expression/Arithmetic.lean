import RecordFlow.Number.Reading
import RecordFlow.Value.Basic
import RecordFlow.Text.Blank

/-!
# Arithmetic on values

Integer arithmetic is exact as long as the result is a 64-bit integer, and goes over to floats when
it is not. There are no errors: what has no numeric result is null.

## Main definitions

* `MathOp` — the operators
* `Operand`, `Operand.ofValue?` — operands; a text that reads as a number is one
* `MathOp.apply` — the value of an operator on its operands
-/

namespace RecordFlow

/-- An operator; the last four take one operand. -/
inductive MathOp where
  | add
  | subtract
  | multiply
  | divide
  | modulo
  | round
  | floor
  | ceil
  | abs
  deriving DecidableEq

/-- An operand. -/
inductive Operand where
  | int (i : Int64)
  | float (f : Float)

namespace Operand

/-- The number that a value is or, for a text, reads as. -/
def ofValue? : Value → Option Operand
  | .int i => some (int i)
  | .float f => some (float f)
  | .text s =>
    let s := Text.trim s
    ((readInt64? s).map int).orElse fun _ => (readFloat? s).map float
  | _ => none

/-- The operand as a float. -/
def toFloat : Operand → Float
  | int i => floatOfInt i.toInt
  | float f => f

end Operand

namespace MathOp

/-- Whether an operator takes one operand. -/
def isUnary : MathOp → Bool
  | round | floor | ceil | abs => true
  | add | subtract | multiply | divide | modulo => false

/-- A float as a value; what is not finite is null. -/
def floatValue (f : Float) : Value := if f.isFinite then .float f else .null

/-- An integer in the range of 64-bit integers. -/
def int64? (i : Int) : Option Int64 :=
  if -(Nat.pow 2 63) ≤ i ∧ i < Nat.pow 2 63 then some (Int64.ofInt i) else none

/-- The value of a float that was rounded to the integer `i`: the integer where it is below `2 ^ 63`
in magnitude, and a float beyond. -/
def roundedValue (f : Float) (rounding : Dyadic → Int) : Value :=
  match Dyadic.ofFloat? f with
  | some d => if (rounding d).natAbs <
    Nat.pow 2 63 then .int (Int64.ofInt (rounding d)) else .float f
  | none => .null

/-- The value of an operator on one operand. Rounding leaves an integer as it is, and the smallest
integer has no absolute value. -/
def applyUnary (op : MathOp) (a : Operand) : Value :=
  match op, a with
  | abs, .int i => ((int64? i.toInt.natAbs).map Value.int).getD .null
  | abs, .float f => floatValue f.abs
  | _, .int i => .int i
  | round, .float f => roundedValue f Dyadic.round
  | floor, .float f => roundedValue f Dyadic.floor
  | _, .float f => roundedValue f Dyadic.ceil

/-- The value of an operator on floats. -/
def applyFloats (op : MathOp) (x y : Float) : Value :=
  match op with
  | add => floatValue (x + y)
  | subtract => floatValue (x - y)
  | multiply => floatValue (x * y)
  | divide => if y == 0.0 then .null else floatValue (x / y)
  | modulo => if y == 0.0 then .null else floatValue (remainder x y)
  | _ => .null

/-- The exact result of an operator on integers, if it is a 64-bit integer. The smallest integer has
neither a quotient nor a remainder by minus one. -/
def exactResult? (op : MathOp) (x y : Int) : Option Int64 :=
  match op with
  | add => int64? (x + y)
  | subtract => int64? (x - y)
  | multiply => int64? (x * y)
  | divide => if x.tmod y = 0 then int64? (x.tdiv y) else none
  -- The remainder by minus one is zero, but it is not taken where the quotient is out of range.
  | modulo => (int64? (x.tdiv y)).bind fun _ => int64? (x.tmod y)
  | _ => none

/-- The value of an operator on integers. -/
def applyInts (op : MathOp) (x y : Int64) : Value :=
  if y = 0 ∧ (op = divide ∨ op = modulo) then .null
  else match exactResult? op x.toInt y.toInt with
    | some i => .int i
    | none => applyFloats op (floatOfInt x.toInt) (floatOfInt y.toInt)

/-- The value of an operator on two operands. -/
def applyBinary (op : MathOp) (a b : Operand) : Value :=
  match a, b with
  | .int x, .int y => applyInts op x y
  | _, _ => applyFloats op a.toFloat b.toFloat

/-- The value of an operator on its operands, each of which may be lacking. -/
def apply (op : MathOp) (left right : Option Value) : Value :=
  match left.bind Operand.ofValue? with
  | none => .null
  | some a =>
    if op.isUnary then op.applyUnary a
    else match right.bind Operand.ofValue? with
      | some b => op.applyBinary a b
      | none => .null

end MathOp

end RecordFlow
