import RecordFlow.Number.Reading
import RecordFlow.Json.Fault

/-!
# Numbers in documents

A number without fraction and exponent is an integer, up to the range of 64 bits. Every other number
is a float, read as follows: as many leading digits as fit 64 bits make the significand, which is
turned into the nearest float and then multiplied or divided by one power of ten, rounding again.
For short decimals that is the nearest float; for long ones it may be its neighbour.

## Main definitions

* `Json.Number` — an integer or a float
* `Json.scaleByTen?` — a float times a power of ten; none when that is too large
* `Json.Cursor` — what is left of a text, with the number of bytes before it
* `Json.readNumber` — a number at the start of what is left
-/

namespace RecordFlow.Json

/-- A number of a document. -/
inductive Number where
  | int (i : Int)
  | float (f : Float)

/-- The part of a text that is left, and how many bytes stand before it. -/
structure Cursor where
  rest : List Char
  offset : Nat

namespace Cursor

/-- A fault at the place of the cursor. -/
def fault (c : Cursor) (error : SyntaxError) : Fault := { error, offset := c.offset }

/-- A fault found in the next byte, which is not taken; at the end of the text there is none.
`stray` tells that what follows the text is not text. -/
def faultAhead (c : Cursor) (stray : Bool) (error : SyntaxError) : Fault :=
  { error, offset := if c.rest.isEmpty && !stray then c.offset else c.offset + 1 }

/-- The cursor after one character of one byte. -/
def skipOne (c : Cursor) : Cursor := ⟨c.rest.drop 1, c.offset + 1⟩

end Cursor

/-- The float next to `10 ^ k`. -/
def powerOfTen (k : Nat) : Float := Float.ofScientific 1 false k

/-- A float times `10 ^ e`, by one multiplication or division where the power is a float. A larger
number is out of range; a smaller one is divided by `10 ^ 308` until the power is a float, or until
nothing is left, which takes three divisions at most. -/
def scaleByTen? (f : Float) (e : Int) (divisions : Nat := 3) : Option Float :=
  if e.natAbs ≤ 308 then
    if e < 0 then some (f / powerOfTen e.natAbs)
    else
      let product := f * powerOfTen e.natAbs
      if product.isInf then none else some product
  else if f == 0 then some f
  else if 0 ≤ e then none
  else match divisions with
    | 0 => some 0
    | n + 1 => scaleByTen? (f / powerOfTen 308) (e + 308) n

/-- Appends digits to a number as long as it stays below `2 ^ 64`; returns how many were taken. -/
def appendDigits (n : Nat) : List Char → Nat × Nat
  | [] => (n, 0)
  | c :: cs =>
    let next := n * 10 + Text.decimalValue c
    if next < Nat.pow 2 64 then
      let (m, taken) := appendDigits next cs
      (m, taken + 1)
    else (n, 0)

/-- The float `± n · 10 ^ e` at a cursor that stands behind the number. -/
def floatAt (stray negative : Bool) (n : Nat) (e : Int) (c : Cursor) :
    Except Fault (Number × Cursor) :=
  match scaleByTen? (floatOfInt n) e with
  | some f => .ok (.float (if negative then -f else f), c)
  | none =>
    .error { error := .numberOutOfRange, offset := c.offset
             lookedAhead := !c.rest.isEmpty || stray }

/-- How many digits of an exponent are read before it exceeds 31 bits. -/
def exponentLimit (n : Nat) : List Char → Option Nat
  | [] => none
  | c :: cs =>
    let next := n * 10 + Text.decimalValue c
    if next < Nat.pow 2 31 then (exponentLimit next cs).map (· + 1) else some 1

/-- The rest of a number after the letter of its exponent. -/
def readExponentAt (stray negative : Bool) (n : Nat) (e : Int) (c : Cursor) :
    Except Fault (Number × Cursor) :=
  let (minus, c) := match c.rest with
    | '-' :: _ => (true, c.skipOne)
    | '+' :: _ => (false, c.skipOne)
    | _ => (false, c)
  let digits := c.rest.takeWhile Char.isDigit
  if digits.isEmpty then
    if c.rest.isEmpty && !stray then .error (c.fault .endInValue)
    else .error (c.skipOne.fault .invalidNumber)
  else
    let behind : Cursor := ⟨c.rest.drop digits.length, c.offset + digits.length⟩
    match exponentLimit 0 digits with
    | some taken =>
      -- With an exponent of more than 31 bits there is no float but zero.
      if n ≠ 0 ∧ !minus then .error { error := .numberOutOfRange, offset := c.offset + taken }
      else .ok (.float (if negative then -0.0 else 0.0), behind)
    | none =>
      let power : Int := Text.digitsValue digits
      floatAt stray negative n (if minus then e - power else e + power) behind

/-- The rest of a number after its digits before and behind the point. -/
def readTail (stray negative : Bool) (n : Nat) (e : Int) (c : Cursor) :
    Except Fault (Number × Cursor) :=
  match c.rest with
  | 'e' :: _ => readExponentAt stray negative n e c.skipOne
  | 'E' :: _ => readExponentAt stray negative n e c.skipOne
  | _ => floatAt stray negative n e c

/-- A number at the start of what is left, behind its minus sign if it has one. -/
def readNumber (stray negative : Bool) (c : Cursor) : Except Fault (Number × Cursor) :=
  let whole := c.rest.takeWhile Char.isDigit
  match whole with
  | [] =>
    if c.rest.isEmpty && !stray then .error (c.fault .endInValue)
    else .error (c.skipOne.fault .invalidNumber)
  -- A number does not begin with a zero that does not count.
  | '0' :: _ :: _ => .error { error := .invalidNumber, offset := c.offset + 2 }
  | digits =>
    let behind : Cursor := ⟨c.rest.drop digits.length, c.offset + digits.length⟩
    let (n, taken) := appendDigits 0 digits
    let dropped := digits.length - taken
    match behind.rest with
    | '.' :: _ =>
      let c := behind.skipOne
      let fraction := c.rest.takeWhile Char.isDigit
      if fraction.isEmpty then
        .error (c.faultAhead stray
          (if c.rest.isEmpty && !stray then .endInValue else .invalidNumber))
      else
        -- A digit before the point that was dropped is worth a ten, and one used behind it a tenth.
        let (m, used) := appendDigits n fraction
        readTail stray negative m (dropped - used)
          ⟨c.rest.drop fraction.length, c.offset + fraction.length⟩
    | 'e' :: _ => readTail stray negative n dropped behind
    | 'E' :: _ => readTail stray negative n dropped behind
    | _ =>
      if dropped ≠ 0 then floatAt stray negative n dropped behind
      else if !negative then .ok (.int n, behind)
      -- There is no integer for a negative zero and none below -2 ^ 63.
      else if n = 0 ∨ Nat.pow 2 63 < n then .ok (.float (-(floatOfInt n)), behind)
      else .ok (.int (-n), behind)

end RecordFlow.Json
