import RecordFlow.Number.Dyadic
import RecordFlow.Text.Digits

/-!
# Numbers read from text

Integers and floats in the free-standing notation of a cell or of a text that is used as a number.
A float is the one nearest to the decimal, whatever its length.

## Main definitions

* `readInt64?` — an optional sign and digits, in the range of 64-bit integers
* `readSize?` — an optional `+` and digits, below `2 ^ 64`
* `readFloat?` — a decimal with optional point and exponent, or the name of an infinity or of NaN
-/

namespace RecordFlow

/-- The value of a text that is digits and nothing else, and at least one. -/
def readDigits? (cs : List Char) : Option Nat :=
  if cs.isEmpty || !cs.all Char.isDigit then none else some (Text.digitsValue cs)

/-- Splits a sign off; `true` for a minus. -/
def splitSign : List Char → Bool × List Char
  | '-' :: cs => (true, cs)
  | '+' :: cs => (false, cs)
  | cs => (false, cs)

/-- An integer in the range of 64-bit integers. -/
def readInt64? (text : String) : Option Int64 :=
  let (negative, digits) := splitSign text.toList
  (readDigits? digits).bind fun n =>
    let i : Int := if negative then -n else n
    if -(Nat.pow 2 63) ≤ i ∧ i < Nat.pow 2 63 then some (Int64.ofInt i) else none

/-- A size: an integer below `2 ^ 64`. -/
def readSize? (text : String) : Option Nat :=
  let digits := match text.toList with
    | '+' :: cs => cs
    | cs => cs
  (readDigits? digits).bind fun n => if n < Nat.pow 2 64 then some n else none

/-- The float nearest to `significand · 10 ^ exponent`. Far outside the range of floats the answer
is known without computing the power. -/
def nearestFloat (significand : Nat) (exponent : Int) : Float :=
  let magnitude : Int := (Nat.toDigits 10 significand).length + exponent
  if significand = 0 || magnitude < -400 then 0.0
  else if 400 < magnitude then 1.0 / 0.0
  else Float.ofScientific significand (exponent < 0) exponent.natAbs

/-- An exponent part, or nothing, up to the end of the text. -/
def readExponent? : List Char → Option Int
  | [] => some 0
  | c :: cs =>
    if c == 'e' || c == 'E' then
      let (negative, digits) := splitSign cs
      (readDigits? digits).map fun n => if negative then -(n : Int) else n
    else none

/-- The magnitude of a float: digits with at most one point, at least one digit, then an optional
exponent. -/
def readMagnitude? (cs : List Char) : Option Float :=
  let whole := cs.takeWhile Char.isDigit
  let rest := cs.dropWhile Char.isDigit
  let (fraction, rest) := match rest with
    | '.' :: tail => (tail.takeWhile Char.isDigit, tail.dropWhile Char.isDigit)
    | _ => ([], rest)
  if whole.isEmpty && fraction.isEmpty then none
  else (readExponent? rest).map fun e =>
    nearestFloat (Text.digitsValue (whole ++ fraction)) (e - fraction.length)

/-- A float in free-standing notation: `5`, `.5`, `5.`, `1e5`, `-inf`, `Infinity`, `NaN`. -/
def readFloat? (text : String) : Option Float :=
  let (negative, cs) := splitSign text.toList
  let name := String.ofList (cs.map Char.toLower)
  let magnitude :=
    if name == "inf" || name == "infinity" then some (1.0 / 0.0)
    else if name == "nan" then some (0.0 / 0.0)
    else readMagnitude? cs
  magnitude.map fun f => if negative then -f else f

end RecordFlow
