import RecordFlow.Number.Shortest

/-!
# Text of a float

A float is written in one of two ways. On its own, as text, it is *plain*: its shortest decimal
without an exponent, and no point after a whole number. Inside a JSON document it is *scientific*:
the same digits, always with a point or an exponent, and with an exponent where the plain form would
be long. Both are a shortest decimal, laid out by different rules; they differ in the digits only
where two shortest decimals are equally near.

## Main definitions

* `Decimal.positional` — digits with the point at its place and no exponent
* `plainText` — a float on its own; also the three values that are not finite
* `scientificText?` — a float inside a document, which holds finite floats only
-/

namespace RecordFlow

namespace Decimal

/-- The digits before the point: `0` when there are none. -/
def wholeDigits (d : Decimal) : List Char :=
  if d.point ≤ 0 then ['0']
  else d.digits.take d.point.toNat ++ List.replicate (d.point.toNat - d.digits.length) '0'

/-- The digits after the point. -/
def fractionDigits (d : Decimal) : List Char :=
  List.replicate (-d.point).toNat '0' ++ d.digits.drop d.point.toNat

/-- The decimal without an exponent. `wholeSuffix` follows a number that has no fraction. -/
def positional (d : Decimal) (wholeSuffix : String) : String :=
  match d.fractionDigits with
  | [] => String.ofList d.wholeDigits ++ wholeSuffix
  | digits => String.ofList (d.wholeDigits ++ '.' :: digits)

/-- The exponent of the form with one digit before the point. -/
def exponent (d : Decimal) : Int := d.point - 1

/-- The decimal as `d.ddde±n`. -/
def withExponent (d : Decimal) : String :=
  let mantissa := match d.digits with
    | [] => []
    | [digit] => [digit]
    | digit :: digits => digit :: '.' :: digits
  let sign := if d.exponent < 0 then "e-" else "e+"
  String.ofList mantissa ++ sign ++ toString d.exponent.natAbs

end Decimal

/-- A finite float by the given layout of its magnitude; `zero` is the text of a zero. -/
def Dyadic.text (d : Dyadic) (zero : String) (tie : Tie) (layout : Decimal → String) : String :=
  let magnitude := if d.significand = 0 then zero else layout (d.shortest tie)
  if d.negative then "-" ++ magnitude else magnitude

/-- A float on its own, with ties away from zero: `1`, `-0`, `0.1`,
`100000000000000000000`, `inf`, `NaN`. -/
def plainText (f : Float) : String :=
  match Dyadic.ofFloat? f with
  | some d => d.text "0" .up (·.positional "")
  | none => if f.isNaN then "NaN" else if f < 0 then "-inf" else "inf"

/-- A float inside a document: positional from `1e-5` up to below `1e16`, with an
exponent elsewhere, with ties to the even digit, and always told apart from an integer.
An infinity and NaN have no such text. -/
def scientificText? (f : Float) : Option String :=
  (Dyadic.ofFloat? f).map fun d =>
    d.text "0.0" .toEven fun decimal =>
      if -5 ≤ decimal.exponent ∧ decimal.exponent < 16 then decimal.positional ".0"
      else decimal.withExponent

end RecordFlow
