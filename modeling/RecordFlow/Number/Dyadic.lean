/-!
# Floats as dyadic fractions

A finite float is a fraction `± significand · 2 ^ exponent`, and whatever has to be exact about it
(its integer part, the rounding to an integer, the remainder of a division, its decimal digits) is
arithmetic on that fraction. This module holds the fraction and the integer operations on it.

## Main definitions

* `Dyadic` — a signed dyadic fraction, with the sign of a zero kept
* `Dyadic.ofFloat?` — the fraction of a finite float, `none` for an infinity and for NaN
* `Dyadic.toFloat` — the nearest float, ties to even
* `floatOfInt` — the float nearest to an integer
* `Dyadic.truncate`, `Dyadic.floor`, `Dyadic.ceil`, `Dyadic.round` —
  the four roundings to an integer
* `remainder` — the remainder of truncated float division
-/

namespace RecordFlow

/-- A dyadic fraction `± significand · 2 ^ exponent`; a zero keeps its sign. -/
structure Dyadic where
  negative : Bool
  significand : Nat
  exponent : Int
  deriving Repr, DecidableEq

namespace Dyadic

/-- The fraction a float stands for; `none` for an infinity and for NaN. -/
def ofFloat? (f : Float) : Option Dyadic :=
  match f.toModel.unpack with
  | .finite s m e _ => some ⟨s == .negative, m, e⟩
  | .zero s => some ⟨s == .negative, 0, 0⟩
  | _ => none

/-- The float nearest to a fraction, the even one of two; an infinity beyond the largest. -/
def toFloat (d : Dyadic) : Float :=
  let sign : Float.Model.UnpackedFloat.Sign := if d.negative then .negative else .positive
  if d.significand = 0 then .ofModel (.pack (.zero sign))
  else .ofModel (.pack (.round .binary64 sign d.significand d.exponent))

/-- Puts the sign of `d` on a magnitude. -/
def signed (d : Dyadic) (magnitude : Nat) : Int :=
  if d.negative then -(magnitude : Int) else magnitude

/-- The integer part of the magnitude. -/
def wholePart (d : Dyadic) : Nat :=
  if 0 ≤ d.exponent then d.significand * Nat.pow 2 d.exponent.toNat
  else d.significand / Nat.pow 2 (-d.exponent).toNat

/-- What the magnitude has beyond its integer part, over `2 ^ (-exponent)`. -/
def fractionPart (d : Dyadic) : Nat :=
  if 0 ≤ d.exponent then 0 else d.significand % Nat.pow 2 (-d.exponent).toNat

/-- Whether the fraction is an integer. -/
def isWhole (d : Dyadic) : Bool := d.fractionPart == 0

/-- Rounds toward zero. -/
def truncate (d : Dyadic) : Int := d.signed d.wholePart

/-- Rounds toward minus infinity. -/
def floor (d : Dyadic) : Int :=
  d.signed (if d.negative && !d.isWhole then d.wholePart + 1 else d.wholePart)

/-- Rounds toward plus infinity. -/
def ceil (d : Dyadic) : Int :=
  d.signed (if d.negative || d.isWhole then d.wholePart else d.wholePart + 1)

/-- Rounds to the nearest integer, a half away from zero. -/
def round (d : Dyadic) : Int :=
  d.signed (if Nat.pow 2 (-d.exponent).toNat ≤
    2 * d.fractionPart then d.wholePart + 1 else d.wholePart)

/-- The magnitude as a multiple of `2 ^ e`, for an `e` not above the exponent. -/
def scaledTo (d : Dyadic) (e : Int) : Nat := d.significand * Nat.pow 2 (d.exponent - e).toNat

end Dyadic

/-- The float nearest to an integer, the even one of two. -/
def floatOfInt (i : Int) : Float := .ofModel (.ofInt i)

/-- The integer a float holds exactly, when it lies in the range of 64-bit integers. -/
def exactInt64? (f : Float) : Option Int64 :=
  match Dyadic.ofFloat? f with
  | some d =>
    let i := d.truncate
    if d.isWhole ∧ -(Nat.pow 2 63) ≤ i ∧ i < Nat.pow 2 63 then some (Int64.ofInt i) else none
  | none => none

/-- The remainder of `x` divided by `y` with the quotient truncated toward zero. It has the sign of
`x`, and it is exact: no rounding takes place. Dividing by an infinity leaves `x`; a zero divisor,
an infinite dividend and NaN have no remainder, which is NaN. -/
def remainder (x y : Float) : Float :=
  match Dyadic.ofFloat? x, Dyadic.ofFloat? y with
  | some a, some b =>
    if b.significand = 0 then 0.0 / 0.0
    else
      -- Over a common power of two the division is one of integers.
      let e := min a.exponent b.exponent
      Dyadic.toFloat ⟨a.negative, a.scaledTo e % b.scaledTo e, e⟩
  | some _, none => if y.isNaN then y else x
  | none, _ => 0.0 / 0.0

end RecordFlow
