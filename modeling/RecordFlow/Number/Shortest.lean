import RecordFlow.Number.Dyadic

/-!
# Shortest decimals

The shortest decimal of a positive float is the decimal with the fewest significant digits that
reads back as that float, and of several of that length the one nearest to it. Two decimals may be
equally near; a rule for ties says which of them is taken.

A float reads back from every decimal in the interval of the numbers that round to it. On the grid
of the multiples of a power of ten it is enough to test the two neighbours of the float itself, so
the search goes through the grids from the coarsest to the finest and stops at the first hit.

## Main definitions

* `Decimal` — digits and the place of the first one
* `Tie` — which of two equally near decimals is taken
* `RoundingInterval` — the numbers that round to a float, as numerators over one denominator
* `Dyadic.shortest` — the shortest decimal of a positive fraction that is a float
-/

namespace RecordFlow

/-- The positive decimal `0.d₁d₂…dₙ · 10 ^ point`, with `d₁` not zero. -/
structure Decimal where
  digits : List Char
  point : Int
  deriving Repr, DecidableEq

/-- Which of two neighbouring numbers stands for the one in the middle. -/
inductive Tie where
  | toEven
  | up
  deriving DecidableEq

/-- The numbers that round to a float: from `low` to `high` around `value`, all three over the
denominator `unit`. The ends belong to it when `closed` holds. -/
structure RoundingInterval where
  low : Nat
  value : Nat
  high : Nat
  unit : Nat
  closed : Bool

namespace RoundingInterval

/-- The interval of the float `m · 2 ^ e`: half a step to either side, where the step below the
least significand of full length is half as wide. The ends round to the even significand. -/
def ofDyadic (d : Dyadic) : RoundingInterval :=
  let m := d.significand
  let e := d.exponent - 2
  let below := if m = Nat.pow 2 52 ∧ -1074 < d.exponent then 1 else 2
  let scale := Nat.pow 2 e.toNat
  { low := (4 * m - below) * scale
    value := 4 * m * scale
    high := (4 * m + 2) * scale
    unit := Nat.pow 2 (-e).toNat
    closed := m % 2 == 0 }

/-- Whether `n · 10 ^ k` lies in the interval. -/
def holds (i : RoundingInterval) (n : Nat) (k : Int) : Bool :=
  let x := n * Nat.pow 10 k.toNat * i.unit
  let scale := Nat.pow 10 (-k).toNat
  if i.closed then i.low * scale ≤ x && x ≤ i.high * scale
  else i.low * scale < x && x < i.high * scale

/-- The multiple of `10 ^ k` in the interval that is nearest to the value. -/
def nearest? (i : RoundingInterval) (tie : Tie) (k : Int) : Option Nat :=
  let grid := Nat.pow 10 k.toNat * i.unit
  let value := i.value * Nat.pow 10 (-k).toNat
  let n := value / grid
  let rest := 2 * (value % grid)
  let upFirst := grid < rest ∨ (rest = grid ∧ (tie = .up ∨ n % 2 = 1))
  let (first, second) := if upFirst then (n + 1, n) else (n, n + 1)
  if i.holds first k then some first
  else if i.holds second k then some second
  else none

/-- The least `p` from `start` on, in at most `fuel` steps, with the value below `10 ^ p`. -/
def pointFrom (i : RoundingInterval) : Nat → Int → Int
  | 0, p => p
  | fuel + 1, p =>
    if i.value * Nat.pow 10 (-p).toNat < Nat.pow 10 p.toNat * i.unit then p
      else i.pointFrom fuel (p + 1)

end RoundingInterval

/-- The significant digits of a positive number: those of its decimal text without final zeros. -/
def significantDigits (n : Nat) : List Char :=
  ((Nat.toDigits 10 n).reverse.dropWhile (· == '0')).reverse

/-- A lower bound of the decimal exponent: `2 ^ 10` exceeds `10 ^ 3` by little, so the power of two
times `30103 / 100000`, less two, is below it. -/
def Dyadic.pointLowerBound (d : Dyadic) : Int :=
  ((d.exponent + d.significand.log2) * 30103).fdiv 100000 - 2

/-- The shortest decimal that reads back as the float `m · 2 ^ e`. Seventeen digits always do. -/
def Dyadic.shortest (d : Dyadic) (tie : Tie) : Decimal :=
  let i := RoundingInterval.ofDyadic d
  -- The bound is short of the exponent by a few places at most.
  let point := i.pointFrom 8 d.pointLowerBound
  -- On the grid of `10 ^ (point - n - 1)` decimals have `n + 1` digits;
  -- the coarsest grid comes first.
  let found := (List.range 17).findSome? fun (n : Nat) =>
    (i.nearest? tie (point - n - 1)).map fun digits => (digits, point - n - 1)
  match found with
  | some (n, k) => ⟨significantDigits n, k + (Nat.toDigits 10 n).length⟩
  | none => ⟨['0'], 0⟩

end RecordFlow
