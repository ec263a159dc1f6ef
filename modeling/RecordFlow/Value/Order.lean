import RecordFlow.Value.Basic
import RecordFlow.Text.Split

/-!
# Order and membership

Two orders of values. Comparison operators use the partial order: numbers among numbers and texts
among texts, and nothing else. Sorting uses the total preorder, which ranks values by kind first.

## Main definitions

* `Value.compare?` — the partial order of the comparison operators
* `Value.order` — the total preorder of sorting
* `Value.hasPart`, `Value.isAmong`, `Value.startsWith`, `Value.endsWith` — containment
-/

namespace RecordFlow.Value

/-- The order of two floats, none for NaN. -/
def compareFloats? (a b : Float) : Option Ordering :=
  if a < b then some .lt else if a == b then some .eq else if b < a then some .gt else none

/-- The order of two texts by code points. -/
def compareTexts (a b : String) : Ordering :=
  if a < b then .lt else if a = b then .eq else .gt

/-- The order of two booleans, false first. -/
def compareBools : Bool → Bool → Ordering
  | false, true => .lt
  | true, false => .gt
  | _, _ => .eq

/-- The partial order of the comparison operators: integers as integers, texts by code points, an
integer and a float as floats. Other pairs, and NaN, have no order. -/
def compare? : Value → Value → Option Ordering
  | .int a, .int b => some (compare a.toInt b.toInt)
  | .text a, .text b => some (compareTexts a b)
  | a, b => match a.asFloat?, b.asFloat? with
    | some x, some y => compareFloats? x y
    | _, _ => none

/-- The rank of a value's kind: null, booleans, numbers, texts, lists, objects. -/
def rank : Value → Nat
  | .null => 0
  | .bool _ => 1
  | .int _ => 2
  | .float _ => 2
  | .text _ => 3
  | .list _ => 4
  | .object _ => 5

mutual

/-- The preorder of sorting: by rank, and within a rank by `compare?`, with pairs that have no order
taken as equal. Lists are compared item by item and then by length; all objects are equal. -/
def order : Value → Value → Ordering
  | .bool a, .bool b => compareBools a b
  | .list xs, .list ys => orderItems xs ys
  | a, b =>
    if a.rank = b.rank then (a.compare? b).getD .eq else compare a.rank b.rank

/-- The order of two lists: by the first items that differ, then by length. -/
def orderItems : List Value → List Value → Ordering
  | [], [] => .eq
  | [], _ :: _ => .lt
  | _ :: _, [] => .gt
  | x :: xs, y :: ys => (x.order y).then (orderItems xs ys)

end

/-- Whether `needle` is part of `whole`: a text within a text, or an item of a list. -/
def hasPart (whole needle : Value) : Bool :=
  match whole, needle with
  | .text s, .text part => Text.occursIn part.toList s.toList
  | .list items, _ => items.any (· == needle)
  | _, _ => false

/-- Whether the value is an item of the list `candidates`. -/
def isAmong (value candidates : Value) : Bool :=
  match candidates with
  | .list items => items.any (· == value)
  | _ => false

/-- Whether a text starts with another. -/
def startsWith : Value → Value → Bool
  | .text s, .text start => start.toList.isPrefixOf s.toList
  | _, _ => false

/-- Whether a text ends with another. -/
def endsWith : Value → Value → Bool
  | .text s, .text ending => ending.toList.isSuffixOf s.toList
  | _, _ => false

end RecordFlow.Value
