import RecordFlow.Text.Digits

/-!
# Sets of code points

Sets of characters by their code points, as ranges in ascending order with a gap between any two, so
that a set has one form only. Union joins the ranges that touch, the complement is made of the gaps,
and the other operations follow from these two.

## Main definitions

* `CodeSet` — a set of code points, with `CodeSet.holds`
* `CodeSet.union`, `CodeSet.complement`, `CodeSet.inter`, `CodeSet.diff` — the operations on sets
* `CodeSet.ofLines` — a set from the text of its ranges
-/

namespace RecordFlow.Text

/-- A set of code points, as ranges of a first and a last member. -/
structure CodeSet where
  ranges : List (Nat × Nat)
  deriving BEq, Repr, Inhabited

namespace CodeSet

/-- The greatest code point. -/
def greatest : Nat := 0x10FFFF

/-- Joins a range to ranges in ascending order that start no earlier. -/
def join (range : Nat × Nat) : List (Nat × Nat) → List (Nat × Nat)
  | [] => [range]
  | next :: rest =>
    if next.1 ≤ range.2 + 1 then join (range.1, max range.2 next.2) rest
    else range :: join next rest

/-- The set of ranges in ascending order of their first members. -/
def ofSorted : List (Nat × Nat) → CodeSet
  | [] => ⟨[]⟩
  | range :: rest => ⟨join range rest⟩

/-- The set of ranges in any order. -/
def ofRanges (ranges : List (Nat × Nat)) : CodeSet :=
  ofSorted (ranges.mergeSort fun a b => a.1 ≤ b.1)

/-- The set of code points in any order. -/
def ofCodes (codes : List Nat) : CodeSet := ofRanges (codes.map fun code => (code, code))

/-- The set without members. -/
def empty : CodeSet := ⟨[]⟩

/-- The set of all code points. -/
def all : CodeSet := ⟨[(0, greatest)]⟩

/-- The set of one character. -/
def single (c : Char) : CodeSet := ⟨[(c.toNat, c.toNat)]⟩

/-- The set of the code points from one to another. -/
def range (first last : Nat) : CodeSet := ⟨[(first, last)]⟩

/-- Whether one of the ranges in ascending order holds a code point. -/
def anyHolds (code : Nat) : List (Nat × Nat) → Bool
  | [] => false
  | (first, last) :: rest => first ≤ code && (code ≤ last || anyHolds code rest)

/-- Whether a set holds a code point. -/
def holdsCode (s : CodeSet) (code : Nat) : Bool := anyHolds code s.ranges

/-- Whether a set holds a character. -/
def holds (s : CodeSet) (c : Char) : Bool := s.holdsCode c.toNat

/-- Whether a set has no members. -/
def isEmpty (s : CodeSet) : Bool := s.ranges.isEmpty

/-- The only member of a set that has just one. -/
def only? (s : CodeSet) : Option Nat :=
  match s.ranges with
  | [(first, last)] => if first = last then some first else none
  | _ => none

/-- Whether all members are characters of ASCII. -/
def isAscii (s : CodeSet) : Bool := s.ranges.all fun (_, last) => last < 0x80

/-- What is in one of two sets. -/
def union (a b : CodeSet) : CodeSet :=
  ofSorted (a.ranges.merge b.ranges fun a b => a.1 ≤ b.1)

/-- The union of several sets. -/
def unions (sets : List CodeSet) : CodeSet := ofRanges (sets.flatMap ranges)

/-- The gaps between ranges in ascending order, from a code point on. -/
def gaps (start : Nat) : List (Nat × Nat) → List (Nat × Nat)
  | [] => if start ≤ greatest then [(start, greatest)] else []
  | (first, last) :: rest =>
    if start < first then (start, first - 1) :: gaps (last + 1) rest else gaps (last + 1) rest

/-- What is not in a set. -/
def complement (s : CodeSet) : CodeSet := ⟨gaps 0 s.ranges⟩

/-- What is in both of two sets. -/
def inter (a b : CodeSet) : CodeSet := complement (union (complement a) (complement b))

/-- What is in the first set and not in the second. -/
def diff (a b : CodeSet) : CodeSet := inter a (complement b)

/-- What is in exactly one of two sets. -/
def symmDiff (a b : CodeSet) : CodeSet := union (diff a b) (diff b a)

/-- The range of a text such as `41-5A`, in hexadecimal digits, or of a single code point. -/
def readRange (text : String) : Nat × Nat :=
  match (text.splitOn "-").map fun digits => (natInBase? 16 digits.toList).getD 0 with
  | [first, last] => (first, last)
  | code :: _ => (code, code)
  | [] => (0, 0)

/-- The set of ranges that are written with blanks between them, on several lines. -/
def ofLines (lines : List String) : CodeSet :=
  ofRanges ((lines.flatMap (·.splitOn " ")).map readRange)

end CodeSet

end RecordFlow.Text
