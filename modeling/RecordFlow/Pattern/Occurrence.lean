import RecordFlow.Pattern.Basic

/-!
# Occurrences of patterns

An occurrence of a pattern may stand anywhere in a text. Places of a text are the gaps between
its characters, `0` before the first. A set of places is a natural number whose bit `i` tells
whether place `i` belongs to it. In a text, a leaf of a pattern is the set of the places where it
holds, and a pattern leads from a set of places to the set of places where an occurrence that
starts at one of them may end.

## Main definitions

* `Located` — a pattern in a text
* `Located.reach` — the places where occurrences end
* `Pattern.occursIn` — whether a pattern occurs in a text
-/

namespace RecordFlow

/-- A pattern in a text, with the places where its leaves hold: `across` takes a character
there, and `between` takes none. -/
inductive Located where
  | across (places : Nat)
  | between (places : Nat)
  | seq (parts : List Located)
  | alt (choices : List Located)
  | repeated (low : Nat) (high : Option Nat) (p : Located)

namespace Located

/-- The set of the places from `place` on for which a property of the
characters around them holds. -/
def placesWhere (holds : Option Char → Option Char → Bool) :
    (before : Option Char) → List Char → (place : Nat) → Nat
  | before, [], place => if holds before none then Nat.pow 2 place else 0
  | before, c :: cs, place =>
    let further := placesWhere holds (some c) cs (place + 1)
    if holds before (some c) then Nat.pow 2 place + further else further

/-- All places that a step leads to in any number of repetitions, at most `fuel`. -/
def closure (step : Nat → Nat) : (fuel : Nat) → Nat → Nat
  | 0, places => places
  | fuel + 1, places =>
    let more := places ||| step places
    if more = places then places else closure step fuel more

/-- All places that at most `count` repetitions of a step lead to. -/
def atMost (step : Nat → Nat) : (count : Nat) → Nat → Nat
  | 0, places => places
  | count + 1, places =>
    let more := places ||| step places
    if more = places then places else atMost step count more

/-- The places that exactly `count` repetitions of a step lead to. -/
def exactly (step : Nat → Nat) : (count : Nat) → Nat → Nat
  | 0, places => places
  | count + 1, places =>
    let next := step places
    -- Places that lead to themselves do so in every further round.
    if next = places then places else exactly step count next

mutual

/-- The places where an occurrence may end that starts at one of the given places. -/
def reach (length : Nat) : Located → Nat → Nat
  | across allowed, places => (places &&& allowed) <<< 1
  | between allowed, places => places &&& allowed
  | seq parts, places => reachInTurn length parts places
  | alt choices, places => reachByAny length choices places
  | repeated low high p, places =>
    let start := exactly (reach length p) low places
    match high with
    | some high => atMost (reach length p) (high - low) start
    -- A round that adds no place ends the closure, and there are only so many places.
    | none => closure (reach length p) (length + 1) start

/-- The places that several patterns in a row lead to. -/
def reachInTurn (length : Nat) : List Located → Nat → Nat
  | [], places => places
  | p :: ps, places => reachInTurn length ps (reach length p places)

/-- The places that any of several patterns leads to. -/
def reachByAny (length : Nat) : List Located → Nat → Nat
  | [], _ => 0
  | p :: ps, places => reach length p places ||| reachByAny length ps places

end

end Located

namespace Pattern

mutual

/-- A pattern in a text. -/
def locate (text : List Char) : Pattern → Located
  | empty => .seq []
  | one set => .across (Located.placesWhere (fun _ after => after.any set.holds) none text 0)
  | anchor a => .between (Located.placesWhere a.holds none text 0)
  | seq parts => .seq (locateAll text parts)
  | alt choices => .alt (locateAll text choices)
  | repeated low high p => .repeated low high (locate text p)
  | group p => locate text p

/-- Several patterns in a text. -/
def locateAll (text : List Char) : List Pattern → List Located
  | [] => []
  | p :: ps => locate text p :: locateAll text ps

end

/-- Whether a pattern occurs in a text. -/
def occursIn (p : Pattern) (text : String) : Bool :=
  let chars := text.toList
  (p.locate chars).reach chars.length (Nat.pow 2 (chars.length + 1) - 1) != 0

end Pattern

end RecordFlow
