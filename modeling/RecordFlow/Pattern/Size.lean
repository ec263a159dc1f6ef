import RecordFlow.Pattern.Basic
import RecordFlow.Pattern.Meaning
import RecordFlow.Pattern.Parser
import RecordFlow.Pattern.Utf8

/-!
# The size of patterns

A pattern is matched by a machine whose states read bytes. The size of the machine is the room its
states take, and a pattern whose machine takes more than a certain room is not accepted. There are
two machines for each pattern: one reads a text forward and keeps the places of groups, the other
reads backward and keeps none.

A state that reads bytes of several ranges takes room for each range, and a state that branches
takes room for each branch, also for one that leads on from a branching state at the end of a part.

A text describes a pattern if it follows the notation, has a meaning under
its flags, and is not too large.

## Main definitions

* `Pattern.Room` — the room of a part of a machine
* `Pattern.room` — the room of the machine of a pattern
* `Pattern.fits` — whether both machines of a pattern are small enough
* `Pattern.parse?` — the pattern that a text describes, if it has a meaning and is not too large
-/

namespace RecordFlow

open Text (CodeSet)

namespace Pattern

/-- The direction in which a machine reads. -/
inductive Direction where
  | forward
  | backward
  deriving DecidableEq

/-- The room of a state. -/
def stateRoom : Nat := 32

/-- The room of a range of bytes that a state reads. -/
def rangeRoom : Nat := 8

/-- The room of a branch. -/
def branchRoom : Nat := 4

/-- The sum of some amounts. -/
def sumOf (amounts : List Nat) : Nat := amounts.foldr (· + ·) 0

/-- The room of a part of a machine, and whether the part ends in a branching state. -/
structure Room where
  total : Nat
  branches : Bool := false

namespace Room

/-- The room of the way on from a part. -/
def exit (r : Room) : Nat := if r.branches then branchRoom else 0

/-- The room of so many states. -/
def states (count : Nat) : Room := { total := stateRoom * count }

/-- One part behind another. -/
def andThen (a b : Room) : Room := { total := a.total + a.exit + b.total, branches := b.branches }

/-- So many copies of a part in a row. -/
def copies (count : Nat) (r : Room) : Room :=
  if count = 0 then states 1
  else { total := count * r.total + (count - 1) * r.exit, branches := r.branches }

end Room

/-- The nodes of a tree of sequences, from the leaves up: each is a list of ranges
with the number of the node that each leads to, and equal nodes are shared. A node's
number is its place from the end. -/
abbrev Nodes := List (List (Nat × Nat × Nat))

/-- The number of a node, which is added to the nodes if it is new. -/
def share (node : List (Nat × Nat × Nat)) (nodes : Nodes) : Nat × Nodes :=
  match nodes.idxOf? node with
  | some k => (nodes.length - k, nodes)
  | none => (nodes.length + 1, node :: nodes)

/-- Sequences by their first range, in order, each with what is left of
the sequences that share it. -/
def byFirst : List Utf8.Sequence → List ((Nat × Nat) × List Utf8.Sequence)
  | [] => []
  | [] :: rest => byFirst rest
  | (first :: tail) :: rest =>
    match byFirst rest with
    | (next, tails) :: groups =>
      if next = first then (first, tail :: tails) :: groups
      else (first, [tail]) :: (next, tails) :: groups
    | [] => [(first, [tail])]

mutual

/-- The node of sequences of at most `depth` ranges, with all nodes it leads to. Number `0` is the
end. -/
def nodeOf : (depth : Nat) → List Utf8.Sequence → Nodes → Nat × Nodes
  | 0, _, nodes => (0, nodes)
  | depth + 1, sequences, nodes =>
    match byFirst sequences with
    | [] => (0, nodes)
    | groups =>
      let (node, nodes) := nodeOfGroups depth groups nodes
      share node nodes

/-- The ranges of a node, with the numbers of the nodes that they lead to. -/
def nodeOfGroups (depth : Nat) :
    List ((Nat × Nat) × List Utf8.Sequence) → Nodes → List (Nat × Nat × Nat) × Nodes
  | [], nodes => ([], nodes)
  | ((first, last), tails) :: groups, nodes =>
    let (target, nodes) := nodeOf depth tails nodes
    let (node, nodes) := nodeOfGroups depth groups nodes
    ((first, last, target) :: node, nodes)

end

/-- How many ranges of bytes a tree of sequences has that share what they begin with. -/
def sharedRanges : (depth : Nat) → List Utf8.Sequence → Nat
  | 0, _ => 0
  | depth + 1, sequences =>
    sumOf ((byFirst sequences).map fun (_, tails) => 1 + sharedRanges depth tails)

/-- The room of the part that reads one character of a set. Read forward, equal ends of the
sequences are shared; read backward, each sequence is a branch, and their beginnings are shared. -/
def setRoom (d : Direction) (s : CodeSet) : Room :=
  match s.only? with
  | some code => .states (Utf8.encode code).length
  | none =>
    if s.isAscii then { total := 2 * stateRoom + s.ranges.length * rangeRoom }
    else
      let sequences := Utf8.sequencesOf s
      match d with
      | .forward =>
        let (_, nodes) := nodeOf 4 sequences []
        { total := stateRoom + sumOf (nodes.map fun node => stateRoom + node.length * rangeRoom) }
      | .backward =>
        { total := 2 * stateRoom + sequences.length * branchRoom +
          sharedRanges 4 sequences * stateRoom }

/-- The bytes of a pattern that is a text. -/
def bytes? : Pattern → Option (List Nat)
  | one set => set.only?.map Utf8.encode
  | seq parts => (parts.mapM fun (p : Pattern) => p.set?.bind CodeSet.only?).map
    (·.flatMap Utf8.encode)
  | _ => none

/-- Words in the runs that the empty words among them leave. -/
def betweenEmpty : List (List Nat) → List (List (List Nat))
  | [] => [[]]
  | [] :: words => [] :: betweenEmpty words
  | word :: words =>
    match betweenEmpty words with
    | run :: runs => (word :: run) :: runs
    | [] => [[word]]

/-- The room of a choice of words whose longest has at most `depth` bytes: words of a run that start
with the same byte go on together, and an empty word ends the choice before the next run. -/
def wordsRoom : (depth : Nat) → List (List Nat) → Nat
  | 0, _ => 0
  | depth + 1, words =>
    let runs := betweenEmpty words
    let branches := (runs.countP fun run => !run.isEmpty) + (runs.length - 1)
    let runRoom (run : List (List Nat)) : Nat :=
      let starts := (run.filterMap List.head?).eraseDups
      let behind (start : Nat) : List (List Nat) :=
        (run.filter fun word => word.head? == some start).map List.tail
      let rest := (starts.map behind).filter fun words => words.any fun word => !word.isEmpty
      let own := match starts.length with
        | 0 => 0
        | 1 => stateRoom
        | count => stateRoom + count * rangeRoom
      own + sumOf (rest.map (wordsRoom depth))
    stateRoom + branches * branchRoom + sumOf (runs.map runRoom)

mutual

/-- The number of characters of the shortest occurrence, if there are occurrences at all. -/
def shortest? : Pattern → Option Nat
  | empty => some 0
  | one set => if set.isEmpty then none else some 1
  | anchor _ => some 0
  | seq parts => (shortestOfAll? parts).map sumOf
  | alt choices => (shortestOfAll? choices).map fun lengths => lengths.min?.getD 0
  | repeated low _ p => (shortest? p).map (low * ·)
  | group p => shortest? p

/-- The numbers of characters of the shortest occurrences of several patterns, if all have some. -/
def shortestOfAll? : List Pattern → Option (List Nat)
  | [] => some []
  | p :: ps => do
    let length ← shortest? p
    return length :: (← shortestOfAll? ps)

end

/-- The room of a repetition of a part with the given room. -/
def repeatedRoom (low : Nat) (high : Option Nat) (takesSome : Bool) (r : Room) : Room :=
  match low, high with
  | 0, some 1 => { total := 2 * stateRoom + 2 * branchRoom + r.total + r.exit }
  | 0, none =>
    -- A part that may take nothing must not lead back to its own start without having been left.
    if takesSome then { total := stateRoom + branchRoom + r.total + r.exit, branches := true }
    else { total := 3 * stateRoom + 4 * branchRoom + r.total + r.exit }
  | low, none =>
    { total := (r.copies low).total + r.exit + stateRoom + branchRoom, branches := true }
  | low, some high =>
    let needed := r.copies low
    if low = high then needed
    else
      let more := (high - low) * (stateRoom + 2 * branchRoom + r.total + r.exit)
      { total := needed.total + needed.exit + stateRoom + more }

/-- The room of a choice from parts with the given rooms. -/
def choiceRoom (rooms : List Room) : Room :=
  { total := 2 * stateRoom + sumOf (rooms.map fun r => r.total + r.exit + branchRoom) }

mutual

/-- The room of the machine of a pattern. -/
def room (d : Direction) : Pattern → Room
  | empty => .states 1
  | one set => setRoom d set
  | anchor _ => .states 1
  | seq parts =>
    let rooms := rooms d parts
    match if d = .forward then rooms else rooms.reverse with
    | [] => .states 1
    | first :: rest => rest.foldl .andThen first
  | alt choices =>
    match choices.mapM bytes? with
    | some words =>
      let words := if d = .forward then words else words.map List.reverse
      let depth := (words.map List.length).max?.getD 0
      { total := stateRoom + wordsRoom (depth + 1) words }
    | none => choiceRoom (rooms d choices)
  | repeated low high p => repeatedRoom low high ((shortest? p).any (0 < ·)) (room d p)
  | group p =>
    let r := room d p
    match d with
    | .forward => { total := 2 * stateRoom + r.total + r.exit }
    | .backward => r

/-- The rooms of the machines of several patterns. -/
def rooms (d : Direction) : List Pattern → List Room
  | [] => []
  | p :: ps => room d p :: rooms d ps

end

/-- The room that a machine may take. -/
def greatestRoom : Nat := 10 * Nat.pow 2 20

/-- The room of a whole machine: it looks for the pattern at every place, keeps where an occurrence
starts and ends if it reads forward, and has a state for success. -/
def machineRoom (d : Direction) (p : Pattern) : Nat :=
  let search := 3 * stateRoom + rangeRoom + 2 * branchRoom
  let whole := room d (.group p)
  search + whole.total + whole.exit + stateRoom

/-- Whether both machines of a pattern are small enough. -/
def fits (p : Pattern) : Bool :=
  [Direction.forward, .backward].all fun d => machineRoom d p ≤ greatestRoom

/-- The pattern of a text. -/
def parse? (text : String) : Option Pattern := do
  let form ← parseForm? text
  let (p, _) ← form.pattern? {}
  if p.fits then some p else none

end Pattern

end RecordFlow
