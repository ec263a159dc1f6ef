import RecordFlow.Text.CodeSet

/-!
# Patterns

A pattern describes texts. Its leaves are sets of characters, one of which stands there, and
conditions on the characters around a place.

## Main definitions

* `Pattern` — the forms of patterns
* `Anchor.holds` — when a condition on a place holds
* `Pattern.sequence`, `Pattern.choice`, `Pattern.repetition` — patterns
  made of others, in simplest form
-/

namespace RecordFlow

open Text (CodeSet)

/-- A condition on a place that takes no character. Words are made of `word` characters. -/
inductive Anchor where
  | textStart
  | textEnd
  | lineStart
  | lineEnd
  | crlfLineStart
  | crlfLineEnd
  | boundary (word : CodeSet)
  | noBoundary (word : CodeSet)
  | wordStart (word : CodeSet)
  | wordEnd (word : CodeSet)
  | halfStart (word : CodeSet)
  | halfEnd (word : CodeSet)

/-- A pattern: nothing, one character of a set, a condition on the place, several patterns in a row
or to choose from, a repetition, or a group whose place is kept. -/
inductive Pattern where
  | empty
  | one (set : CodeSet)
  | anchor (a : Anchor)
  | seq (parts : List Pattern)
  | alt (choices : List Pattern)
  | repeated (low : Nat) (high : Option Nat) (p : Pattern)
  | group (p : Pattern)

namespace Anchor

/-- Whether an anchor holds between the characters before and after a place. -/
def holds (a : Anchor) (before after : Option Char) : Bool :=
  let isWord (word : CodeSet) (c : Option Char) : Bool := c.any fun c => word.holds c
  match a with
  | textStart => before.isNone
  | textEnd => after.isNone
  | lineStart => before.all (· == '\n')
  | lineEnd => after.all (· == '\n')
  | crlfLineStart => before.all (· == '\n') || (before == some '\r' && after != some '\n')
  | crlfLineEnd => after.all (· == '\r') || (after == some '\n' && before != some '\r')
  | boundary word => isWord word before != isWord word after
  | noBoundary word => isWord word before == isWord word after
  | wordStart word => !isWord word before && isWord word after
  | wordEnd word => isWord word before && !isWord word after
  | halfStart word => !isWord word before
  | halfEnd word => !isWord word after

end Anchor

namespace Pattern

mutual

/-- Whether occurrences take no character. -/
def isWidthless : Pattern → Bool
  | empty => true
  | one _ => false
  | anchor _ => true
  | seq parts => areWidthless parts
  | alt choices => areWidthless choices
  | repeated _ _ p => isWidthless p
  | group p => isWidthless p

/-- Whether occurrences of several patterns take no character. -/
def areWidthless : List Pattern → Bool
  | [] => true
  | p :: ps => isWidthless p && areWidthless ps

end

/-- The patterns that a pattern is a row of. -/
def parts : Pattern → List Pattern
  | empty => []
  | seq parts => parts
  | p => [p]

/-- Several patterns in a row. Rows in the row are taken apart, and nothing is left out. -/
def sequence (ps : List Pattern) : Pattern :=
  match ps.flatMap parts with
  | [] => empty
  | [p] => p
  | ps => seq ps

/-- The patterns that a pattern lets choose from. -/
def choices : Pattern → List Pattern
  | alt choices => choices
  | p => [p]

/-- The set of a pattern that stands for one character. -/
def set? : Pattern → Option CodeSet
  | one set => some set
  | _ => none

/-- Several patterns to choose from. Choices in the choice are taken apart, and a choice of single
characters is a set. -/
def choice (ps : List Pattern) : Pattern :=
  match ps.flatMap choices with
  | [p] => p
  | ps =>
    match ps.mapM set? with
    | some sets => one (.unions sets)
    | none => alt ps

/-- A repetition. What takes no character is the same however often it is repeated, so once is
enough. -/
def repetition (low : Nat) (high : Option Nat) (p : Pattern) : Pattern :=
  let (low, high) := if p.isWidthless then (min low 1, some (min (high.getD 1) 1)) else (low, high)
  match low, high with
  | 0, some 0 => empty
  | 1, some 1 => p
  | low, high => repeated low high p

end Pattern

end RecordFlow
