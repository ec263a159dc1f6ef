import RecordFlow.Pattern.Basic
import RecordFlow.Pattern.Form

/-!
# The meaning of written patterns

What a written pattern matches under the flags in it. Flags hold from where they are set to the end
of the group around them. Where case is ignored, a set is extended by the case variants of its
members before it is negated or combined with another one. Without Unicode a pattern is about bytes,
and one that accepts bytes which are no text has no meaning.

## Main definitions

* `Pattern.Flags` — how a part of a pattern is read
* `Pattern.ClassForm.set?` — the characters of a class
* `Pattern.Form.pattern?` — the pattern of a written pattern
-/

namespace RecordFlow.Pattern

open Text (CodeSet)

/-- How a part of a pattern is read. -/
structure Flags where
  ignoreCase : Bool := false
  multiLine : Bool := false
  dotAll : Bool := false
  unicode : Bool := true
  crlf : Bool := false

namespace Flags

/-- Sets or clears a flag. Blanks and what a repetition prefers do not change what is matched. -/
def change (flags : Flags) : Flag × Bool → Flags
  | (.ignoreCase, on) => { flags with ignoreCase := on }
  | (.multiLine, on) => { flags with multiLine := on }
  | (.dotAll, on) => { flags with dotAll := on }
  | (.unicode, on) => { flags with unicode := on }
  | (.crlf, on) => { flags with crlf := on }
  | (.shortFirst, _) | (.verbose, _) => flags

/-- Sets and clears several flags. -/
def changeAll (flags : Flags) (changes : FlagChanges) : Flags := changes.foldl change flags

/-- The letters of ASCII in a set, with the other case of each. -/
def foldAscii (s : CodeSet) : CodeSet :=
  let shifted (first last : Nat) (shift : Nat → Nat) : CodeSet :=
    .ofRanges ((s.inter (.range first last)).ranges.map fun (a, b) => (shift a, shift b))
  .unions [s, shifted 0x41 0x5A (· + 0x20), shifted 0x61 0x7A (· - 0x20)]

/-- A set with the case variants of its members if case is ignored. -/
def fold (flags : Flags) (s : CodeSet) : CodeSet :=
  if !flags.ignoreCase then s else if flags.unicode then Text.foldCases edition s else foldAscii s

/-- The complement of a set, if that is wanted. Without Unicode it would
hold bytes that are no text. -/
def negate? (flags : Flags) (negated : Bool) (s : CodeSet) : Option CodeSet :=
  if !negated then some s else if flags.unicode then some s.complement else none

/-- The characters of a class with a letter of its own, which are closed under changes of case. -/
def kind? (flags : Flags) (negated : Bool) (kind : Kind) : Option CodeSet :=
  flags.negate? negated (kind.set flags.unicode)

/-- The characters of a property, which only patterns about characters know. -/
def property? (flags : Flags) (negated : Bool) (s : CodeSet) : Option CodeSet :=
  if flags.unicode then flags.negate? negated (flags.fold s) else none

/-- A character in brackets. Without Unicode brackets hold bytes, and
only those of ASCII are text. -/
def bracketed? (flags : Flags) (c : Literal) : Option Nat :=
  if flags.unicode || c.char.toNat < 0x80 then some c.char.toNat else none

/-- A character that stands for itself. Without Unicode it still stands for its bytes in a row,
unless it is a byte of its own. -/
def literal? (flags : Flags) (c : Literal) : Option CodeSet :=
  if flags.unicode || c.char.toNat < 0x80 then some (flags.fold (.single c.char))
  else if c.isByte then none
  else some (.single c.char)

/-- The characters that a dot stands for. -/
def dot? (flags : Flags) : Option CodeSet :=
  if !flags.unicode then none
  else if flags.dotAll then some .all
  else if flags.crlf then some (CodeSet.ofRanges [(0xA, 0xA), (0xD, 0xD)]).complement
  else some (CodeSet.range 0xA 0xA).complement

/-- A condition on a place. -/
def anchor (flags : Flags) (form : AnchorForm) : Anchor :=
  let word := Kind.word.set flags.unicode
  match form with
  | .lineStart =>
    if !flags.multiLine then .textStart else if flags.crlf then .crlfLineStart else .lineStart
  | .lineEnd => if !flags.multiLine then .textEnd else if flags.crlf then .crlfLineEnd else .lineEnd
  | .textStart => .textStart
  | .textEnd => .textEnd
  | .boundary => .boundary word
  | .noBoundary => .noBoundary word
  | .wordStart => .wordStart word
  | .wordEnd => .wordEnd word
  | .halfStart => .halfStart word
  | .halfEnd => .halfEnd word

end Flags

/-- Applies an operator to two sets. -/
def SetOperator.combine : SetOperator → CodeSet → CodeSet → CodeSet
  | inter, a, b => a.inter b
  | diff, a, b => a.diff b
  | symmDiff, a, b => a.symmDiff b

mutual

/-- The characters of a class. -/
def ClassForm.set? (flags : Flags) : ClassForm → Option CodeSet
  | .char c => do
    let code ← flags.bracketed? c
    return .range code code
  | .range first last => do return .range (← flags.bracketed? first) (← flags.bracketed? last)
  | .ascii negated set => flags.negate? negated (flags.fold set)
  | .kind negated k => flags.kind? negated k
  | .property negated set => flags.property? negated set
  | .bracket negated body => do flags.negate? negated (flags.fold (← ClassForm.set? flags body))
  | .union items => do return .unions (← ClassForm.sets? flags items)
  | .operator o left right => do
    let left ← ClassForm.set? flags left
    let right ← ClassForm.set? flags right
    return o.combine (flags.fold left) (flags.fold right)

/-- The characters of several items of a class. -/
def ClassForm.sets? (flags : Flags) : List ClassForm → Option (List CodeSet)
  | [] => some []
  | item :: items => do
    let set ← ClassForm.set? flags item
    return set :: (← ClassForm.sets? flags items)

end

mutual

/-- The pattern of a written pattern, and the flags that hold behind it. -/
def Form.pattern? (flags : Flags) : Form → Option (Pattern × Flags)
  | .empty => some (.empty, flags)
  | .flags changes => some (.empty, flags.changeAll changes)
  | .literal c => do return (.one (← flags.literal? c), flags)
  | .dot => do return (.one (← flags.dot?), flags)
  | .anchor form => some (.anchor (flags.anchor form), flags)
  | .kind negated k => do return (.one (← flags.kind? negated k), flags)
  | .property negated set => do return (.one (← flags.property? negated set), flags)
  | .bracket negated body => do
    let set ← ClassForm.set? flags body
    return (.one (← flags.negate? negated (flags.fold set)), flags)
  | .repeated low high sub => do
    let (p, flags) ← Form.pattern? flags sub
    return (repetition low high p, flags)
  | .group captures changes sub => do
    let (p, _) ← Form.pattern? (flags.changeAll changes) sub
    return (if captures then .group p else p, flags)
  | .alternatives list => do
    let (ps, flags) ← Form.patterns? flags list
    return (Pattern.choice ps, flags)
  | .sequence list => do
    let (ps, flags) ← Form.patterns? flags list
    return (Pattern.sequence ps, flags)

/-- The patterns of written patterns that stand one behind the other. -/
def Form.patterns? (flags : Flags) : List Form → Option (List Pattern × Flags)
  | [] => some ([], flags)
  | form :: forms => do
    let (p, flags) ← Form.pattern? flags form
    let (ps, flags) ← Form.patterns? flags forms
    return (p :: ps, flags)

end

end RecordFlow.Pattern
