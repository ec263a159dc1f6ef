import RecordFlow.Pattern.Named

/-!
# Written patterns

A pattern as it is written, before the flags in it take effect. Its parts nest, and a text whose
parts nest too deeply is no pattern.

## Main definitions

* `Pattern.ClassForm` — what stands between brackets
* `Pattern.Form` — the forms of written patterns
* `Pattern.Form.depth` — how deeply the parts of a pattern nest
-/

namespace RecordFlow.Pattern

open Text (CodeSet)

/-- What a part of a pattern may be told about how it is read. -/
inductive Flag where
  | ignoreCase
  | multiLine
  | dotAll
  | shortFirst
  | unicode
  | crlf
  | verbose
  deriving DecidableEq

/-- Flags that are set or cleared, in the order in which they are written. -/
abbrev FlagChanges := List (Flag × Bool)

/-- A character that stands for itself. One that is given by two hexadecimal digits is the number of
a byte where patterns are about bytes. -/
structure Literal where
  char : Char
  isByte : Bool := false

/-- Conditions on a place. -/
inductive AnchorForm where
  | lineStart
  | lineEnd
  | textStart
  | textEnd
  | boundary
  | noBoundary
  | wordStart
  | wordEnd
  | halfStart
  | halfEnd

/-- The operators between sets in brackets. -/
inductive SetOperator where
  | inter
  | diff
  | symmDiff

/-- What stands between brackets: characters and ranges, named sets, brackets in the brackets,
several of these side by side, and the operators between sets. -/
inductive ClassForm where
  | char (c : Literal)
  | range (first last : Literal)
  | ascii (negated : Bool) (set : CodeSet)
  | kind (negated : Bool) (kind : Kind)
  | property (negated : Bool) (set : CodeSet)
  | bracket (negated : Bool) (body : ClassForm)
  | union (items : List ClassForm)
  | operator (operator : SetOperator) (left right : ClassForm)

/-- A written pattern. -/
inductive Form where
  | empty
  | flags (changes : FlagChanges)
  | literal (c : Literal)
  | dot
  | anchor (form : AnchorForm)
  | kind (negated : Bool) (kind : Kind)
  | property (negated : Bool) (set : CodeSet)
  | bracket (negated : Bool) (body : ClassForm)
  | repeated (low : Nat) (high : Option Nat) (sub : Form)
  | group (captures : Bool) (changes : FlagChanges) (sub : Form)
  | alternatives (list : List Form)
  | sequence (list : List Form)

/-- The greatest depth of the parts of a pattern. -/
def maxDepth : Nat := 250

mutual

/-- How deeply brackets, operators and lists of items nest; nothing at all does not count. -/
def ClassForm.depth : ClassForm → Nat
  | .char _ | .range _ _ | .ascii _ _ | .kind _ _ | .property _ _ => 0
  | .bracket _ body => body.depth + 1
  | .union [] => 0
  | .union items => depths items + 1
  | .operator _ left right => max left.depth right.depth + 1

/-- The depth of the deepest of several items. -/
def ClassForm.depths : List ClassForm → Nat
  | [] => 0
  | item :: items => max item.depth (depths items)

end

mutual

/-- How deeply the parts of a pattern nest. -/
def Form.depth : Form → Nat
  | .empty | .flags _ | .literal _ | .dot | .anchor _ | .kind _ _ | .property _ _ => 0
  | .bracket _ body => body.depth + 1
  | .repeated _ _ sub => sub.depth + 1
  | .group _ _ sub => sub.depth + 1
  | .alternatives list => depths list + 1
  | .sequence list => depths list + 1

/-- The depth of the deepest of several parts. -/
def Form.depths : List Form → Nat
  | [] => 0
  | part :: parts => max part.depth (depths parts)

end

/-- A list of items in brackets: one item stands for itself. -/
def ClassForm.ofItems : List ClassForm → ClassForm
  | [item] => item
  | items => .union items

/-- Parts in a row: one part stands for itself. -/
def Form.ofParts : List Form → Form
  | [] => .empty
  | [part] => part
  | parts => .sequence parts

/-- Parts to choose from: one part stands for itself. -/
def Form.ofChoices : List Form → Form
  | [] => .empty
  | [part] => part
  | parts => .alternatives parts

end RecordFlow.Pattern
