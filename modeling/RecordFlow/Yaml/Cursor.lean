import RecordFlow.Yaml.Fault

/-!
# Places in a markup text

A text ends at its end or at its first null character. Lines end with a line
feed, a carriage return or both.

## Main definitions

* `Yaml.Cursor` — the rest of a text and its place
* `Yaml.Cursor.run`, `Yaml.Cursor.skipBreak` — parts at the start of the rest
-/

namespace RecordFlow.Yaml

/-- The rest of a text and the place where it starts. -/
structure Cursor where
  rest : List Char
  mark : Mark := {}

/-- The character that stands for the end of a text. -/
def endChar : Char := '\x00'

/-- Whether a character is a space or a tab. -/
def isBlank (c : Char) : Bool := c == ' ' || c == '\t'

/-- Whether a character ends a line. -/
def isBreak (c : Char) : Bool := c == '\n' || c == '\r'

/-- Whether a character ends a line or the text. -/
def isBreakOrEnd (c : Char) : Bool := isBreak c || c == endChar

/-- Whether a character ends a word. -/
def isBlankOrEnd (c : Char) : Bool := isBlank c || isBreakOrEnd c

/-- Whether a character has a meaning in brackets. -/
def isFlowMark (c : Char) : Bool := [',', '[', ']', '\x7b', '\x7d'].contains c

/-- Whether a character may be part of a name. -/
def isNameChar (c : Char) : Bool := c.isAlphanum || c == '_' || c == '-'

/-- The value of a character as a hexadecimal digit. -/
def isHex (c : Char) : Bool := c.isDigit || ('a' ≤ c && c ≤ 'f') || ('A' ≤ c && c ≤ 'F')

namespace Cursor

/-- The character at a distance from the place. -/
def peek (cursor : Cursor) (n : Nat) : Char := cursor.rest.getD n endChar

/-- The character at the place. -/
def head (cursor : Cursor) : Char := cursor.rest.headD endChar

/-- The place behind the next character. -/
def skip (cursor : Cursor) : Cursor :=
  match cursor.rest with
  | [] => cursor
  | c :: rest => ⟨rest, cursor.mark.after c⟩

/-- The place behind several characters. -/
def advance (cursor : Cursor) : Nat → Cursor
  | 0 => cursor
  | n + 1 => cursor.skip.advance n

/-- The characters at the place that have a property, and the place behind them. -/
def run (cursor : Cursor) (p : Char → Bool) : List Char × Cursor :=
  let chars := cursor.rest.takeWhile p
  (chars, cursor.advance chars.length)

/-- The place behind the characters that have a property. -/
def skipWhile (cursor : Cursor) (p : Char → Bool) : Cursor := (cursor.run p).2

/-- The place behind a line break, if there is one here. -/
def skipBreak (cursor : Cursor) : Cursor :=
  if cursor.head = '\r' ∧ cursor.peek 1 = '\n' then cursor.advance 2
  else if isBreak cursor.head then cursor.skip else cursor

/-- The place behind the blanks and the comment up to the end of a line. -/
def skipToLineEnd (cursor : Cursor) : Cursor :=
  let cursor := cursor.skipWhile isBlank
  if cursor.head = '#' then cursor.skipWhile fun c => !isBreakOrEnd c else cursor

/-- A fault at the place. -/
def fault {α : Type} (cursor : Cursor) (error : SyntaxError) : Except Fault α :=
  .error ⟨error, cursor.mark⟩

/-- Whether the line here begins a document, with hyphens, or ends one, with points. -/
def isDocumentMark (cursor : Cursor) (c : Char) : Bool :=
  cursor.mark.column == 0 && cursor.head == c && cursor.peek 1 == c && cursor.peek 2 == c &&
    isBlankOrEnd (cursor.peek 3)

/-- Whether the line here begins or ends a document. -/
def isAtDocumentMark (cursor : Cursor) : Bool :=
  cursor.isDocumentMark '-' || cursor.isDocumentMark '.'

end Cursor

/-- A text up to its first null character. -/
def Cursor.ofText (text : List Char) : Cursor := ⟨text.takeWhile (· != endChar), {}⟩

end RecordFlow.Yaml
