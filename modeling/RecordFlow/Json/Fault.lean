/-!
# Syntax errors of JSON texts

Where and why a text stops being a JSON document. Places are counted in bytes.

## Main definitions

* `Json.SyntaxError` — the causes, with `SyntaxError.message`
* `Json.Fault` — a cause and its place
* `lineAndColumn` — the line and the column of a place in a text
-/

namespace RecordFlow

namespace Json

/-- Why a text is not a JSON document. -/
inductive SyntaxError where
  | endInList
  | endInObject
  | endInString
  | endInValue
  | expectedColon
  | expectedCommaOrBracket
  | expectedCommaOrBrace
  | expectedIdent
  | expectedValue
  | invalidEscape
  | invalidNumber
  | numberOutOfRange
  | invalidCodePoint
  | controlCharacter
  | keyNotString
  | loneSurrogate
  | trailingComma
  | trailingCharacters
  | endInHexEscape
  | tooDeep
  deriving DecidableEq, Repr

/-- The text of a cause. -/
def SyntaxError.message : SyntaxError → String
  | endInList => "EOF while parsing a list"
  | endInObject => "EOF while parsing an object"
  | endInString => "EOF while parsing a string"
  | endInValue => "EOF while parsing a value"
  | expectedColon => "expected `:`"
  | expectedCommaOrBracket => "expected `,` or `]`"
  | expectedCommaOrBrace => "expected `,` or `\x7d`"
  | expectedIdent => "expected ident"
  | expectedValue => "expected value"
  | invalidEscape => "invalid escape"
  | invalidNumber => "invalid number"
  | numberOutOfRange => "number out of range"
  | invalidCodePoint => "invalid unicode code point"
  | controlCharacter => "control character (\\u0000-\\u001F) found while parsing a string"
  | keyNotString => "key must be a string"
  | loneSurrogate => "lone leading surrogate in hex escape"
  | trailingComma => "trailing comma"
  | trailingCharacters => "trailing characters"
  | endInHexEscape => "unexpected end of hex escape"
  | tooDeep => "recursion limit exceeded"

/-- A cause and the number of bytes read up to it. `lookedAhead` tells that the reader had already
seen the byte after them. -/
structure Fault where
  error : SyntaxError
  offset : Nat
  lookedAhead : Bool := false
  deriving DecidableEq, Repr

end Json

/-- Goes through a text up to a number of bytes, with the lines so far and the bytes since the last
line break. -/
def lineAndColumnFrom : List Char → (offset line column : Nat) → Nat × Nat
  | [], offset, line, column => (line, column + offset)
  | _ :: _, 0, line, column => (line, column)
  | c :: cs, offset, line, column =>
    if offset < c.utf8Size then (line, column + offset)
    else if c = '\n' then lineAndColumnFrom cs (offset - 1) (line + 1) 0
    else lineAndColumnFrom cs (offset - c.utf8Size) line (column + c.utf8Size)

/-- The line of the place after `offset` bytes of a text, and how many bytes of that line precede
it. Lines count from one. -/
def lineAndColumn (text : List Char) (offset : Nat) : Nat × Nat := lineAndColumnFrom text offset 1 0

/-- A message with its place. -/
def messageAt (message : String) (place : Nat × Nat) : String :=
  message ++ " at line " ++ toString place.1 ++ " column " ++ toString place.2

end RecordFlow
