/-!
# Syntax errors of markup texts

## Main definitions

* `Yaml.Mark` — a place in a text
* `Yaml.SyntaxError`, `Yaml.Fault` — why and where a text is no markup document
-/

namespace RecordFlow.Yaml

/-- A place in a text: the number of characters before it, its line, counted from one, and the
number of characters before it on the line. -/
structure Mark where
  index : Nat := 0
  line : Nat := 1
  column : Nat := 0

/-- The place behind a character. Only a line feed ends the count of a line. -/
def Mark.after (mark : Mark) (c : Char) : Mark :=
  if c = '\n' then ⟨mark.index + 1, mark.line + 1, 0⟩
    else ⟨mark.index + 1, mark.line, mark.column + 1⟩

/-- Why a text is no markup document. -/
inductive SyntaxError where
  | strayCharacter (c : Char)
  | expectedColon
  | expectedName
  | noItemHere
  | noItemInBrackets
  | noKeyHere
  | noValueHere
  | tooDeep
  | badAnchor
  | openVerbatimTag
  | noTagMark
  | noTagEnd
  | noTagName
  | noEscapedOctet
  | badLeadingOctet
  | badTrailingOctet
  | badOctets
  | noDirectiveName
  | badDirectiveName
  | noVersion
  | noVersionPoint
  | longVersion
  | noHandleEnd
  | noPrefixEnd
  | noDirectiveEnd
  | zeroIndentation
  | noHeaderEnd
  | tabInIndentation
  | markInQuotes
  | openQuotes
  | unknownEscape
  | noHexNumber
  | noEscapedCharacter
  | tabInPlain
  | noDocumentStart
  | unknownAnchor
  | noContent
  | noBlockKey
  | noBlockItem
  | noFlowMapEnd
  | noFlowListEnd
  deriving DecidableEq

/-- The text of a cause. -/
def SyntaxError.message : SyntaxError → String
  | strayCharacter c => "unexpected character: `" ++ String.ofList [c] ++ "'"
  | expectedColon => "simple key expect ':'"
  | expectedName => "simple key expected"
  | noItemHere => "block sequence entries are not allowed in this context"
  | noItemInBrackets => "\"-\" is only valid inside a block"
  | noKeyHere => "mapping keys are not allowed in this context"
  | noValueHere => "mapping values are not allowed in this context"
  | tooDeep => "recursion limit exceeded"
  | badAnchor =>
    "while scanning an anchor or alias, did not find expected alphabetic or numeric character"
  | openVerbatimTag => "while scanning a tag, did not find the expected '>'"
  | noTagMark => "while scanning a tag, did not find expected '!'"
  | noTagEnd => "while scanning a tag, did not find expected whitespace or line break"
  | noTagName => "while parsing a tag, did not find expected tag URI"
  | noEscapedOctet => "while parsing a tag, did not find URI escaped octet"
  | badLeadingOctet => "while parsing a tag, found an incorrect leading UTF-8 octet"
  | badTrailingOctet => "while parsing a tag, found an incorrect trailing UTF-8 octet"
  | badOctets => "while parsing a tag, found an invalid UTF-8 codepoint"
  | noDirectiveName => "while scanning a directive, could not find expected directive name"
  | badDirectiveName => "while scanning a directive, found unexpected non-alphabetical character"
  | noVersion => "while scanning a YAML directive, did not find expected version number"
  | noVersionPoint =>
    "while scanning a YAML directive, did not find expected digit or '.' character"
  | longVersion => "while scanning a YAML directive, found extremely long version number"
  | noHandleEnd => "while parsing a tag directive, did not find expected '!'"
  | noPrefixEnd => "while scanning TAG, did not find expected whitespace or line break"
  | noDirectiveEnd => "while scanning a directive, did not find expected comment or line break"
  | zeroIndentation => "while scanning a block scalar, found an indentation indicator equal to 0"
  | noHeaderEnd => "while scanning a block scalar, did not find expected comment or line break"
  | tabInIndentation =>
    "while scanning a block scalar, found a tab character where an indentation space is expected"
  | markInQuotes => "while scanning a quoted scalar, found unexpected document indicator"
  | openQuotes => "while scanning a quoted scalar, found unexpected end of stream"
  | unknownEscape => "while parsing a quoted scalar, found unknown escape character"
  | noHexNumber => "while parsing a quoted scalar, did not find expected hexadecimal number"
  | noEscapedCharacter =>
    "while parsing a quoted scalar, found invalid Unicode character escape code"
  | tabInPlain => "while scanning a plain scalar, found a tab"
  | noDocumentStart => "did not find expected <document start>"
  | unknownAnchor => "while parsing node, found unknown anchor"
  | noContent => "while parsing a node, did not find expected node content"
  | noBlockKey => "while parsing a block mapping, did not find expected key"
  | noBlockItem => "while parsing a block collection, did not find expected '-' indicator"
  | noFlowMapEnd => "while parsing a flow mapping, did not find expected ',' or '\x7d'"
  | noFlowListEnd => "while parsing a flow sequence, expected ',' or ']'"

/-- A cause with its place. -/
structure Fault where
  error : SyntaxError
  mark : Mark

end RecordFlow.Yaml
