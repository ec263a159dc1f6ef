import RecordFlow.Text.Digits
import RecordFlow.Yaml.Cursor

/-!
# Plain and quoted scalars

Plain and quoted scalars are made of words with gaps between them. A gap without line breaks stands
for its blanks. In a gap with line breaks the blanks do not count; a single break stands for a
space, and of several the first does not count.

## Main definitions

* `Yaml.Gap` — blanks and line breaks between words
* `Yaml.plainText` — a plain scalar
* `Yaml.quotedText` — a scalar in quotes
-/

namespace RecordFlow.Yaml

/-- What stands between two words. `joined` tells that a backslash stands in front of the first line
break, which then counts for nothing. -/
structure Gap where
  blanks : List Char := []
  breaks : Nat := 0
  joined : Bool := false

namespace Gap

/-- Whether a line ends in a gap. -/
def crossesLines (gap : Gap) : Bool := gap.joined || gap.breaks != 0

/-- What a gap stands for. -/
def text (gap : Gap) : List Char :=
  if gap.joined then List.replicate gap.breaks '\n'
  else match gap.breaks with
    | 0 => gap.blanks
    | 1 => [' ']
    | n + 1 => List.replicate n '\n'

/-- The gap from a place on, behind what was read of it. Where a line starts in front of the column
`least`, a tab is refused. -/
def read (least : Nat) (refusal : Fault) : (fuel : Nat) → Gap → Cursor → Except Fault (Gap × Cursor)
  | 0, gap, cursor => .ok (gap, cursor)
  | fuel + 1, gap, cursor =>
    if isBlank cursor.head then
      if gap.crossesLines then
        if cursor.head = '\t' ∧ cursor.mark.column < least then .error refusal
        else read least refusal fuel gap cursor.skip
      else read least refusal fuel { gap with blanks := gap.blanks ++ [cursor.head] } cursor.skip
    else if isBreak cursor.head then
      read least refusal fuel { gap with blanks := [], breaks := gap.breaks + 1 } cursor.skipBreak
    else .ok (gap, cursor)

end Gap

/-- The next word of a plain scalar. -/
def plainWord (inBrackets : Bool) : List Char → List Char
  | [] => []
  | c :: rest =>
    let next := rest.headD endChar
    if isBlankOrEnd c then []
    else if c = ':' ∧ (isBlankOrEnd next ∨ (inBrackets ∧ isFlowMark next)) then []
    else if inBrackets ∧ isFlowMark c then []
    else c :: plainWord inBrackets rest

/-- A plain scalar as far as it has been read: its text, the gap behind it, and the place. -/
structure PlainPart where
  text : List Char := []
  gap : Gap := {}
  cursor : Cursor

/-- The rest of a plain scalar. Further lines belong to it from the column `least` on. -/
def plainRest (inBrackets : Bool) (least : Nat) (start : Mark) : (fuel : Nat) →
    PlainPart → Except Fault PlainPart
  | 0, part => .ok part
  | fuel + 1, part =>
    if part.cursor.isAtDocumentMark || part.cursor.head = '#' then .ok part
    else
      let word := plainWord inBrackets part.cursor.rest
      let behind := part.cursor.advance word.length
      let part := if word.isEmpty then part
        else { text := part.text ++ part.gap.text ++ word, cursor := behind }
      if !isBlank behind.head && !isBreak behind.head then .ok part
      else do
        let (gap, cursor) ←
          part.gap.read least ⟨.tabInPlain, start⟩ (behind.rest.length + 1) behind
        let part := { part with gap, cursor }
        if !inBrackets && cursor.mark.column < least then return part
        else plainRest inBrackets least start fuel part

/-- A plain scalar from a place on. -/
def plainText (inBrackets : Bool) (least : Nat) (cursor : Cursor) : Except Fault PlainPart :=
  plainRest inBrackets least cursor.mark (cursor.rest.length + 1) { cursor }

/-- The number of hexadecimal digits behind the letter of an escape. -/
def hexLength? (c : Char) : Option Nat :=
  match c with
  | 'x' => some 2
  | 'u' => some 4
  | 'U' => some 8
  | _ => none

/-- The character of a one-letter escape. -/
def letterEscape? (c : Char) : Option Char :=
  match c with
  | '0' => some '\x00'
  | 'a' => some '\x07'
  | 'b' => some '\x08'
  | 't' => some '\t'
  | '\t' => some '\t'
  | 'n' => some '\n'
  | 'v' => some '\x0b'
  | 'f' => some '\x0c'
  | 'r' => some '\r'
  | 'e' => some '\x1b'
  | ' ' => some ' '
  | '"' => some '"'
  | '\'' => some '\''
  | '\\' => some '\\'
  | 'N' => some '\u0085'
  | '_' => some '\u00a0'
  | 'L' => some '\u2028'
  | 'P' => some '\u2029'
  | _ => none

/-- An escape behind its backslash: its character and its length. -/
def readEscape : List Char → Except SyntaxError (Char × Nat)
  | [] => .error .unknownEscape
  | c :: rest =>
    match letterEscape? c, hexLength? c with
    | some d, _ => .ok (d, 1)
    | none, some length =>
      let digits := rest.take length
      match Text.natInBase? 16 digits with
      | some n =>
        if digits.length < length then .error .noHexNumber
        else if n.isValidChar then .ok (Char.ofNat n, length + 1) else .error .noEscapedCharacter
      | none => .error .noHexNumber
    | none, none => .error .unknownEscape

/-- The next word of a scalar in quotes, in reverse order in front of what was read of it, and
whether a backslash and a line break end it. -/
def quotedWord (quote : Char) (start : Mark) : (fuel : Nat) → (read : List Char) → Cursor →
    Except Fault (List Char × Bool × Cursor)
  | 0, read, cursor => .ok (read, false, cursor)
  | fuel + 1, read, cursor =>
    let c := cursor.head
    let next := cursor.peek 1
    if isBlankOrEnd c then .ok (read, false, cursor)
    else if c = quote then
      -- Between single quotes, a quote is written twice.
      if quote = '\'' ∧ next = '\'' then
        quotedWord quote start fuel ('\'' :: read) (cursor.advance 2)
      else .ok (read, false, cursor)
    else if c = '\\' ∧ quote = '"' then
      if isBreak next then .ok (read, true, cursor.skip.skipBreak)
      else match readEscape (cursor.rest.drop 1) with
        | .ok (d, length) => quotedWord quote start fuel (d :: read) (cursor.advance (length + 1))
        | .error error => .error ⟨error, start⟩
    else quotedWord quote start fuel (c :: read) cursor.skip

/-- The rest of a scalar in quotes, behind the text that was read. -/
def quotedRest (quote : Char) (start : Mark) : (fuel : Nat) → (text : List Char) → Cursor →
    Except Fault (List Char × Cursor)
  | 0, text, cursor => .ok (text, cursor)
  | fuel + 1, text, cursor => do
    if cursor.isAtDocumentMark then .error ⟨.markInQuotes, start⟩
    if cursor.head = endChar then .error ⟨.openQuotes, start⟩
    let (word, joined, cursor) ← quotedWord quote start (cursor.rest.length + 1) [] cursor
    let text := text ++ word.reverse
    if cursor.head = quote then return (text, cursor.skip)
    -- No tab is refused in quotes.
    let (gap, cursor) ← Gap.read 0 ⟨.openQuotes, start⟩ (cursor.rest.length + 1) { joined } cursor
    quotedRest quote start fuel (text ++ gap.text) cursor

/-- A scalar in quotes, from its opening quote on. -/
def quotedText (cursor : Cursor) : Except Fault (List Char × Cursor) :=
  quotedRest cursor.head cursor.mark (cursor.rest.length + 1) [] cursor.skip

end RecordFlow.Yaml
