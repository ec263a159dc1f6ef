import RecordFlow.Text.Digits
import RecordFlow.Yaml.Cursor

/-!
# Tags, anchors and directives

What stands in front of a node or of a document. A tag names the kind of a node by a handle and a
name behind it; an anchor gives a node a name; a directive says how a document is written.

## Main definitions

* `Yaml.Tag`, `Yaml.readTag` — tags
* `Yaml.readAnchor` — anchors, and references to them
* `Yaml.readDirective` — the line of a directive
-/

namespace RecordFlow.Yaml

/-- A tag: the mark that it begins with, and its name. -/
structure Tag where
  handle : String
  name : String

/-- Whether a character may be part of the name of a tag. -/
def isTagChar (c : Char) : Bool := isNameChar c || ";/?:@&=+$,.!~*'()[]%".toList.contains c

/-- How many bytes a character has whose first byte is given. -/
def escapedLength? (octet : Nat) : Option Nat :=
  if octet < 0x80 then some 1
  else if 0xC0 ≤ octet ∧ octet < 0xE0 then some 2
  else if 0xE0 ≤ octet ∧ octet < 0xF0 then some 3
  else if 0xF0 ≤ octet ∧ octet < 0xF8 then some 4
  else none

/-- The byte of an escape: a percent sign and two digits. -/
def escapedOctet? (cs : List Char) : Option Nat :=
  match cs with
  | '%' :: a :: b :: _ => Text.natInBase? 16 [a, b]
  | _ => none

/-- Reads the `count` bytes behind the first one of an escaped character.
Bytes are joined as they are. -/
def readTrailing (start : Mark) : (count : Nat) → (code : Nat) → Cursor →
    Except Fault (Nat × Cursor)
  | 0, code, cursor => .ok (code, cursor)
  | count + 1, code, cursor =>
    match escapedOctet? cursor.rest with
    | none => .error ⟨.noEscapedOctet, start⟩
    | some octet =>
      if 0x80 ≤ octet ∧ octet < 0xC0 then
        readTrailing start count (code * 256 + octet) (cursor.advance 3)
      else .error ⟨.badTrailingOctet, start⟩

/-- Reads an escaped character. -/
def readEscapedChar (start : Mark) (cursor : Cursor) : Except Fault (Char × Cursor) :=
  match escapedOctet? cursor.rest with
  | none => .error ⟨.noEscapedOctet, start⟩
  | some octet =>
    match escapedLength? octet with
    | none => .error ⟨.badLeadingOctet, start⟩
    | some length => do
      let (code, cursor) ← readTrailing start (length - 1) octet (cursor.advance 3)
      if code.isValidChar then return (Char.ofNat code, cursor) else .error ⟨.badOctets, start⟩

/-- The rest of the name of a tag. -/
def readTagChars (start : Mark) : (fuel : Nat) → Cursor → Except Fault (List Char × Cursor)
  | 0, cursor => .ok ([], cursor)
  | fuel + 1, cursor => do
    if !isTagChar cursor.head then return ([], cursor)
    let (c, cursor) ←
      if cursor.head = '%' then readEscapedChar start cursor else pure (cursor.head, cursor.skip)
    let (chars, cursor) ← readTagChars start fuel cursor
    return (c :: chars, cursor)

/-- The name of a tag. `handle` was read in front of it; without it the name may not be empty. -/
def readTagName (start : Mark) (handle : List Char) (cursor : Cursor) :
    Except Fault (List Char × Cursor) := do
  let (chars, behind) ← readTagChars start (cursor.rest.length + 1) cursor
  if handle.isEmpty && chars.isEmpty then .error ⟨.noTagName, start⟩
  else return (handle.drop 1 ++ chars, behind)

/-- A handle: an exclamation mark, a name and, maybe, another mark. -/
def readHandle (inDirective : Bool) (start : Mark) (cursor : Cursor) :
    Except Fault (List Char × Cursor) :=
  if cursor.head ≠ '!' then .error ⟨.noTagMark, start⟩
  else
    let (name, behind) := cursor.skip.run isNameChar
    let handle := '!' :: name
    if behind.head = '!' then .ok (handle ++ ['!'], behind.skip)
    else if inDirective && !name.isEmpty then .error ⟨.noHandleEnd, start⟩
    else .ok (handle, behind)

/-- A tag without what follows it: in angle brackets, with a handle, or a name alone. -/
def readTagText (start : Mark) (cursor : Cursor) : Except Fault (Tag × Cursor) := do
  if cursor.peek 1 = '<' then
    let (name, cursor) ← readTagName start [] (cursor.advance 2)
    if cursor.head = '>' then return (⟨"", String.ofList name⟩, cursor.skip)
    else .error ⟨.openVerbatimTag, start⟩
  else
    let (handle, cursor) ← readHandle false start cursor
    if 2 ≤ handle.length ∧ handle.getLast? = some '!' then
      let (name, cursor) ← readTagName start [] cursor
      return (⟨String.ofList handle, String.ofList name⟩, cursor)
    else
      let (name, cursor) ← readTagName start handle cursor
      return (if name.isEmpty then ⟨"", "!"⟩ else ⟨"!", String.ofList name⟩, cursor)

/-- A tag. A blank or the end of a line follows it. -/
def readTag (cursor : Cursor) : Except Fault (Tag × Cursor) := do
  let (tag, behind) ← readTagText cursor.mark cursor
  if isBlankOrEnd behind.head then return (tag, behind) else cursor.fault .noTagEnd

/-- The name of an anchor, from its mark on. -/
def readAnchor (cursor : Cursor) : Except Fault (String × Cursor) :=
  let (name, behind) := cursor.skip.run isNameChar
  if !name.isEmpty && (isBlankOrEnd behind.head || "?:,]\x7d%@`".toList.contains behind.head) then
    .ok (String.ofList name, behind)
  else cursor.fault .badAnchor

/-- A number of a version, of at most nine digits. -/
def skipVersionNumber (start : Mark) (cursor : Cursor) : Except Fault Cursor :=
  let (digits, behind) := cursor.run Char.isDigit
  if 9 < digits.length then .error ⟨.longVersion, start⟩
  else if digits.isEmpty then .error ⟨.noVersion, start⟩
  else .ok behind

/-- The content of a directive that tells a version. -/
def skipVersion (start : Mark) (cursor : Cursor) : Except Fault Cursor := do
  let cursor ← skipVersionNumber start (cursor.skipWhile isBlank)
  if cursor.head = '.' then skipVersionNumber start cursor.skip else .error ⟨.noVersionPoint, start⟩

/-- The content of a directive that declares a handle. -/
def skipHandle (start : Mark) (cursor : Cursor) : Except Fault Cursor := do
  let (_, cursor) ← readHandle true start (cursor.skipWhile isBlank)
  let (_, cursor) ← readTagName start [] (cursor.skipWhile isBlank)
  if isBlankOrEnd cursor.head then return cursor else .error ⟨.noPrefixEnd, start⟩

/-- The place behind the line of a directive, from its percent sign on. -/
def readDirective (cursor : Cursor) : Except Fault Cursor := do
  let start := cursor.mark
  let (name, behind) := cursor.skip.run isNameChar
  if name.isEmpty then cursor.skip.fault .noDirectiveName
  if !isBlankOrEnd behind.head then cursor.skip.fault .badDirectiveName
  let behind ← match String.ofList name with
    | "YAML" => skipVersion start behind
    | "TAG" => skipHandle start behind
    | _ => pure (behind.skipWhile fun c => !isBreakOrEnd c)
  let behind := behind.skipToLineEnd
  if isBreakOrEnd behind.head then return behind.skipBreak else .error ⟨.noDirectiveEnd, start⟩

end RecordFlow.Yaml
