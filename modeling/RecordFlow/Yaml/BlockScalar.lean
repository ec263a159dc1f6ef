import RecordFlow.Yaml.Scalar

/-!
# Blocks of lines

A block scalar is a header and the lines below it that are indented enough. A literal
block keeps its line breaks; a folded one turns a single break between two lines that
start with a word into a space.

## Main definitions

* `Yaml.BlockHeader` — indentation and chomping
* `Yaml.blockText` — the text of a block
-/

namespace RecordFlow.Yaml

/-- What becomes of the line breaks at the end of a block. -/
inductive Chomping where
  | clip
  | strip
  | keep

/-- The header of a block; without an `indentation` the block is indented as its first line is. -/
structure BlockHeader where
  chomping : Chomping := .clip
  indentation : Nat := 0

/-- The chomping that a character asks for. -/
def chomping? (c : Char) : Option Chomping :=
  match c with
  | '+' => some .keep
  | '-' => some .strip
  | _ => none

namespace BlockHeader

/-- Reads what a header says of the indentation. -/
def readIndentation (start : Mark) (header : BlockHeader) (cursor : Cursor) :
    Except Fault (BlockHeader × Cursor) :=
  if cursor.head = '0' then .error ⟨.zeroIndentation, start⟩
  else if cursor.head.isDigit then
    .ok ({ header with indentation := Text.decimalValue cursor.head }, cursor.skip)
  else .ok (header, cursor)

/-- Reads what a header says of the chomping. -/
def readChomping (header : BlockHeader) (cursor : Cursor) : BlockHeader × Cursor :=
  match chomping? cursor.head with
  | some chomping => ({ header with chomping }, cursor.skip)
  | none => (header, cursor)

/-- Reads a header, in which either part may come first, with the end of its line. -/
def read (start : Mark) (cursor : Cursor) : Except Fault (BlockHeader × Cursor) := do
  let (header, cursor) ←
    if (chomping? cursor.head).isSome then
      let (header, cursor) := ({} : BlockHeader).readChomping cursor
      header.readIndentation start cursor
    else do
      let (header, cursor) ← ({} : BlockHeader).readIndentation start cursor
      if header.indentation = 0 then pure (header, cursor) else pure (header.readChomping cursor)
  let cursor := cursor.skipToLineEnd
  if isBreakOrEnd cursor.head then return (header, cursor.skipBreak)
  else .error ⟨.noHeaderEnd, start⟩

end BlockHeader

/-- Skips empty lines and indentation. An `indentation` of zero is still unknown, and
`deepest` is the last column that was reached in search of it. Gives the deepest column
and the number of empty lines. -/
def skipIndentation (indentation : Nat) : (fuel : Nat) → (deepest breaks : Nat) → Cursor →
    Except Fault (Nat × Nat × Cursor)
  | 0, deepest, breaks, cursor => .ok (deepest, breaks, cursor)
  | fuel + 1, deepest, breaks, cursor =>
    let spaces := (cursor.rest.takeWhile (· == ' ')).length
    let cursor := cursor.advance
      (if indentation = 0 then spaces else min spaces (indentation - cursor.mark.column))
    let deepest := max deepest cursor.mark.column
    if cursor.head = '\t' ∧ (indentation = 0 ∨ cursor.mark.column < indentation) then
      cursor.fault .tabInIndentation
    else if isBreak cursor.head then skipIndentation indentation fuel deepest
      (breaks + 1) cursor.skipBreak
    else .ok (deepest, breaks, cursor)

/-- A block as far as it has been read. Behind its text come a line break, unless there is no line
yet, and `empty` empty lines. -/
structure BlockPart where
  text : List Char := []
  hasBreak : Bool := false
  empty : Nat
  keepsBreak : Bool := false
  cursor : Cursor

/-- What the line breaks in front of a line stand for. -/
def BlockPart.separator (part : BlockPart) (folds startsBlank : Bool) : List Char :=
  let folded := folds && part.hasBreak && !part.keepsBreak && !startsBlank
  let first := if folded then (if part.empty = 0 then [' '] else [])
    else if part.hasBreak then ['\n'] else []
  first ++ List.replicate part.empty '\n'

/-- Reads the lines of a block that is indented by `indentation`. -/
def blockLines (folds : Bool) (indentation : Nat) : (fuel : Nat) →
    BlockPart → Except Fault BlockPart
  | 0, part => .ok part
  | fuel + 1, part =>
    let start := part.cursor
    if start.mark.column ≠ indentation ∨ start.head = endChar then .ok part
    else
      let startsBlank := isBlank start.head
      let (line, cursor) := start.run fun c => !isBreakOrEnd c
      let text := part.text ++ part.separator folds startsBlank ++ line
      if cursor.head = endChar then .ok { text, empty := 0, cursor }
      else do
        let (_, empty, cursor) ←
          skipIndentation indentation (cursor.rest.length + 1) 0 0 cursor.skipBreak
        blockLines folds indentation fuel
          { text, hasBreak := true, empty, keepsBreak := startsBlank, cursor }

/-- A block from its mark on: its text, the place where its lines start, and the place behind it.
`outer` is the column after the one that the block is part of, or zero. -/
def blockText (outer : Nat) (cursor : Cursor) : Except Fault (List Char × Mark × Cursor) := do
  let folds := cursor.head == '>'
  let (header, cursor) ← BlockHeader.read cursor.mark cursor.skip
  let known := if header.indentation = 0 then 0 else outer - 1 + header.indentation
  let (deepest, empty, cursor) ← skipIndentation known (cursor.rest.length + 1) 0 0 cursor
  let indentation := if known = 0 then max (max deepest outer) 1 else known
  let part ← blockLines folds indentation (cursor.rest.length + 1) { empty, cursor }
  let lineBreak := if part.hasBreak then ['\n'] else []
  let ending := match header.chomping with
    | .strip => []
    | .clip => lineBreak
    | .keep => lineBreak ++ List.replicate part.empty '\n'
  return (part.text ++ ending, cursor.mark, part.cursor)

end RecordFlow.Yaml
