import RecordFlow.Yaml.BlockScalar
import RecordFlow.Yaml.Tag

/-!
# Tokens of markup texts

The tokens of a text tell its structure without its layout: where a block starts and ends follows
from indentation. What turns out to be a key, because a colon follows it, gets a key token in front
of it, so a token can only be handed on when nothing at its place may become a key any more. A key
that is told by its colon alone fits on one line and has at most 1024 characters.

## Main definitions

* `Yaml.Token` — a token with its place
* `Yaml.Lexer` — what has been read of a text, with the tokens that still wait
* `Yaml.Lexer.step` — reads one more token
* `Yaml.tokens` — the tokens of a text, and the fault that ends them
-/

namespace RecordFlow.Yaml

/-- The kinds of tokens. -/
inductive TokenKind where
  | streamEnd
  | directive
  | documentStart
  | documentEnd
  | blockListStart
  | blockMapStart
  | blockEnd
  | flowListStart
  | flowListEnd
  | flowMapStart
  | flowMapEnd
  | blockItem
  | flowItem
  | key
  | value
  | alias (name : String)
  | anchor (name : String)
  | tag (t : Tag)
  | scalar (text : String) (plain : Bool)

/-- A token with its place. -/
structure Token where
  kind : TokenKind
  mark : Mark

/-- A place where a key may start. `number` counts the tokens in front of it, and a key that is
`required` is a fault if it is none. -/
structure PossibleKey where
  number : Nat
  mark : Mark
  required : Bool

/-- What has been read of a text: the place, the tokens that wait, and how many were handed on.
`indent` is the first column that is further to the right than the innermost block, zero outside of
blocks, and `outer` are those of the blocks around it. `keys` holds, for each level of brackets,
what may become a key, and `adjacent` is the place behind the last scalar in quotes, where a colon
may stand without a blank behind it. -/
structure Lexer where
  cursor : Cursor
  waiting : List Token := []
  taken : Nat := 0
  indent : Nat := 0
  outer : List Nat := []
  keyAllowed : Bool := true
  key : Option PossibleKey := none
  keys : List (Option PossibleKey) := []
  adjacent : Option Nat := none
  ended : Bool := false

/-- How many brackets may be open at once. -/
def bracketLimit : Nat := 255

/-- How many characters a key has at most. -/
def keyLimit : Nat := 1024

namespace Lexer

/-- How many brackets are open. -/
def level (lexer : Lexer) : Nat := lexer.keys.length

/-- Whether the place is not in brackets. -/
def inBlock (lexer : Lexer) : Bool := lexer.keys.isEmpty

/-- Adds a token. -/
def push (lexer : Lexer) (kind : TokenKind) (mark : Mark) : Lexer :=
  { lexer with waiting := lexer.waiting ++ [⟨kind, mark⟩] }

/-- Adds a token in front of the waiting token with a number. -/
def insert (lexer : Lexer) (number : Nat) (kind : TokenKind) (mark : Mark) : Lexer :=
  { lexer with waiting := lexer.waiting.insertIdx (number - lexer.taken) ⟨kind, mark⟩ }

/-- Adds the token of some characters and goes behind them. -/
def take (lexer : Lexer) (kind : TokenKind) (count : Nat) : Lexer :=
  { lexer.push kind lexer.cursor.mark with cursor := lexer.cursor.advance count }

/-- A fault at the place. -/
def fault {α : Type} (lexer : Lexer) (error : SyntaxError) :
    Except Fault α := lexer.cursor.fault error

/-- Skips blanks, line breaks and comments. Where a key may start, a tab
outside of brackets is content. -/
def skipBlanks : (fuel : Nat) → Lexer → Lexer
  | 0, lexer => lexer
  | fuel + 1, lexer =>
    let cursor := lexer.cursor
    let c := cursor.head
    if c = ' ' ∨ (c = '\t' ∧ (!lexer.inBlock ∨ !lexer.keyAllowed)) then
      skipBlanks fuel { lexer with cursor := cursor.skip }
    else if isBreak c then
      skipBlanks fuel
        { lexer with cursor := cursor.skipBreak, keyAllowed := lexer.keyAllowed || lexer.inBlock }
    else if c = '#' then skipBlanks fuel { lexer with cursor := cursor.skipToLineEnd }
    else lexer

/-- Whether something can no longer become a key at a place. -/
def PossibleKey.isStale (key : PossibleKey) (mark : Mark) : Bool :=
  key.mark.line < mark.line || key.mark.index + keyLimit < mark.index

/-- Gives up what can no longer become a key. -/
def dropStale (lexer : Lexer) : Except Fault Lexer :=
  let isStale (key : Option PossibleKey) : Bool :=
    key.any fun key => PossibleKey.isStale key lexer.cursor.mark
  if (lexer.key :: lexer.keys).any fun key => isStale key && key.any (·.required) then
    lexer.fault .expectedColon
  else
    let fresh (key : Option PossibleKey) : Option PossibleKey := if isStale key then none else key
    .ok { lexer with key := fresh lexer.key, keys := lexer.keys.map fresh }

/-- Gives up what may become a key at this level of brackets. -/
def dropKey (lexer : Lexer) : Except Fault Lexer :=
  if lexer.key.any (·.required) then lexer.fault .expectedName else .ok { lexer with key := none }

/-- Notes that what comes next may become a key. -/
def noteKey (lexer : Lexer) : Except Fault Lexer := do
  if !lexer.keyAllowed then return lexer
  let mark := lexer.cursor.mark
  let required := !lexer.inBlock && lexer.indent == mark.column + 1
  let number := lexer.taken + lexer.waiting.length
  let lexer ← lexer.dropKey
  return { lexer with key := some { number, mark, required } }

/-- Ends the blocks that a place is not part of; `indent` is the first
column behind their content. -/
def endBlocks (indent : Nat) : (outer : List Nat) → Lexer → Lexer
  | [], lexer => lexer
  | before :: outer, lexer =>
    if lexer.inBlock && indent < lexer.indent then
      endBlocks indent outer { lexer.push .blockEnd lexer.cursor.mark with indent := before, outer }
    else lexer

/-- Ends the blocks that a column is not part of. -/
def unroll (lexer : Lexer) (indent : Nat) : Lexer := lexer.endBlocks indent lexer.outer

/-- Starts a block in a column that is further to the right. Its token comes in front of the waiting
token with a number, or last. -/
def roll (lexer : Lexer) (column : Nat) (number : Option Nat)
    (kind : TokenKind) (mark : Mark) : Lexer :=
  if lexer.inBlock && lexer.indent ≤ column then
    let lexer := match number with
      | some number => lexer.insert number kind mark
      | none => lexer.push kind mark
    { lexer with indent := column + 1, outer := lexer.indent :: lexer.outer }
  else lexer

/-- What starts or ends a document, or ends the text. -/
def leaveBlocks (lexer : Lexer) : Except Fault Lexer := do
  return { ← (lexer.unroll 0).dropKey with keyAllowed := false }

/-- Ends the text. The last line ends with it. -/
def finish (lexer : Lexer) : Except Fault Lexer := do
  let mark := lexer.cursor.mark
  let mark := if mark.column = 0 then mark else { mark with line := mark.line + 1, column := 0 }
  let lexer ← { lexer with cursor := { lexer.cursor with mark } }.leaveBlocks
  return { lexer.push .streamEnd mark with ended := true }

/-- Reads a directive. -/
def directive (lexer : Lexer) : Except Fault Lexer := do
  let lexer ← lexer.leaveBlocks
  let cursor ← readDirective lexer.cursor
  return { lexer.push .directive lexer.cursor.mark with cursor }

/-- Opens a list or a map in brackets. -/
def openBracket (lexer : Lexer) (kind : TokenKind) : Except Fault Lexer := do
  let lexer ← lexer.noteKey
  if lexer.level = bracketLimit then lexer.fault .tooDeep
  return { lexer.take kind 1 with key := none, keys := lexer.key :: lexer.keys, keyAllowed := true }

/-- Closes a list or a map in brackets. -/
def closeBracket (lexer : Lexer) (kind : TokenKind) : Except Fault Lexer := do
  let lexer := { (← lexer.dropKey).take kind 1 with keyAllowed := false }
  match lexer.keys with
  | [] => return lexer
  | key :: keys => return { lexer with key, keys }

/-- Reads a comma. -/
def flowItem (lexer : Lexer) : Except Fault Lexer := do
  return { (← lexer.dropKey).take .flowItem 1 with keyAllowed := true }

/-- Reads the hyphen of an item. -/
def blockItem (lexer : Lexer) : Except Fault Lexer := do
  if !lexer.inBlock then lexer.fault .noItemInBrackets
  if !lexer.keyAllowed then lexer.fault .noItemHere
  let mark := lexer.cursor.mark
  let lexer ← (lexer.roll mark.column none .blockListStart mark).dropKey
  return { lexer.take .blockItem 1 with keyAllowed := true }

/-- Reads a question mark that starts a key. -/
def explicitKey (lexer : Lexer) : Except Fault Lexer := do
  if lexer.inBlock && !lexer.keyAllowed then lexer.fault .noKeyHere
  let mark := lexer.cursor.mark
  let lexer ← (lexer.roll mark.column none .blockMapStart mark).dropKey
  return { lexer.take .key 1 with keyAllowed := lexer.inBlock }

/-- Reads a colon in front of a value. What may become a key becomes one. -/
def value (lexer : Lexer) : Except Fault Lexer := do
  let mark := lexer.cursor.mark
  match lexer.key with
  | some key =>
    let lexer := lexer.insert key.number .key key.mark
    let lexer := lexer.roll key.mark.column (some key.number) .blockMapStart mark
    return { lexer.take .value 1 with key := none, keyAllowed := false }
  | none =>
    if lexer.inBlock && !lexer.keyAllowed then lexer.fault .noValueHere
    let lexer := lexer.roll mark.column none .blockMapStart mark
    return { lexer.take .value 1 with keyAllowed := lexer.inBlock }

/-- Reads an alias or an anchor. -/
def anchor (lexer : Lexer) (kind : String → TokenKind) : Except Fault Lexer := do
  let lexer ← lexer.noteKey
  let (name, cursor) ← readAnchor lexer.cursor
  return { lexer.push (kind name) lexer.cursor.mark with cursor, keyAllowed := false }

/-- Reads a tag. -/
def tag (lexer : Lexer) : Except Fault Lexer := do
  let lexer ← lexer.noteKey
  let (tag, cursor) ← readTag lexer.cursor
  return { lexer.push (.tag tag) lexer.cursor.mark with cursor, keyAllowed := false }

/-- Reads a block of lines. -/
def block (lexer : Lexer) : Except Fault Lexer := do
  let lexer ← lexer.noteKey
  let (text, mark, cursor) ← blockText lexer.indent lexer.cursor
  return { lexer.push (.scalar (String.ofList text) false) mark with cursor, keyAllowed := true }

/-- Reads a scalar in quotes. -/
def quoted (lexer : Lexer) : Except Fault Lexer := do
  let lexer ← lexer.noteKey
  let (text, cursor) ← quotedText lexer.cursor
  return { lexer.push (.scalar (String.ofList text) false) lexer.cursor.mark with
    cursor, keyAllowed := false, adjacent := some cursor.mark.index }

/-- Reads a plain scalar. -/
def plain (lexer : Lexer) : Except Fault Lexer := do
  let lexer ← lexer.noteKey
  let part ← plainText (!lexer.inBlock) lexer.indent lexer.cursor
  return { lexer.push (.scalar (String.ofList part.text) true) lexer.cursor.mark with
    cursor := part.cursor, keyAllowed := part.gap.crossesLines }

/-- Whether the colon here stands in front of a value. -/
def isValueMark (lexer : Lexer) : Bool :=
  let next := lexer.cursor.peek 1
  isBlankOrEnd next ||
    (!lexer.inBlock && (isFlowMark next || lexer.adjacent == some lexer.cursor.mark.index))

/-- Reads a token that is at the place. -/
def token (lexer : Lexer) : Except Fault Lexer :=
  let c := lexer.cursor.head
  let next := lexer.cursor.peek 1
  match c with
  | '[' => lexer.openBracket .flowListStart
  | '\x7b' => lexer.openBracket .flowMapStart
  | ']' => lexer.closeBracket .flowListEnd
  | '\x7d' => lexer.closeBracket .flowMapEnd
  | ',' => lexer.flowItem
  | '*' => lexer.anchor .alias
  | '&' => lexer.anchor .anchor
  | '!' => lexer.tag
  | '\'' => lexer.quoted
  | '"' => lexer.quoted
  | _ =>
    if c = '-' ∧ isBlankOrEnd next then lexer.blockItem
    else if c = '?' ∧ isBlankOrEnd next then lexer.explicitKey
    else if c = ':' ∧ lexer.isValueMark then lexer.value
    else if (c = '|' ∨ c = '>') ∧ lexer.inBlock then lexer.block
    else if c = '%' ∨ c = '@' ∨ c = '\x60' then lexer.fault (.strayCharacter c)
    else lexer.plain

/-- Reads one more token, and the ends of blocks in front of it. -/
def step (lexer : Lexer) : Except Fault Lexer := do
  let lexer ← (lexer.skipBlanks (lexer.cursor.rest.length + 1)).dropStale
  let cursor := lexer.cursor
  let lexer := lexer.unroll (cursor.mark.column + 1)
  if cursor.head = endChar then lexer.finish
  else if cursor.mark.column = 0 ∧ cursor.head = '%' then lexer.directive
  else if cursor.isDocumentMark '-' then return (← lexer.leaveBlocks).take .documentStart 3
  else if cursor.isDocumentMark '.' then return (← lexer.leaveBlocks).take .documentEnd 3
  else lexer.token

/-- Whether the first waiting token may still turn out to be a key. -/
def isUndecided (lexer : Lexer) : Bool :=
  (lexer.key :: lexer.keys).any fun key => key.any (·.number == lexer.taken)

/-- Reads on until the first waiting token can be handed on. -/
def fill : (fuel : Nat) → Lexer → Except Fault Lexer
  | 0, lexer => .ok lexer
  | fuel + 1, lexer => do
    if lexer.waiting.isEmpty then fill fuel (← lexer.step)
    else
      let lexer ← lexer.dropStale
      if lexer.isUndecided then fill fuel (← lexer.step) else return lexer

end Lexer

/-- The tokens that a lexer hands on, and the fault that ends them. -/
def tokensFrom : (fuel : Nat) → Lexer → List Token × Option Fault
  | 0, _ => ([], none)
  | fuel + 1, lexer =>
    if lexer.ended && lexer.waiting.isEmpty then ([], none)
    else match lexer.fill (lexer.cursor.rest.length + 2) with
      | .error fault => ([], some fault)
      | .ok lexer =>
        match lexer.waiting with
        | [] => ([], none)
        | token :: waiting =>
          let (tokens, fault) := tokensFrom fuel { lexer with waiting, taken := lexer.taken + 1 }
          (token :: tokens, fault)

/-- The tokens of a text, and the fault that ends them. Every character
gives rise to at most five. -/
def tokens (text : List Char) : List Token × Option Fault :=
  tokensFrom (5 * text.length + 8) { cursor := .ofText text }

end RecordFlow.Yaml
