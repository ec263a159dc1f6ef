import RecordFlow.Pattern.Form
import RecordFlow.Text.Blank

/-!
# Reading patterns

The notation of patterns: literals, classes in brackets, groups, alternatives, repetitions, anchors
and flags. There is no look-around and there are no back references. A text that breaks a rule of
the notation is no pattern. Verbose patterns hold blanks and comments, which stand for nothing.

## Main definitions

* `Pattern.parseEscape?` — what stands behind a backslash
* `Pattern.parseBracket?` — a class in brackets
* `Pattern.parseForm?` — the written pattern of a text
-/

namespace RecordFlow.Pattern

open Text (CodeSet isBlank)

/-- Skips blanks and comments; `inComment` tells that a comment is open. -/
def skipComments : (inComment : Bool) → List Char → List Char
  | _, [] => []
  | true, c :: cs => skipComments (c != '\n') cs
  | false, c :: cs =>
    if isBlank c then skipComments false cs
    else if c = '#' then skipComments true cs
    else c :: cs

/-- Skips blanks and comments in a verbose pattern. -/
def skip (verbose : Bool) (cs : List Char) : List Char :=
  if verbose then skipComments false cs else cs

/-- Characters that have a meaning of their own. -/
def isMeta (c : Char) : Bool := "\\.+*?()|[]\x7b\x7d^$#&-~".toList.contains c

/-- Characters that may follow a backslash and stand for themselves. -/
def isEscapable (c : Char) : Bool :=
  isMeta c || (c.toNat < 0x80 && !c.isAlphanum && c != '<' && c != '>')

/-- What an escape stands for. -/
inductive Escape where
  | literal (c : Literal)
  | anchor (form : AnchorForm)
  | kind (negated : Bool) (kind : Kind)
  | property (negated : Bool) (set : CodeSet)

/-- What stands between braces, behind the opening one. -/
def readBraced (verbose inComment : Bool) (read : List Char) : List Char →
    Option (List Char × List Char)
  | [] => none
  | c :: cs =>
    if inComment then readBraced verbose (c != '\n') read cs
    else if verbose && isBlank c then readBraced verbose false read cs
    else if verbose && c == '#' then readBraced verbose true read cs
    else if c = '\x7d' then some (read.reverse, cs)
    else readBraced verbose false (c :: read) cs

/-- A number of so many hexadecimal digits. -/
def readHex (verbose : Bool) : (count value : Nat) → List Char → Option (Nat × List Char)
  | 0, value, cs => some (value, cs)
  | count + 1, value, cs =>
    match skip verbose cs with
    | [] => none
    | c :: rest => do readHex verbose count (value * 16 + (← Text.digitValue? 16 c)) rest

/-- The character of a code point. -/
def charOfCode? (code : Nat) : Option Char :=
  if h : code.isValidChar then some (Char.ofNatAux code h) else none

/-- A character by its number, behind the letter that gives the number of digits. -/
def parseHex? (verbose : Bool) (digits : Nat) (cs : List Char) : Option (Escape × List Char) :=
  match skip verbose cs with
  | '\x7b' :: rest => do
    let (body, rest) ← readBraced verbose false [] rest
    let c ← charOfCode? (← Text.natInBase? 16 body)
    return (.literal ⟨c, false⟩, rest)
  | rest => do
    let (code, rest) ← readHex verbose digits 0 rest
    let c ← charOfCode? code
    return (.literal ⟨c, digits == 2⟩, rest)

/-- A property, behind its letter. -/
def parseProperty? (verbose negated : Bool) (cs : List Char) : Option (Escape × List Char) :=
  match skip verbose cs with
  | [] => none
  | '\x7b' :: rest => do
    let (body, rest) ← readBraced verbose false [] rest
    return (.property negated (← property? body), rest)
  | c :: rest => do return (.property negated (← ofName? (String.singleton c)), rest)

/-- A word boundary, behind its letter. A brace without a name in it belongs to a repetition. -/
def parseBoundary? (verbose : Bool) (cs : List Char) : Option (Escape × List Char) :=
  match cs with
  | '\x7b' :: body =>
    match skip verbose body with
    | [] => none
    | c :: _ =>
      if !c.isAlpha && c != '-' then some (.anchor .boundary, cs)
      else do
        let (name, rest) ← readBraced verbose false [] body
        match String.ofList name with
        | "start" => return (.anchor .wordStart, rest)
        | "end" => return (.anchor .wordEnd, rest)
        | "start-half" => return (.anchor .halfStart, rest)
        | "end-half" => return (.anchor .halfEnd, rest)
        | _ => none
  | _ => some (.anchor .boundary, cs)

/-- An escape, behind its backslash. -/
def parseEscape? (verbose : Bool) (cs : List Char) : Option (Escape × List Char) :=
  match cs with
  | [] => none
  | c :: rest =>
    let char (c : Char) : Option (Escape × List Char) := some (.literal ⟨c, false⟩, rest)
    let anchor (form : AnchorForm) : Option (Escape × List Char) := some (.anchor form, rest)
    let kind (negated : Bool) (kind : Kind) : Option (Escape × List Char) :=
      some (.kind negated kind, rest)
    match c with
    | 'x' => parseHex? verbose 2 rest
    | 'u' => parseHex? verbose 4 rest
    | 'U' => parseHex? verbose 8 rest
    | 'p' => parseProperty? verbose false rest
    | 'P' => parseProperty? verbose true rest
    | 'd' => kind false .digit
    | 'D' => kind true .digit
    | 's' => kind false .space
    | 'S' => kind true .space
    | 'w' => kind false .word
    | 'W' => kind true .word
    | 'a' => char '\x07'
    | 'f' => char '\x0c'
    | 't' => char '\t'
    | 'n' => char '\n'
    | 'r' => char '\r'
    | 'v' => char '\x0b'
    | 'A' => anchor .textStart
    | 'z' => anchor .textEnd
    | 'b' => parseBoundary? verbose rest
    | 'B' => anchor .noBoundary
    | '<' => anchor .wordStart
    | '>' => anchor .wordEnd
    | _ => if isEscapable c then char c else none

/-- What has been read of a class: the operand so far with the operator behind it, and the items
that follow, the last one first. -/
structure ClassState where
  left : Option (ClassForm × SetOperator) := none
  items : List ClassForm := []

/-- The class as far as it has been read. -/
def ClassState.body (state : ClassState) : ClassForm :=
  let right := ClassForm.ofItems state.items.reverse
  match state.left with
  | some (left, operator) => .operator operator left right
  | none => right

/-- Adds an item. -/
def ClassState.add (state : ClassState) (item : ClassForm) : ClassState :=
  { state with items := item :: state.items }

/-- Starts the operand behind an operator. -/
def ClassState.operate (state : ClassState) (operator : SetOperator) : ClassState :=
  { left := some (state.body, operator) }

/-- One item of a class: a character, or a named set. -/
def parseClassItem? (verbose : Bool) (cs : List Char) : Option (Escape × List Char) :=
  match cs with
  | [] => none
  | '\\' :: rest => parseEscape? verbose rest
  | c :: rest => some (.literal ⟨c, false⟩, rest)

/-- An item that stands for itself. Anchors stand in no class. -/
def Escape.item? : Escape → Option ClassForm
  | literal c => some (.char c)
  | kind negated k => some (.kind negated k)
  | property negated set => some (.property negated set)
  | anchor _ => none

/-- A named set between `[:` and `:]`, behind its bracket. -/
def parseAsciiClass? (cs : List Char) : Option (ClassForm × List Char) :=
  match cs with
  | ':' :: rest =>
    let (negated, rest) := match rest with
      | '^' :: rest => (true, rest)
      | rest => (false, rest)
    let name := rest.takeWhile (· != ':')
    match rest.drop name.length with
    | ':' :: ']' :: rest => do return (.ascii negated (← asciiClass? (String.ofList name)), rest)
    | _ => none
  | _ => none

/-- The hyphens at the start of a class, which stand for themselves there. -/
def readHyphens (verbose : Bool) : (fuel : Nat) → List ClassForm → List Char →
    List ClassForm × List Char
  | 0, items, cs => (items, cs)
  | fuel + 1, items, cs =>
    match cs with
    | '-' :: rest => readHyphens verbose fuel (.char ⟨'-', false⟩ :: items) (skip verbose rest)
    | _ => (items, cs)

/-- The start of a class behind its bracket: whether it is negated, and the characters that
stand for themselves there. -/
def parseClassStart (verbose : Bool) (cs : List Char) : Bool × ClassState × List Char :=
  let (negated, cs) := match skip verbose cs with
    | '^' :: rest => (true, skip verbose rest)
    | rest => (false, rest)
  match readHyphens verbose cs.length [] cs with
  | ([], ']' :: rest) => (negated, { items := [.char ⟨']', false⟩] }, skip verbose rest)
  | (items, rest) => (negated, { items }, rest)

/-- What is taken to follow a hyphen, to tell whether it makes a range. In a verbose
pattern this is the first character that is neither a blank nor the sign of a comment, and
it may stand in the comment. -/
def peekBehind (verbose : Bool) (cs : List Char) : Option Char :=
  if !verbose then cs.head?
  else
    match cs.dropWhile isBlank with
    | [] => cs.head?
    | '#' :: rest => (rest.dropWhile isBlank).head?.or cs.head?
    | c :: _ => some c

/-- A range or a single item of a class. -/
def parseClassRange? (verbose : Bool) (cs : List Char) : Option (ClassForm × List Char) := do
  let (first, rest) ← parseClassItem? verbose cs
  let rest := skip verbose rest
  let single : Option (ClassForm × List Char) := first.item?.map fun item => (item, rest)
  match rest with
  | '-' :: behind =>
    let next := peekBehind verbose behind
    -- A hyphen at the end of a class or in front of another one makes no range.
    if next = some ']' ∨ next = some '-' then single
    else do
      let (last, rest) ← parseClassItem? verbose (skip verbose behind)
      match first, last with
      | .literal a, .literal b =>
        if a.char.toNat ≤ b.char.toNat then return (.range a b, rest) else none
      | _, _ => none
  | _ => single

/-- The rest of a class behind what `state` holds, up to its closing bracket. `room` is how many
more brackets may open in it. -/
def parseClass? : (fuel room : Nat) → (verbose : Bool) → ClassState → List Char →
    Option (ClassForm × List Char)
  | 0, _, _, _, _ => none
  | fuel + 1, room, verbose, state, cs =>
    match skip verbose cs with
    | [] => none
    | ']' :: rest => some (state.body, rest)
    | '[' :: rest =>
      match parseAsciiClass? rest with
      | some (item, rest) => parseClass? fuel room verbose (state.add item) rest
      -- What names no set is a class in the class.
      | none =>
        if room = 0 then none
        else do
          let (negated, inner, rest) := parseClassStart verbose rest
          let (body, rest) ← parseClass? fuel (room - 1) verbose inner rest
          parseClass? fuel room verbose (state.add (.bracket negated body)) rest
    | '&' :: '&' :: rest => parseClass? fuel room verbose (state.operate .inter) rest
    | '-' :: '-' :: rest => parseClass? fuel room verbose (state.operate .diff) rest
    | '~' :: '~' :: rest => parseClass? fuel room verbose (state.operate .symmDiff) rest
    | rest => do
      let (item, rest) ← parseClassRange? verbose rest
      parseClass? fuel room verbose (state.add item) rest

/-- A class in brackets, behind its opening bracket. -/
def parseBracket? (verbose : Bool) (cs : List Char) : Option (Form × List Char) := do
  let (negated, start, rest) := parseClassStart verbose cs
  let (body, rest) ← parseClass? (rest.length + 1) maxDepth verbose start rest
  return (.bracket negated body, rest)

/-- A flag by its letter. -/
def flag? (letter : Char) : Option Flag :=
  match letter with
  | 'i' => some .ignoreCase
  | 'm' => some .multiLine
  | 's' => some .dotAll
  | 'U' => some .shortFirst
  | 'u' => some .unicode
  | 'R' => some .crlf
  | 'x' => some .verbose
  | _ => none

/-- The letters of a group of flags, up to `:` or `)`, which stays. `dangling` tells
that a minus has no letter yet. -/
def parseFlags? (on dangling : Bool) (changes : FlagChanges) : List Char →
    Option (FlagChanges × List Char)
  | [] => none
  | c :: cs =>
    if c = ':' ∨ c = ')' then
      if dangling then none else some (changes.reverse, c :: cs)
    else if c = '-' then if on then parseFlags? false true changes cs else none
    else do
      let flag ← flag? c
      if changes.any fun (known, _) => known == flag then none
      else parseFlags? on false ((flag, on) :: changes) cs

/-- Whether a pattern is verbose behind a change of flags. -/
def verboseAfter (verbose : Bool) (changes : FlagChanges) : Bool :=
  (changes.lookup .verbose).getD verbose

/-- Whether a character starts the name of a group. -/
def startsName (c : Char) : Bool := c == '_' || (Text.Property.alphabetic .v17).holds c

/-- Whether a character goes on the name of a group. -/
def continuesName (c : Char) : Bool :=
  startsName c || c == '.' || c == '[' || c == ']' || [.nd, .nl, .no].contains (Text.categoryOf c)

/-- The name of a group, up to its closing angle bracket. -/
def parseGroupName? (names : List String) (cs : List Char) : Option (String × List Char) :=
  let name := cs.takeWhile (· != '>')
  match name, cs.drop name.length with
  | first :: others, _ :: rest =>
    let text := String.ofList name
    if startsName first && others.all continuesName && !names.contains text then some (text, rest)
    else none
  | _, _ => none

/-- The decimal digits at the start of a text, in reverse order, and the rest. -/
def readDigits (verbose inComment : Bool) (read : List Char) : List Char → List Char × List Char
  | [] => (read, [])
  | c :: cs =>
    if inComment then readDigits verbose (c != '\n') read cs
    else if verbose && isBlank c then readDigits verbose false read cs
    else if verbose && c == '#' then readDigits verbose true read cs
    else if c.isDigit then readDigits verbose false (c :: read) cs
    else (read, c :: cs)

/-- A decimal number with blanks around it. -/
def parseCount? (verbose : Bool) (cs : List Char) : Option (Nat × List Char) :=
  let (read, rest) := readDigits verbose false [] (cs.dropWhile isBlank)
  let n := Text.digitsValue read.reverse
  if read.isEmpty || Nat.pow 2 32 ≤ n then none else some (n, rest.dropWhile isBlank)

/-- The bounds of a repetition, behind its opening brace. -/
def parseBounds? (verbose : Bool) (cs : List Char) : Option (Nat × Option Nat × List Char) := do
  let (low, rest) ← parseCount? verbose (skip verbose cs)
  match rest with
  | '\x7d' :: rest => return (low, some low, rest)
  | ',' :: rest =>
    match skip verbose rest with
    | '\x7d' :: rest => return (low, none, rest)
    | rest =>
      let (high, rest) ← parseCount? verbose rest
      match rest with
      | '\x7d' :: rest => if low ≤ high then return (low, some high, rest) else none
      | _ => none
  | _ => none

/-- Skips the question mark of a repetition that prefers to be short. -/
def skipLazy (cs : List Char) : List Char :=
  match cs with
  | '?' :: rest => rest
  | rest => rest

/-- The state of a group: the alternatives before and the parts of the current one, both in reverse
order, and the names of groups met so far. -/
structure GroupState where
  verbose : Bool
  before : List Form := []
  parts : List Form := []
  names : List String := []

/-- The current alternative. -/
def GroupState.current (state : GroupState) : Form := .ofParts state.parts.reverse

/-- The pattern of a group that ends here. -/
def GroupState.written (state : GroupState) : Form :=
  .ofChoices (state.current :: state.before).reverse

/-- Adds a part. -/
def GroupState.push (state : GroupState) (part : Form) : GroupState :=
  { state with parts := part :: state.parts }

/-- Starts the next alternative. -/
def GroupState.alternate (state : GroupState) : GroupState :=
  { state with before := state.current :: state.before, parts := [] }

/-- Repeats the last part, if there is one that can be repeated. What sets flags cannot. -/
def GroupState.repeatLast? (state : GroupState) (low : Nat) (high : Option Nat) :
    Option GroupState :=
  match state.parts with
  | [] => none
  | .flags _ :: _ => none
  | part :: parts => some { state with parts := .repeated low high part :: parts }

/-- What opens a group, behind its parenthesis: a group that keeps its place or not and changes
flags for its inside, or a change of flags for the rest of the group around it. -/
inductive Opening where
  | group (captures : Bool) (changes : FlagChanges) (names : List String) (rest : List Char)
  | setFlags (changes : FlagChanges) (rest : List Char)

/-- The opening of a group, behind its parenthesis. -/
def parseOpening? (state : GroupState) (cs : List Char) : Option Opening :=
  let named (rest : List Char) : Option Opening := do
    let (name, rest) ← parseGroupName? state.names rest
    return .group true [] (name :: state.names) rest
  match skip state.verbose cs with
  | '?' :: '=' :: _ => none
  | '?' :: '!' :: _ => none
  | '?' :: '<' :: '=' :: _ => none
  | '?' :: '<' :: '!' :: _ => none
  | '?' :: 'P' :: '<' :: rest => named rest
  | '?' :: '<' :: rest => named rest
  | '?' :: rest => do
    let (changes, rest) ← parseFlags? true false [] rest
    match rest with
    | ':' :: rest => return .group false changes state.names rest
    | _ :: rest => if changes.isEmpty then none else return .setFlags changes rest
    | [] => none
  | rest => some (.group true [] state.names rest)

/-- The part that an escape outside of brackets stands for. -/
def Escape.part : Escape → Form
  | literal c => .literal c
  | anchor form => .anchor form
  | kind negated k => .kind negated k
  | property negated set => .property negated set

/-- The rest of a group from a state on, up to its closing parenthesis or the end of the text.
`room` is how many more groups may open in it. -/
def parseGroup? : (fuel room : Nat) → GroupState → List Char →
    Option (Form × List String × List Char)
  | 0, _, _, _ => none
  | fuel + 1, room, state, cs =>
    let verbose := state.verbose
    let continueWith (part : Form) (rest : List Char) :=
      parseGroup? fuel room (state.push part) rest
    let repeated (low : Nat) (high : Option Nat) (rest : List Char) := do
      let state ← state.repeatLast? low high
      parseGroup? fuel room state (skipLazy rest)
    match skip verbose cs with
    | [] => some (state.written, state.names, [])
    | ')' :: rest => some (state.written, state.names, ')' :: rest)
    | '|' :: rest => parseGroup? fuel room state.alternate rest
    | '(' :: rest => do
      match ← parseOpening? state rest with
      | .setFlags changes rest =>
        parseGroup? fuel room
          { state.push (.flags changes) with verbose := verboseAfter verbose changes } rest
      | .group captures changes names rest =>
        if room = 0 then none
        else
          let inner : GroupState := { verbose := verboseAfter verbose changes, names }
          let (sub, names, rest) ← parseGroup? fuel (room - 1) inner rest
          match rest with
          | ')' :: rest =>
            parseGroup? fuel room { state.push (.group captures changes sub) with names } rest
          | _ => none
    | '[' :: rest => do
      let (bracket, rest) ← parseBracket? verbose rest
      continueWith bracket rest
    | '*' :: rest => repeated 0 none rest
    | '+' :: rest => repeated 1 none rest
    | '?' :: rest => repeated 0 (some 1) rest
    | '\x7b' :: rest => do
      -- Bounds are only read where there is something to repeat.
      let _ ← state.repeatLast? 0 none
      let (low, high, rest) ← parseBounds? verbose rest
      repeated low high (skip verbose rest)
    | '.' :: rest => continueWith .dot rest
    | '^' :: rest => continueWith (.anchor .lineStart) rest
    | '$' :: rest => continueWith (.anchor .lineEnd) rest
    | '\\' :: rest => do
      let (escape, rest) ← parseEscape? verbose rest
      continueWith escape.part rest
    | c :: rest => continueWith (.literal ⟨c, false⟩) rest

/-- The written pattern of a text, if it follows the notation and nests no deeper than it may. -/
def parseForm? (text : String) : Option Form :=
  let cs := text.toList
  match parseGroup? (cs.length + 1) maxDepth { verbose := false } cs with
  | some (s, _, []) => if s.depth ≤ maxDepth then some s else none
  | _ => none

end RecordFlow.Pattern
