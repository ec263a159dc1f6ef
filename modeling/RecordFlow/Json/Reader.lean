import RecordFlow.Json.Basic
import RecordFlow.Json.Number
import RecordFlow.Text.Utf8

/-!
# Reading documents

A text is read from left to right, and what is wrong with it is what is found first. Bytes that are
no text end the text; `stray` tells that there were some.

## Main definitions

* `Json.nextItem`, `Json.nextEntry` — what follows in an array or an object
* `Json.readValue` — a document at a place
* `Json.read` — the document of a text, or its first fault
-/

namespace RecordFlow.Json

/-- White space between the parts of a document. -/
def isSpace (c : Char) : Bool := c == ' ' || c == '\n' || c == '\t' || c == '\r'

/-- Skips white space. -/
def Cursor.skipSpace (c : Cursor) : Cursor :=
  let spaces := c.rest.takeWhile isSpace
  ⟨c.rest.drop spaces.length, c.offset + spaces.length⟩

/-- The value of four hexadecimal digits at the start of a text. -/
def readHex (rest : List Char) (offset : Nat) : Except Fault Nat :=
  let digits := rest.take 4
  let size := Text.byteCount digits
  -- A wrong digit is only found when all four bytes have been taken.
  if size < 4 then .error { error := .endInString, offset := offset + size }
  else match Text.natInBase? 16 digits with
    | some code => .ok code
    | none => .error { error := .invalidEscape, offset := offset + 4 }

/-- The character of a one-letter escape. -/
def simpleEscape? (c : Char) : Option Char :=
  match c with
  | '"' => some '"'
  | '\\' => some '\\'
  | '/' => some '/'
  | 'b' => some '\x08'
  | 'f' => some '\x0c'
  | 'n' => some '\n'
  | 'r' => some '\r'
  | 't' => some '\t'
  | _ => none

/-- The second half of a surrogate pair, behind the digits of the first half. -/
def readLowSurrogate (high : Nat) (rest : List Char) (offset : Nat) : Except Fault Char :=
  match rest with
  | '\\' :: 'u' :: digits => do
    let low ← readHex digits (offset + 2)
    if 0xDC00 ≤ low ∧ low ≤ 0xDFFF then
      .ok (Char.ofNat ((high - 0xD800) * 1024 + (low - 0xDC00) + 0x10000))
    else .error { error := .loneSurrogate, offset := offset + 6 }
  -- Without a second half the fault stands where its backslash or its letter should be.
  | ['\\'] => .error { error := .endInString, offset := offset + 1 }
  | '\\' :: _ => .error { error := .endInHexEscape, offset := offset + 2 }
  | [] => .error { error := .endInString, offset }
  | _ => .error { error := .endInHexEscape, offset := offset + 1 }

/-- An escape behind its backslash: its character and how many characters it takes. -/
def readEscape (stray : Bool) (rest : List Char) (offset : Nat) : Except Fault (Char × Nat) :=
  match rest with
  | [] =>
    if stray then .error { error := .invalidEscape, offset := offset + 1 }
    else .error { error := .endInString, offset }
  | 'u' :: digits => do
    let code ← readHex digits (offset + 1)
    if 0xDC00 ≤ code ∧ code ≤ 0xDFFF then
      .error { error := .loneSurrogate, offset := offset + 5 }
    else if 0xD800 ≤ code ∧ code ≤ 0xDBFF then do
      let c ← readLowSurrogate code (digits.drop 4) (offset + 5)
      .ok (c, 11)
    else .ok (Char.ofNat code, 5)
  | c :: _ =>
    match simpleEscape? c with
    | some d => .ok (d, 1)
    | none => .error { error := .invalidEscape, offset := offset + 1 }

/-- A string behind its opening quote. `skip` characters are the rest of an escape, and `read` holds
the characters so far in reverse order. -/
def readString (stray : Bool) :
    List Char → (offset skip : Nat) → (read : List Char) → Except Fault (String × Cursor)
  | [], offset, _, _ =>
    if stray then .error { error := .invalidCodePoint, offset := offset + 1 }
    else .error { error := .endInString, offset }
  | _ :: cs, offset, skip + 1, read => readString stray cs (offset + 1) skip read
  | c :: cs, offset, 0, read =>
    if c = '"' then .ok (String.ofList read.reverse, ⟨cs, offset + 1⟩)
    else if c = '\\' then
      match readEscape stray cs (offset + 1) with
      | .ok (d, taken) => readString stray cs (offset + 1) taken (d :: read)
      | .error fault => .error fault
    else if c.toNat < 32 then .error { error := .controlCharacter, offset := offset + 1 }
    else readString stray cs (offset + c.utf8Size) 0 (c :: read)

/-- The rest of a name such as `null`, behind its first letter. -/
def readIdent (stray : Bool) : (expected : List Char) → Cursor → Except Fault Cursor
  | [], c => .ok c
  | e :: es, c =>
    match c.rest with
    | [] => .error (if stray then c.skipOne.fault .expectedIdent else c.fault .endInValue)
    | d :: _ => if d = e then readIdent stray es c.skipOne
      else .error (c.skipOne.fault .expectedIdent)

/-- Where the next item of an array or the next entry of an object starts, or the place behind the
array or the object. -/
inductive Next where
  | item (c : Cursor)
  | closed (c : Cursor)

/-- What follows the opening bracket of an array, or an item of it. -/
def nextItem (stray first : Bool) (c : Cursor) : Except Fault Next :=
  let c := c.skipSpace
  match c.rest with
  | [] =>
    .error (c.faultAhead stray (if stray && !first then .expectedCommaOrBracket
      else if stray then .expectedValue else .endInList))
  | ']' :: _ => .ok (.closed c.skipOne)
  | d :: _ =>
    if first then .ok (.item c)
    -- Behind an item stands a comma, and behind the comma another item.
    else if d = ',' then
      let c := c.skipOne.skipSpace
      match c.rest with
      | [] => .error (c.faultAhead stray (if stray then .expectedValue else .endInValue))
      | ']' :: _ => .error (c.faultAhead stray .trailingComma)
      | _ => .ok (.item c)
    else .error (c.faultAhead stray .expectedCommaOrBracket)

/-- What follows the opening brace of an object, or an entry of it. -/
def nextEntry (stray first : Bool) (c : Cursor) : Except Fault Next :=
  let c := c.skipSpace
  match c.rest with
  | [] =>
    .error (c.faultAhead stray (if stray && first then .keyNotString
      else if stray then .expectedCommaOrBrace else .endInObject))
  | '\x7d' :: _ => .ok (.closed c.skipOne)
  | d :: _ =>
    if first then if d = '"' then .ok (.item c) else .error (c.faultAhead stray .keyNotString)
    -- Behind an entry stands a comma, and behind the comma another name.
    else if d = ',' then
      let c := c.skipOne.skipSpace
      match c.rest with
      | '"' :: _ => .ok (.item c)
      | '\x7d' :: _ => .error (c.faultAhead stray .trailingComma)
      | [] => .error (c.faultAhead stray (if stray then .keyNotString else .endInValue))
      | _ => .error (c.faultAhead stray .keyNotString)
    else .error (c.faultAhead stray .expectedCommaOrBrace)

/-- The place behind the colon of an entry, from behind its name. -/
def skipColon (stray : Bool) (c : Cursor) : Except Fault Cursor :=
  let c := c.skipSpace
  match c.rest with
  | ':' :: _ => .ok c.skipOne
  | rest =>
    .error (c.faultAhead stray (if rest.isEmpty && !stray then .endInObject else .expectedColon))

/-- The items of an array behind its opening bracket or behind an item. -/
def readItems (stray : Bool) (readItem : Cursor → Except Fault (Json × Cursor)) :
    (fuel : Nat) → (first : Bool) → Cursor → Except Fault (List Json × Cursor)
  | 0, _, c => .error (c.fault .endInList)
  | fuel + 1, first, c => do
    match ← nextItem stray first c with
    | .closed c => return ([], c)
    | .item c =>
      let (item, c) ← readItem c
      let (items, c) ← readItems stray readItem fuel false c
      return (item :: items, c)

/-- The fields of an object, those already read and those behind an opening brace or an entry. A
later entry of a name replaces an earlier one and keeps its place. -/
def readFields (stray : Bool) (readValue : Cursor → Except Fault (Json × Cursor)) :
    (fuel : Nat) → (first : Bool) → List (String × Json) → Cursor →
      Except Fault (List (String × Json) × Cursor)
  | 0, _, _, c => .error (c.fault .endInObject)
  | fuel + 1, first, fields, c => do
    match ← nextEntry stray first c with
    | .closed c => return (fields, c)
    | .item c =>
      let (name, c) ← readString stray (c.rest.drop 1) (c.offset + 1) 0 []
      let c ← skipColon stray c
      let (value, c) ← readValue c
      readFields stray readValue fuel false (insertField fields name value) c

/-- The document of a number. -/
def Number.json : Number → Json
  | int i => .int i
  | float f => .float f

/-- A value; `depth` is one more than the number of arrays and objects that may be open in it. -/
def readValue (stray : Bool) : (depth : Nat) → Cursor → Except Fault (Json × Cursor)
  | 0, c => .error (c.fault .tooDeep)
  | depth + 1, c =>
    let c := c.skipSpace
    let named (rest : String) (json : Json) : Except Fault (Json × Cursor) :=
      (readIdent stray rest.toList c.skipOne).map fun c => (json, c)
    let number (negative : Bool) (c : Cursor) : Except Fault (Json × Cursor) :=
      (readNumber stray negative c).map fun (n, c) => (n.json, c)
    match c.rest with
    | [] => .error (c.faultAhead stray (if stray then .expectedValue else .endInValue))
    | 'n' :: _ => named "ull" .null
    | 't' :: _ => named "rue" (.bool true)
    | 'f' :: _ => named "alse" (.bool false)
    | '-' :: _ => number true c.skipOne
    | '"' :: rest => (readString stray rest (c.offset + 1) 0 []).map fun (s, c) => (.str s, c)
    | '[' :: rest =>
      if depth = 0 then .error (c.faultAhead stray .tooDeep)
      else (readItems stray (readValue stray depth) (rest.length + 1) true c.skipOne).map
        fun (items, c) => (.arr items, c)
    | '\x7b' :: rest =>
      if depth = 0 then .error (c.faultAhead stray .tooDeep)
      else (readFields stray (readValue stray depth) (rest.length + 1) true [] c.skipOne).map
        fun (fields, c) => (.obj fields, c)
    | d :: _ =>
      if d.isDigit then number false c else .error (c.faultAhead stray .expectedValue)

/-- How many arrays and objects may be open at once, and one more. -/
def depthLimit : Nat := 128

/-- The document of a text, or its first fault. -/
def read (text : List Char) (stray : Bool := false) : Except Fault Json := do
  let (json, c) ← readValue stray depthLimit ⟨text, 0⟩
  let c := c.skipSpace
  if c.rest.isEmpty && !stray then return json
  else .error (c.faultAhead stray .trailingCharacters)

/-- The message of a fault with its place. A reader that looks ahead counts the byte it has seen. -/
def Fault.message (fault : Fault) (text : List Char) (looksAhead : Bool) : String :=
  let offset := if looksAhead && fault.lookedAhead then fault.offset + 1 else fault.offset
  messageAt fault.error.message (lineAndColumn text offset)

end RecordFlow.Json
