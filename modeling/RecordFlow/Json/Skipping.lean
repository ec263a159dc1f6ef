import RecordFlow.Json.Reader

/-!
# Skipping documents

A part of a text that nobody asks for is passed over. Only its outline is checked: the digits of a
number have to be well formed, but its size does not matter, escapes need not stand for characters,
and arrays and objects may be open to any depth.

## Main definitions

* `Json.skipValue` — the place behind a document
-/

namespace RecordFlow.Json

/-- The place behind the rest of a string, behind its opening quote. `skip`
characters are the rest of an escape. -/
def skipString : List Char → (offset skip : Nat) → Except Fault Cursor
  | [], offset, _ => .error { error := .endInString, offset }
  | _ :: cs, offset, skip + 1 => skipString cs (offset + 1) skip
  | c :: cs, offset, 0 =>
    if c = '"' then .ok ⟨cs, offset + 1⟩
    else if c = '\\' then
      match cs with
      | [] => .error { error := .endInString, offset := offset + 1 }
      | 'u' :: digits =>
        match readHex digits (offset + 2) with
        | .ok _ => skipString cs (offset + 1) 5
        | .error fault => .error fault
      | d :: _ =>
        if (simpleEscape? d).isSome then skipString cs (offset + 1) 1
        else .error { error := .invalidEscape, offset := offset + 2 }
    else if c.toNat < 32 then .error { error := .controlCharacter, offset }
    else skipString cs (offset + c.utf8Size) 0

/-- Skips digits. -/
def Cursor.skipDigits (c : Cursor) : Cursor :=
  let digits := c.rest.takeWhile Char.isDigit
  ⟨c.rest.drop digits.length, c.offset + digits.length⟩

/-- Whether a digit is next. -/
def Cursor.atDigit (c : Cursor) : Bool := c.rest.head?.any Char.isDigit

/-- The place behind an exponent, from behind its letter. -/
def skipExponent (c : Cursor) : Except Fault Cursor :=
  let c := match c.rest with
    | '+' :: _ => c.skipOne
    | '-' :: _ => c.skipOne
    | _ => c
  if c.atDigit then .ok c.skipDigits
  else .error ((if c.rest.isEmpty then c else c.skipOne).fault .invalidNumber)

/-- The place behind what may follow the whole part of a number. -/
def skipTail (c : Cursor) : Except Fault Cursor :=
  match c.rest with
  | 'e' :: _ => skipExponent c.skipOne
  | 'E' :: _ => skipExponent c.skipOne
  | _ => .ok c

/-- The place behind a number, from behind its sign. -/
def skipNumber (c : Cursor) : Except Fault Cursor :=
  if !c.atDigit then .error ((if c.rest.isEmpty then c else c.skipOne).fault .invalidNumber)
  else
    let behind := if c.rest.head? = some '0' then c.skipOne else c.skipDigits
    -- A number does not begin with a zero that does not count.
    if behind.atDigit then .error (behind.faultAhead false .invalidNumber)
    else match behind.rest with
      | '.' :: _ =>
        let fraction := behind.skipOne
        if fraction.atDigit then skipTail fraction.skipDigits
        else .error (fraction.faultAhead false .invalidNumber)
      | _ => skipTail behind

/-- What may come next while a document is skipped: a value, or what follows an opening bracket or
brace, or what follows a part. -/
inductive Awaited where
  | value
  | first
  | separator

/-- The place behind a document. `inObject` tells for each array and object that is open, the
innermost one first, whether it is an object. -/
def skipFrom : (fuel : Nat) → Awaited → (inObject : List Bool) → Cursor → Except Fault Cursor
  | 0, _, _, c => .error (c.fault .endInValue)
  | fuel + 1, .value, inObject, c =>
    let c := c.skipSpace
    let behind (result : Except Fault Cursor) : Except Fault Cursor := do
      let c ← result
      if inObject.isEmpty then return c else skipFrom fuel .separator inObject c
    match c.rest with
    | [] => .error (c.faultAhead false .endInValue)
    | 'n' :: _ => behind (readIdent false "ull".toList c.skipOne)
    | 't' :: _ => behind (readIdent false "rue".toList c.skipOne)
    | 'f' :: _ => behind (readIdent false "alse".toList c.skipOne)
    | '-' :: _ => behind (skipNumber c.skipOne)
    | '"' :: rest => behind (skipString rest (c.offset + 1) 0)
    | '[' :: _ => skipFrom fuel .first (false :: inObject) c.skipOne
    | '\x7b' :: _ => skipFrom fuel .first (true :: inObject) c.skipOne
    | _ => if c.atDigit then behind (skipNumber c) else .error (c.faultAhead false .expectedValue)
  | _ + 1, _, [], c => .ok c
  | fuel + 1, awaited, object :: outer, c =>
    let c := c.skipSpace
    let first := match awaited with
      | .first => true
      | _ => false
    -- In an object a name and a colon come before the value.
    let next (c : Cursor) : Except Fault Cursor :=
      if object then do
        let c := c.skipSpace
        match c.rest with
        | [] => .error (c.faultAhead false .endInObject)
        | '"' :: rest =>
          let c ← skipColon false (← skipString rest (c.offset + 1) 0)
          skipFrom fuel .value (object :: outer) c
        | _ => .error (c.faultAhead false .keyNotString)
      else skipFrom fuel .value (object :: outer) c
    match c.rest with
    | [] => .error (c.faultAhead false (if object then .endInObject else .endInList))
    | d :: _ =>
      if d = (if object then '\x7d' else ']') then
        if outer.isEmpty then .ok c.skipOne else skipFrom fuel .separator outer c.skipOne
      else if first then next c
      else if d = ',' then next c.skipOne
      else .error (c.faultAhead false (if object then .expectedCommaOrBrace
        else .expectedCommaOrBracket))

/-- The place behind a document. -/
def skipValue (c : Cursor) : Except Fault Cursor := skipFrom (2 * c.rest.length + 2) .value [] c

end RecordFlow.Json
