import RecordFlow.Json.Basic
import RecordFlow.Number.Text
import RecordFlow.Text.Digits

/-!
# Written documents

A document is written in one of two layouts: compact, without any space, or pretty, with one item to
a line and two spaces for a level.

## Main definitions

* `Json.quote` — a string between quotes, with the characters escaped that have to be
* `Json.compact` — the compact layout
* `Json.pretty` — the pretty layout
* `Value.display`, `Value.toText` — a value as text
-/

namespace RecordFlow

namespace Json

/-- A character inside quotes: the quote, the backslash and the control characters are escaped. -/
def escapeChar (c : Char) : List Char :=
  if c = '"' then ['\\', '"']
  else if c = '\\' then ['\\', '\\']
  else if c.toNat = 8 then ['\\', 'b']
  else if c.toNat = 9 then ['\\', 't']
  else if c.toNat = 10 then ['\\', 'n']
  else if c.toNat = 12 then ['\\', 'f']
  else if c.toNat = 13 then ['\\', 'r']
  else if c.toNat < 32 then
    ['\\', 'u', '0', '0', Text.hexDigit (c.toNat / 16), Text.hexDigit (c.toNat % 16)]
  else [c]

/-- A string between quotes. -/
def quoteChars (s : List Char) : List Char := '"' :: (s.flatMap escapeChar ++ ['"'])

/-- A string between quotes. -/
def quote (s : String) : String := String.ofList (quoteChars s.toList)

/-- The text of a float; one that is not finite is written as null. -/
def floatChars (f : Float) : List Char := ((scientificText? f).getD "null").toList

mutual

/-- The compact layout. -/
def compactChars : Json → List Char
  | .null => "null".toList
  | .bool true => "true".toList
  | .bool false => "false".toList
  | .int i => (toString i).toList
  | .float f => floatChars f
  | .str s => quoteChars s.toList
  | .arr items => '[' :: compactItems items
  | .obj fields => '\x7b' :: compactFields fields

/-- The items of an array from its first item on, with the closing bracket. -/
def compactItems : List Json → List Char
  | [] => [']']
  | [x] => x.compactChars ++ [']']
  | x :: xs => x.compactChars ++ ',' :: compactItems xs

/-- The fields of an object from its first field on, with the closing brace. -/
def compactFields : List (String × Json) → List Char
  | [] => ['\x7d']
  | [(name, x)] => quoteChars name.toList ++ ':' :: (x.compactChars ++ ['\x7d'])
  | (name, x) :: rest =>
    quoteChars name.toList ++ ':' :: (x.compactChars ++ ',' :: compactFields rest)

end

/-- A line break and the spaces of a level. -/
def newline (level : Nat) : List Char := '\n' :: List.replicate (2 * level) ' '

mutual

/-- The pretty layout of a document that starts at a level. -/
def prettyChars (level : Nat) : Json → List Char
  | .arr [] => ['[', ']']
  | .arr (x :: xs) => '[' :: prettyItems level (x :: xs)
  | .obj [] => ['\x7b', '\x7d']
  | .obj (x :: xs) => '\x7b' :: prettyFields level (x :: xs)
  | .null => "null".toList
  | .bool true => "true".toList
  | .bool false => "false".toList
  | .int i => (toString i).toList
  | .float f => floatChars f
  | .str s => quoteChars s.toList

/-- The items of an array at a level, each on a line, with the closing bracket. -/
def prettyItems (level : Nat) : List Json → List Char
  | [] => newline level ++ [']']
  | [x] => newline (level + 1) ++ prettyChars (level + 1) x ++ newline level ++ [']']
  | x :: xs => newline (level + 1) ++ prettyChars (level + 1) x ++ ',' :: prettyItems level xs

/-- The fields of an object at a level, each on a line, with the closing brace. -/
def prettyFields (level : Nat) : List (String × Json) → List Char
  | [] => newline level ++ ['\x7d']
  | [(name, x)] =>
    newline (level + 1) ++ quoteChars name.toList ++ ':' :: ' ' :: prettyChars (level + 1) x
      ++ newline level ++ ['\x7d']
  | (name, x) :: rest =>
    newline (level + 1) ++ quoteChars name.toList ++ ':' :: ' ' :: prettyChars (level + 1) x
      ++ ',' :: prettyFields level rest

end

/-- A document in the compact layout. -/
def compact (json : Json) : String := String.ofList json.compactChars

/-- A document in the pretty layout. -/
def pretty (json : Json) : String := String.ofList (json.prettyChars 0)

end Json

namespace Value

/-- A value as text. Numbers and texts stand for themselves, and lists and objects are compact
documents. -/
def display : Value → String
  | .null => "null"
  | .bool true => "true"
  | .bool false => "false"
  | .int i => toString i.toInt
  | .float f => plainText f
  | .text s => s
  | .list items => (Json.ofValue (.list items)).compact
  | .object fields => (Json.ofValue (.object fields)).compact

/-- A value as part of a larger text: null is empty. -/
def toText : Value → String
  | .null => ""
  | value => value.display

end Value

end RecordFlow
