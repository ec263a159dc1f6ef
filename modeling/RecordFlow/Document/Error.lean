import RecordFlow.Json.Fault
import RecordFlow.Number.Text
import RecordFlow.Text.Property

/-!
# Documents of the wrong shape

Why a document does not describe the thing that is read from it, and the text of that.

## Main definitions

* `Found` — what stands where something else was wanted
* `DecodeError` — the causes, with `DecodeError.message`
* `Rejection` — a cause with its place, for documents that have places
* `Rejection.settle` — a cause that gets a place if it has none
-/

namespace RecordFlow

/-- What stands in a document where something else was wanted. A wide integer is one that does not
fit 64 bits, and a bare name is the name of a variant without the content that belongs to it. -/
inductive Found where
  | null
  | bool (b : Bool)
  | int (i : Int)
  | wide (i : Int)
  | float (f : Float)
  | str (s : String)
  | list
  | map
  | bareName

namespace Found

/-- Lower-case hexadecimal digits. -/
def hexText (n : Nat) : List Char := Nat.toDigits 16 n

/-- Whether a character of a quoted text is shown by its number: what is not visible, and what
extends the character before it. -/
def isHidden (c : Char) : Bool :=
  match Text.categoryOf c with
  | .cc | .cf | .cs | .co | .cn | .zl | .zp => true
  | .zs => c != ' '
  | .mn | .me => true
  | _ =>
    Text.PropertyList.otherGraphemeExtend.holds c || Text.PropertyList.otherDefaultIgnorable.holds c

/-- A character of a quoted text. -/
def showChar (c : Char) : List Char :=
  match c with
  | '"' => ['\\', '"']
  | '\\' => ['\\', '\\']
  | '\n' => ['\\', 'n']
  | '\r' => ['\\', 'r']
  | '\t' => ['\\', 't']
  | _ =>
    if c.toNat = 0 then ['\\', '0']
    else if isHidden c then '\\' :: 'u' :: '\x7b' :: (hexText c.toNat ++ ['\x7d'])
    else [c]

/-- A text between quotes, as it is shown in messages. -/
def showText (s : String) : String := String.ofList ('"' :: (s.toList.flatMap showChar ++ ['"']))

/-- The text of what was found. -/
def message : Found → String
  | null => "null"
  | bool b => "boolean `" ++ toString b ++ "`"
  | int i => "integer `" ++ toString i ++ "`"
  | wide i => "integer `" ++ toString i ++ (if i < 0 then "` as i128" else "` as u128")
  | float f => "floating point `" ++ (scientificText? f).getD (plainText f) ++ "`"
  | str s => "string " ++ showText s
  | list => "sequence"
  | map => "map"
  | bareName => "unit variant"

/-- The text of what was found in a markup text, where a float is written without an exponent. -/
def markupMessage : Found → String
  | null => "unit value"
  | float f =>
    let text := plainText f
    "floating point `" ++
      (if f.isFinite && !text.toList.contains '.' then text ++ ".0" else text) ++ "`"
  | other => other.message

end Found

/-- Why a document does not describe what is read from it. -/
inductive DecodeError where
  | missingField (name : String)
  | duplicateField (name : String)
  | unknownVariant (found : String) (known : List String)
  | invalidType (found : Found) (wanted : String)
  | invalidValue (found : Found) (wanted : String)
  | invalidLength (length : Nat) (wanted : String)
  | malformed (error : Json.SyntaxError)
  | meaningless (reason : String)
  | tooDeep
  | tooRepetitive

namespace DecodeError

/-- Names that are possible, between backticks. -/
def alternatives (names : List String) : String :=
  match names.map fun name => "`" ++ name ++ "`" with
  | [] => "there are no variants"
  | [a] => "expected " ++ a
  | [a, b] => "expected " ++ a ++ " or " ++ b
  | many => "expected one of " ++ String.intercalate ", " many

/-- The text of a cause, with what was found as `shown` tells it. -/
def messageWith (shown : Found → String) : DecodeError → String
  | missingField name => "missing field `" ++ name ++ "`"
  | duplicateField name => "duplicate field `" ++ name ++ "`"
  | unknownVariant found known => "unknown variant `" ++ found ++ "`, " ++ alternatives known
  | invalidType found wanted => "invalid type: " ++ shown found ++ ", expected " ++ wanted
  | invalidValue found wanted => "invalid value: " ++ shown found ++ ", expected " ++ wanted
  | invalidLength length wanted =>
    "invalid length " ++ toString length ++ ", expected " ++ wanted
  | malformed error => error.message
  | meaningless reason => reason
  | tooDeep => "recursion limit exceeded"
  | tooRepetitive => "repetition limit exceeded"

/-- The text of a cause. -/
def message (error : DecodeError) : String := error.messageWith Found.message

/-- Whether a cause concerns a document as a whole and never has a place. -/
def isGlobal : DecodeError → Bool
  | tooDeep | tooRepetitive => true
  | _ => false

end DecodeError

/-- Where a part of a document stands: behind a number of bytes of a JSON text, or at a line and a
column of a markup text, with the way to it. -/
inductive Place where
  | offset (bytes : Nat)
  | reached (line column : Nat) (way : String)

/-- A cause with its place. -/
structure Rejection where
  error : DecodeError
  place : Option Place

/-- A cause with a place: its own one, or the given one. -/
def Rejection.settle (rejection : Rejection) (place : Option Place) : Rejection :=
  if rejection.error.isGlobal then rejection
  else { rejection with place := rejection.place.or place }

end RecordFlow
