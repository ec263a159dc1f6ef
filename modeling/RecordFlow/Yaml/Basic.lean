import RecordFlow.Number.Reading
import RecordFlow.Yaml.Tag

/-!
# Markup documents

A markup document is made of scalars, lists and maps. A scalar is a text; a plain one, without
quotes, may stand for null, a boolean or a number, and a tag of the general kind can say what a
scalar is. A node may be a reference to another one.

## Main definitions

* `Yaml.Node` — a document, with the place of every part
* `Yaml.plainScalar`, `Yaml.taggedScalar` — what scalars stand for
-/

namespace RecordFlow.Yaml

/-- A part of a document with its place. A reference tells the number of
the node that it stands for. -/
inductive Node where
  | scalar (text : String) (plain : Bool) (tag : Option Tag) (mark : Mark)
  | list (items : List Node) (mark : Mark)
  | map (entries : List (Node × Node)) (mark : Mark)
  | reference (target : Nat) (mark : Mark)

/-- The place of a part. -/
def Node.mark : Node → Mark
  | scalar _ _ _ mark => mark
  | list _ mark => mark
  | map _ mark => mark
  | reference _ mark => mark

/-- What a scalar stands for. `mismatch` is a text that its tag does not fit. -/
inductive Scalar where
  | null
  | bool (b : Bool)
  | int (i : Int)
  | float (f : Float)
  | text (s : String)
  | mismatch (wanted : String)

/-- Whether digits begin with a zero that does not count. -/
def hasLeadingZero : List Char → Bool
  | '0' :: c :: cs => (c :: cs).all Char.isDigit
  | _ => false

/-- The number of digits in a base; a plus may stand in front of them. -/
def natInBase? (base : Nat) (digits : List Char) : Option Nat :=
  match digits with
  | '+' :: digits => Text.natInBase? base digits
  | digits => Text.natInBase? base digits

/-- An integer that begins with the mark of a base behind its sign. It has at most 64 bits. -/
def basedInt? (text : List Char) : Option Int :=
  let (negative, unsigned) := splitSign text
  -- Behind a minus there is no other sign.
  let read (base : Nat) (digits : List Char) : Option Int :=
    if negative then
      (Text.natInBase? base digits).bind fun n =>
        if n ≤ Nat.pow 2 63 then some (-(n : Int)) else none
    else (natInBase? base digits).bind fun n => if n < Nat.pow 2 64 then some n else none
  match unsigned with
  | '0' :: 'x' :: digits => read 16 digits
  | '0' :: 'o' :: digits => read 8 digits
  | '0' :: 'b' :: digits => read 2 digits
  | _ => none

/-- A decimal integer of at most 128 bits. -/
def decimalInt? (text : List Char) : Option Int :=
  let (negative, digits) := splitSign text
  (Text.natInBase? 10 digits).bind fun n =>
    if negative then if n ≤ Nat.pow 2 127 then some (-(n : Int)) else none
    else if n < Nat.pow 2 128 then some n else none

/-- The float of a plain scalar. Several pluses may stand in front of an infinity. -/
def plainFloat? (text : String) : Option Float :=
  let unsigned := String.ofList (text.toList.dropWhile (· == '+'))
  if [".inf", ".Inf", ".INF"].contains unsigned then some (1.0 / 0.0)
  else if ["-.inf", "-.Inf", "-.INF"].contains text then some (-1.0 / 0.0)
  else if [".nan", ".NaN", ".NAN"].contains text then some (0.0 / 0.0)
  else (readFloat? text).bind fun f => if f.isFinite then some f else none

/-- The number of a plain scalar. A zero in front of digits makes them a text. -/
def plainNumber? (text : String) : Option Scalar :=
  let chars := text.toList
  match basedInt? chars with
  | some i => some (.int i)
  | none =>
    if hasLeadingZero (splitSign chars).2 then none
    else match decimalInt? chars with
      | some i => some (.int i)
      | none => (plainFloat? text).map .float

/-- Whether a text is one of the names of null. -/
def isNullName (text : String) : Bool := text == "~" || text == "null"

/-- What a plain scalar stands for. -/
def plainScalar (text : String) : Scalar :=
  if isNullName text then .null
  else match text with
    | "true" => .bool true
    | "false" => .bool false
    | _ => (plainNumber? text).getD (.text text)

/-- What a scalar stands for whose general tag has a name. A name that
is not known makes it a text. -/
def taggedScalar (text name : String) : Scalar :=
  match name with
  | "bool" =>
    match text with
    | "true" => .bool true
    | "false" => .bool false
    | _ => .mismatch "a boolean"
  | "int" => ((readInt64? text).map fun i => Scalar.int i.toInt).getD (.mismatch "an integer")
  | "float" => ((readFloat? text).map .float).getD (.mismatch "a float")
  | "null" => if isNullName text then .null else .mismatch "null"
  | _ => .text text

/-- What a scalar stands for. A tag of another kind makes it a text. -/
def scalarOf (text : String) (plain : Bool) (tag : Option Tag) : Scalar :=
  match tag with
  | some tag => if tag.handle = "!!" then taggedScalar text tag.name else .text text
  | none => if plain then plainScalar text else .text text

end RecordFlow.Yaml
