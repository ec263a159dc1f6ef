import RecordFlow.Number.Dyadic

/-!
# Values and records

A value is what a field of a record holds. Integers and floats are kept apart, so that integer
arithmetic stays exact, and yet a value that is an integer in both kinds is one and the same: `1`
and `1.0` are equal. A record is a list of named values in the order in which the names came in.

## Main definitions

* `Value`, `Record` — the data model
* `Record.get?`, `Record.insert`, `Record.erase` — reading, writing and removing one field
* `Value.same` — equality of values; the order of the fields of an object does not count
* `Value.keyItems` — what is fed to a hash function for a value
-/

namespace RecordFlow

/-- A field value. -/
inductive Value where
  | null
  | bool (b : Bool)
  | int (i : Int64)
  | float (f : Float)
  | text (s : String)
  | list (items : List Value)
  | object (fields : List (String × Value))
  deriving Inhabited

/-- A record: names with their values, in order. No name occurs twice. -/
abbrev Record := List (String × Value)

namespace Record

/-- The value of a field. -/
def get? (record : Record) (name : String) : Option Value := record.lookup name

/-- Sets a field: in its place if the name is there, at the end otherwise. -/
def insert : Record → String → Value → Record
  | [], name, value => [(name, value)]
  | (k, v) :: rest, name, value =>
    if k = name then (k, value) :: rest else (k, v) :: insert rest name value

/-- Removes a field; the others keep their order. -/
def erase : Record → String → Record
  | [], _ => []
  | (k, v) :: rest, name => if k = name then rest else (k, v) :: erase rest name

/-- The names of the fields. -/
def names (record : Record) : List String := record.map Prod.fst

/-- The record of a list of fields, in which a later value of a name replaces an earlier one. -/
def ofFields (fields : List (String × Value)) : Record :=
  fields.foldl (fun record (name, value) => record.insert name value) []

end Record

namespace Value

/-- Whether an integer and a float are the same number. -/
def sameNumber (i : Int64) (f : Float) : Bool := exactInt64? f == some i

mutual

/-- Equality of values. Numbers of both kinds are compared as numbers, and NaN differs from itself;
objects are compared by their fields in any order. -/
def same : Value → Value → Bool
  | .null, .null => true
  | .bool a, .bool b => a == b
  | .int a, .int b => a == b
  | .float a, .float b => a == b
  | .int a, .float b => sameNumber a b
  | .float a, .int b => sameNumber b a
  | .text a, .text b => a == b
  | .list xs, .list ys => sameItems xs ys
  | .object xs, .object ys => xs.length == ys.length && fieldsWithin xs ys
  | _, _ => false

/-- Equality of lists, item by item. -/
def sameItems : List Value → List Value → Bool
  | [], [] => true
  | x :: xs, y :: ys => x.same y && sameItems xs ys
  | _, _ => false

/-- Whether every field has an equal one among `others`. -/
def fieldsWithin : List (String × Value) → List (String × Value) → Bool
  | [], _ => true
  | (name, x) :: rest, others =>
    (match others.lookup name with
      | some y => x.same y
      | none => false) && fieldsWithin rest others

end

instance : BEq Value := ⟨same⟩

/-- The number of a numeric value. -/
def asFloat? : Value → Option Float
  | .int i => some (floatOfInt i.toInt)
  | .float f => some f
  | _ => none

/-- The integer of a numeric value without a fraction, clamped to the range of 64-bit integers. -/
def asInt64? : Value → Option Int64
  | .int i => some i
  | .float f => (Dyadic.ofFloat? f).bind fun d =>
    if d.isWhole then
      some (Int64.ofInt (max (-(Nat.pow 2 63)) (min (Nat.pow 2 63 - 1) d.truncate)))
    else none
  | _ => none

/-- The text of a text value. -/
def asText? : Value → Option String
  | .text s => some s
  | _ => none

/-- The items of a list value. -/
def asList? : Value → Option (List Value)
  | .list items => some items
  | _ => none

/-- Whether the value is null. -/
def isNull : Value → Bool
  | .null => true
  | _ => false

/-- Whether the value is an integer or a float. -/
def isNumber : Value → Bool
  | .int _ => true
  | .float _ => true
  | _ => false

end Value

/-- One item fed to a hash function. -/
inductive KeyItem where
  | kind (tag : Nat)
  | bool (b : Bool)
  | int (i : Int64)
  | bits (b : UInt64)
  | text (s : String)
  | count (n : Nat)
  deriving DecidableEq

/-- Puts a field with its items into a list that is ascending by name. -/
def insertByName (name : String) (items : List KeyItem) :
    List (String × List KeyItem) → List (String × List KeyItem)
  | [] => [(name, items)]
  | (k, v) :: rest =>
    if name ≤ k then (name, items) :: (k, v) :: rest else (k, v) :: insertByName name items rest

namespace Value

mutual

/-- What is fed to a hash function for a value: equal values feed the same items. A float that is a
64-bit integer feeds that integer, and the fields of an object come in ascending order of name. -/
def keyItems : Value → List KeyItem
  | .null => [.kind 0]
  | .bool b => [.kind 1, .bool b]
  | .int i => [.kind 2, .int i]
  | .float f => match exactInt64? f with
    | some i => [.kind 2, .int i]
    | none => [.kind 2, .bits f.toBits]
  | .text s => [.kind 3, .text s]
  | .list items => .kind 4 :: .count items.length :: itemsKeyItems items
  | .object fields =>
    .kind 5 :: .count fields.length ::
      (fieldsKeyItems fields).flatMap fun (name, items) => .text name :: items

/-- The items of the members of a list, one after the other. -/
def itemsKeyItems : List Value → List KeyItem
  | [] => []
  | x :: xs => x.keyItems ++ itemsKeyItems xs

/-- The fields of an object with the items of their values, ascending by name. -/
def fieldsKeyItems : List (String × Value) → List (String × List KeyItem)
  | [] => []
  | (name, x) :: rest => insertByName name x.keyItems (fieldsKeyItems rest)

end

end Value

end RecordFlow
