import RecordFlow.Value.Basic

/-!
# JSON documents

A document as it is exchanged with the outside. It differs from a `Value` in its
numbers: an integer of a document lies between `-2 ^ 63` and `2 ^ 64 - 1`, because sizes
are written as unsigned numbers.

## Main definitions

* `Json` — documents
* `Json.toValue`, `Json.ofValue` — between documents and values
* `nameIn`, `optionalField`, `listField` — how variants and fields that may be left out are written
-/

namespace RecordFlow

/-- A JSON document. No name occurs twice in an object. -/
inductive Json where
  | null
  | bool (b : Bool)
  | int (i : Int)
  | float (f : Float)
  | str (s : String)
  | arr (items : List Json)
  | obj (fields : List (String × Json))
  deriving Inhabited

namespace Json

/-- The field of an object. -/
def field? (json : Json) (name : String) : Option Json :=
  match json with
  | .obj fields => fields.lookup name
  | _ => none

/-- The text of a string. -/
def asStr? : Json → Option String
  | .str s => some s
  | _ => none

/-- The items of an array. -/
def asArr? : Json → Option (List Json)
  | .arr items => some items
  | _ => none

/-- Whether the document is null. -/
def isNull : Json → Bool
  | .null => true
  | _ => false

/-- An integer as a value: a 64-bit integer if it is one, the nearest float otherwise. -/
def intToValue (i : Int) : Value :=
  if -(Nat.pow 2 63) ≤ i ∧ i < Nat.pow 2 63 then .int (Int64.ofInt i) else .float (floatOfInt i)

mutual

/-- The value of a document. -/
def toValue : Json → Value
  | .null => .null
  | .bool b => .bool b
  | .int i => intToValue i
  | .float f => .float f
  | .str s => .text s
  | .arr items => .list (toValues items)
  | .obj fields => .object (toFields fields)

/-- The values of the items of an array. -/
def toValues : List Json → List Value
  | [] => []
  | x :: xs => x.toValue :: toValues xs

/-- The fields of an object with their values. -/
def toFields : List (String × Json) → List (String × Value)
  | [] => []
  | (name, x) :: rest => (name, x.toValue) :: toFields rest

end

mutual

/-- The document of a value. A float that is not finite has none and becomes null. -/
def ofValue : Value → Json
  | .null => .null
  | .bool b => .bool b
  | .int i => .int i.toInt
  | .float f => if f.isFinite then .float f else .null
  | .text s => .str s
  | .list items => .arr (ofValues items)
  | .object fields => .obj (ofFields fields)

/-- The documents of the items of a list. -/
def ofValues : List Value → List Json
  | [] => []
  | x :: xs => ofValue x :: ofValues xs

/-- The fields of an object with their documents. -/
def ofFields : List (String × Value) → List (String × Json)
  | [] => []
  | (name, x) :: rest => (name, ofValue x) :: ofFields rest

end

/-- The document of a record. -/
def ofRecord (record : Record) : Json := .obj (ofFields record)

/-- The document of a list of records. -/
def ofRecords (records : List Record) : Json := .arr (records.map ofRecord)

/-- The object of a list of fields, in which a later field of a name replaces an earlier one and
keeps its place. -/
def insertField : List (String × Json) → String → Json → List (String × Json)
  | [], name, value => [(name, value)]
  | (k, v) :: rest, name, value =>
    if k = name then (k, value) :: rest else (k, v) :: insertField rest name value

end Json

/-! ### Typed data -/

/-- The name of a variant in a table of names; the first one, for a variant that has several. -/
def nameIn {α : Type} [DecidableEq α] (table : List (String × α)) (variant : α) : String :=
  ((table.find? (·.2 = variant)).map Prod.fst).getD ""

/-- A field with a value, or no field. -/
def optionalField {α : Type} (name : String) (write : α → Json) : Option α → List (String × Json)
  | some a => [(name, write a)]
  | none => []

/-- A field with a list, or no field for the empty list. -/
def listField {α : Type} (name : String) (write : α → Json) : List α → List (String × Json)
  | [] => []
  | items => [(name, .arr (items.map write))]

/-- A list of texts. -/
def textsJson (texts : List String) : Json := .arr (texts.map Json.str)

end RecordFlow
