import RecordFlow.Document.Basic

/-!
# Reading typed data from documents

A reader takes a document and gives the data or a rejection. The fields of an object are read in the
order of the document, so that its first bad field counts; only then is a missing field reported,
the first in the order of declaration. A list is read as the fields in the order of declaration.

## Main definitions

* `Reader` — a reading of one type, with readers for the simple types
* `FieldReader` — the fields of a structure, declared and read together
* `readStruct` — a structure from an object or a list
-/

namespace RecordFlow

/-- A reading of one type. -/
abbrev Reader (δ α : Type) := δ → Except Rejection α

section

variable {δ α β : Type} [Document δ]

/-- Refuses a document of the wrong type. A list or an object is refused where it starts, anything
else where it ends. -/
def rejectType (wanted : String) (d : δ) : Except Rejection α :=
  match view d with
  | .broken rejection => .error rejection
  | .list _ => .error ⟨.invalidType .list wanted, before d⟩
  | .map _ => .error ⟨.invalidType .map wanted, before d⟩
  | other => .error ⟨.invalidType other.found wanted, after d⟩

/-- Refuses a document that has been read to its end. -/
def rejectAfter (error : DecodeError) (d : δ) : Except Rejection α := .error ⟨error, after d⟩

/-- What is rejected in a part without a place, in a markup text has the place of the part. -/
def within (d : δ) (result : Except Rejection α) : Except Rejection α :=
  if manner δ = .markup then result.mapError (·.settle (before d)) else result

namespace Reader

/-- A text. -/
def text : Reader δ String := fun d =>
  match Document.scalarText d with
  | some s => .ok s
  | none => rejectType "a string" d

/-- A boolean. -/
def boolean : Reader δ Bool := fun d =>
  match view d with
  | .bool b => .ok b
  | _ => rejectType "a boolean" d

/-- An integer from `low` to below `high`. -/
def integer (wanted : String) (low high : Int) : Reader δ Int := fun d =>
  match view d with
  | .int i => if low ≤ i ∧ i < high then .ok i else rejectAfter (.invalidValue (.int i) wanted) d
  | _ => rejectType wanted d

/-- A size, below `2 ^ 64`. -/
def size : Reader δ Nat := fun d => (integer "usize" 0 (Nat.pow 2 64) d).map Int.toNat

/-- A 64-bit integer. -/
def int64 : Reader δ Int := integer "i64" (-(Nat.pow 2 63)) (Nat.pow 2 63)

/-- A list. -/
def listOf (item : Reader δ α) : Reader δ (List α) := fun d =>
  match view d with
  | .list items => within d (items.mapM item)
  | _ => rejectType "a sequence" d

/-- Something that null stands for the absence of. -/
def optional (reader : Reader δ α) : Reader δ (Option α) := fun d => do
  if ← Document.isAbsent d then return none else some <$> reader d

/-- Any document. -/
def json : Reader δ Json := Document.json

/-- Any value. -/
def value : Reader δ Value := fun d => (Document.content d).map Json.toValue

/-- The fields of a record behind those already read; a later entry of a name replaces an
earlier one and keeps its place. -/
def recordFields : List (Entry δ) → List (String × Json) → Except Rejection (List (String × Json))
  | [], fields => .ok fields
  | entry :: entries, fields => do
    if let some refusal := entry.refusal? then .error (refusal "a string")
    let value ← Document.content entry.value
    recordFields entries (Json.insertField fields entry.name value)

/-- A record. -/
def record : Reader δ Record := fun d =>
  match view d with
  | .map entries => within d ((recordFields entries []).map Json.toFields)
  | _ => rejectType "a map" d

/-- One of the variants of an enumeration, by name. `known` are the names that a message lists. -/
def variantOf (variants : List (String × α)) (known : List String)
    (name : String) (place : Option Place) : Except Rejection α :=
  match variants.lookup name with
  | some a => .ok a
  | none => .error ⟨.unknownVariant name known, place⟩

/-- The content of a variant that has none. -/
def nothing : Reader δ Unit := fun d =>
  match view d with
  | .null => .ok ()
  | .map [] => if manner δ = .setAside then .ok () else rejectType "unit" d
  | _ => rejectType "unit" d

/-- A variant that has no content: its name, or an object with that one name and null. A markup text
calls the variants by the name of their `enumeration`. -/
def choice (variants : List (String × α)) (known : List String) (enumeration : String := "") :
    Reader δ α :=
  fun d =>
    match Document.choice enumeration known.contains d with
    | .refused rejection => .error rejection
    | .bare name place => variantOf variants known name place
    | .holding name place content closing => do
      let a ← variantOf variants known name place
      nothing content
      closing
      return a

end Reader

/-- A declared field: whether its value is accepted, and whether it has to be there. -/
structure Field (δ : Type) where
  name : String
  accepts : δ → Except Rejection Unit
  required : Bool

/-- The fields of a structure and the reading of the structure from their values. -/
structure FieldReader (δ α : Type) where
  fields : List (Field δ)
  build : (String → Option δ) → Except Rejection α

namespace FieldReader

instance : Functor (FieldReader δ) where
  map f r := ⟨r.fields, fun values => (r.build values).map f⟩

instance : Pure (FieldReader δ) where
  pure a := ⟨[], fun _ => .ok a⟩

instance : Seq (FieldReader δ) where
  seq f r :=
    ⟨f.fields ++ (r ()).fields, fun values => do
      let g ← f.build values
      let a ← (r ()).build values
      return g a⟩

/-- A field that has to be there. -/
def required (name : String) (reader : Reader δ α) : FieldReader δ α :=
  ⟨[⟨name, fun d => (reader d).map fun _ => (), true⟩], fun values =>
    match values name with
    | some d => reader d
    | none => .error ⟨.missingField name, none⟩⟩

/-- A field with a value for its absence. -/
def withDefault (name : String) (reader : Reader δ α) (absent : α) : FieldReader δ α :=
  ⟨[⟨name, fun d => (reader d).map fun _ => (), false⟩], fun values =>
    match values name with
    | some d => reader d
    | none => .ok absent⟩

/-- A field that may be absent or null. -/
def optional (name : String) (reader : Reader δ α) : FieldReader δ (Option α) :=
  withDefault name (fun d => Reader.optional reader d) none

end FieldReader

/-- Checks the entries of an object in their order; `seen` are the names met before. -/
def checkEntries (fields : List (Field δ)) : List (Entry δ) →
    (seen : List String) → Except Rejection Unit
  | [], _ => .ok ()
  | entry :: rest, seen => do
    if let some refusal := entry.refusal? then .error (refusal "field identifier")
    match fields.find? (·.name == entry.name) with
    | some field =>
      if seen.contains entry.name then .error ⟨.duplicateField entry.name, entry.colon⟩
      else do
        field.accepts entry.value
        checkEntries fields rest (entry.name :: seen)
    -- An entry that no field is declared for is passed over.
    | none => do
      Document.skip entry.value
      checkEntries fields rest seen

/-- The number of elements as it is counted in messages. -/
def elementCount (n : Nat) : String := if n = 1 then "1 element" else toString n ++ " elements"

/-- Checks the items of a list against the fields in order of declaration; `index` items came
before. `short` is the rejection of a list that ends too early. -/
def checkItems (short : Nat → Rejection) :
    List (Field δ) → List δ → (index : Nat) → Except Rejection Unit
  | [], _, _ => .ok ()
  | field :: fields, item :: items, index => do
    field.accepts item
    checkItems short fields items (index + 1)
  | field :: fields, [], index =>
    if field.required then .error (short index) else checkItems short fields [] (index + 1)

/-- The rejection of a list that has more items than there are fields. -/
def tooManyItems (expected length : Nat) (extra : δ) (place : Option Place) : Rejection :=
  match manner δ with
  | .value => ⟨.invalidLength length "fewer elements in array", place⟩
  | .setAside => ⟨.invalidLength length (elementCount expected ++ " in sequence"), place⟩
  | .markup => ⟨.invalidLength length ("sequence of " ++ elementCount expected), place⟩
  | .text => Document.surplus extra

/-- A structure from the entries of an object; `place` is where a missing field is reported. -/
def readEntries (reader : FieldReader δ α) (entries : List (Entry δ)) (place : Option Place) :
    Except Rejection α := do
  checkEntries reader.fields entries []
  match reader.fields.find? fun field => field.required && !entries.any (·.name == field.name) with
  | some field => .error ⟨.missingField field.name, place⟩
  | none => reader.build fun name => (entries.find? (·.name == name)).map Entry.value

/-- A structure from the items of a list. -/
def readItems (expecting : String) (reader : FieldReader δ α)
    (items : List δ) (place : Option Place) : Except Rejection α := do
  let count := reader.fields.length
  let wanted := expecting ++ " with " ++ elementCount count
  checkItems (fun n => ⟨.invalidLength n wanted, place⟩) reader.fields items 0
  match items.drop count with
  | extra :: _ => .error (tooManyItems count items.length extra place)
  | [] => reader.build fun name =>
    (((reader.fields.map Field.name).zip items).find? (·.1 == name)).map Prod.snd

/-- A structure. -/
def readStruct (expecting : String) (reader : FieldReader δ α) : Reader δ α := fun d =>
  match view d with
  | .map entries => within d (readEntries reader entries (after d))
  | .list items => within d (readItems expecting reader items (after d))
  | _ => rejectType expecting d

end


end RecordFlow
