import RecordFlow.Document.Error
import RecordFlow.Json.Basic

/-!
# Documents that typed data is read from

Typed data comes from documents of several kinds: JSON values in memory, parts of them that were set
aside while a tag was looked up, JSON texts and markup texts. `Document` says what all of them have
in common. A text may stop being a document in the middle of it, so a document one level deep can
hold parts that are broken; a reader meets them when it gets there, or not at all.

## Main definitions

* `View` — a document one level deep
* `Choice` — how a document names a variant
* `Document` — the kinds of documents
-/

namespace RecordFlow

/-- How a kind of document refuses a list that has too many items, and what
it says of numbers and null. -/
inductive Manner where
  | value
  | setAside
  | text
  | markup
  deriving DecidableEq

/-- An entry of an object; a text has a place for its colon. The name of an entry may be no text,
which `refusal?` tells for a name of the wanted kind. -/
structure Entry (δ : Type) where
  name : String
  colon : Option Place
  value : δ
  refusal? : Option (String → Rejection) := none

/-- A document one level deep. `broken` stands for the rest of a text that could not be read. -/
inductive View (δ : Type) where
  | null
  | bool (b : Bool)
  | int (i : Int)
  | wide (i : Int)
  | float (f : Float)
  | str (s : String)
  | list (items : List δ)
  | map (entries : List (Entry δ))
  | broken (rejection : Rejection)

/-- What a document shows when it is asked. -/
def View.found {δ : Type} : View δ → Found
  | .null => .null
  | .bool b => .bool b
  | .int i => .int i
  | .wide i => .wide i
  | .float f => .float f
  | .str s => .str s
  | .list _ => .list
  | .map _ => .map
  | .broken _ => .null

/-- How a document names a variant: by a name alone, or by a name with a content. A name that
belongs to no variant is refused at `place`, and `closing` is what is wrong behind the content. -/
inductive Choice (δ : Type) where
  | bare (name : String) (place : Option Place)
  | holding (name : String) (place : Option Place) (content : δ) (closing : Except Rejection Unit)
  | refused (rejection : Rejection)

/-- Documents that typed data is read from. `before` and `after` are the places of a part, `json`
reads it as it is, `content` as a value of a record, and `skip` only goes past it. `surplus` refuses
an item of a list that has too many. -/
class Document (δ : Type) where
  view : δ → View δ
  manner : Manner
  before : δ → Option Place
  after : δ → Option Place
  scalarText : δ → Option String
  isAbsent : δ → Except Rejection Bool
  choice : (enumeration : String) → (isKnown : String → Bool) → δ → Choice δ
  json : δ → Except Rejection Json
  content : δ → Except Rejection Json
  skip : δ → Except Rejection Unit
  surplus : δ → Rejection

export Document (view manner before after)

/-- Whether a level is null. -/
def View.isNull {δ : Type} : View δ → Bool
  | .null => true
  | _ => false

/-- The variant that a document in memory names: its text, or an object with that one name. -/
def View.choice {δ : Type} : View δ → Choice δ
  | .str name => .bare name none
  | .map [entry] => .holding entry.name none entry.value (.ok ())
  | .map _ => .refused ⟨.invalidValue .map "map with a single key", none⟩
  | other => .refused ⟨.invalidType other.found "string or map", none⟩

/-- The entries of an object in memory. -/
def Entry.ofField {δ ε : Type} (wrap : δ → ε) (field : String × δ) : Entry ε :=
  { name := field.1, colon := none, value := wrap field.2 }

/-- One level of a document in memory, with its parts wrapped. -/
def Json.viewWith {δ : Type} (wrap : Json → δ) : Json → View δ
  | .null => .null
  | .bool b => .bool b
  | .int i => .int i
  | .float f => .float f
  | .str s => .str s
  | .arr items => .list (items.map wrap)
  | .obj fields => .map (fields.map (Entry.ofField wrap))

/-- Documents in memory, whose parts are `wrap`ped. They have no places,
and nothing in them is broken. -/
@[reducible] def Document.inMemory {δ : Type} (manner : Manner)
    (wrap : Json → δ) (json : δ → Json) : Document δ where
  view d := (json d).viewWith wrap
  manner := manner
  before _ := none
  after _ := none
  scalarText d := (json d).asStr?
  isAbsent d := .ok (json d).isNull
  choice _ _ d := ((json d).viewWith wrap).choice
  json d := .ok (json d)
  content d := .ok (json d)
  skip _ := .ok ()
  surplus _ := ⟨.malformed .trailingCharacters, none⟩

instance : Document Json := .inMemory .value id id

/-- A part of a document that was set aside while a tag was looked up. -/
structure SetAside where
  json : Json

instance : Document SetAside := .inMemory .setAside SetAside.mk SetAside.json

end RecordFlow
