import RecordFlow.Document.Reader
import RecordFlow.Yaml.Node

/-!
# Reading typed data from markup texts

A scalar of any kind is accepted where a text is wanted. A failure is reported with the way to
its part and with the place of that part; a part behind a reference has the way of the
reference and the place of what it stands for. References may not repeat too much, and lists
and maps may not be nested too deep.

## Main definitions

* `Yaml.Part` — a part of a document, with the way to it
* `Yaml.Part.convert` — a part as JSON
* `Yaml.ReadError` — why data cannot be read from a text
* `Yaml.readTyped` — typed data from a text
-/

namespace RecordFlow.Yaml

/-- What all parts of a document share: the nodes that references stand for, and how many references
may be followed. -/
structure Context where
  named : List (Nat × Node)
  referenceLimit : Nat

/-- A part of a document. `depth` is the number of lists and maps that may still be entered. -/
structure Part where
  context : Context
  node : Node
  way : String := "."
  depth : Nat

/-- The way to an item. -/
def itemWay (way : String) (index : Nat) : String := way ++ "[" ++ toString index ++ "]"

/-- The way to the value of an entry. -/
def entryWay (way name : String) : String := if way == "." then name else way ++ "." ++ name

/-- The way to the value of an entry by the node of its name; only a name
that is written there is shown. -/
def keyedWay (way : String) : Node → String
  | .scalar name _ _ _ => entryWay way name
  | _ => entryWay way "?"

/-- Where a node stands, for messages. -/
def placeOf (node : Node) (way : String) : Place :=
  .reached node.mark.line (node.mark.column + 1) way

namespace Context

/-- The node that a node stands for. -/
def resolve (context : Context) : Node → Node
  | .reference target mark => (context.named.lookup target).getD (.reference target mark)
  | node => node

end Context

/-- How a part is converted: as it is, or as a value of a record, in which
all names have to be texts. -/
inductive Conversion where
  | document
  | content

/-- How a conversion goes: how many references were followed, and whether a name was no text. -/
structure Progress where
  followed : Nat := 0
  oddName : Bool := false

/-- A part of a conversion. -/
abbrev Converting (α : Type) := StateT Progress (Except Rejection) α

/-- One level of a scalar at a place. -/
def Scalar.view {δ : Type} (text : String) (place : Place) : Scalar → View δ
  | .null => .null
  | .bool b => .bool b
  | .int i => if -(Nat.pow 2 63) ≤ i ∧ i < Nat.pow 2 64 then .int i else .wide i
  | .float f => .float f
  | .text s => .str s
  | .mismatch wanted => .broken ⟨.invalidValue (.str text) wanted, some place⟩

namespace Conversion

/-- The JSON of a scalar. A number that is not finite becomes null, and an
integer has at most 64 bits. -/
def scalar (conversion : Conversion) (text : String) (place : Place) (scalar : Scalar) :
    Except Rejection Json :=
  match scalar.view (δ := Unit) text place with
  | .null => .ok .null
  | .bool b => .ok (.bool b)
  | .int i => .ok (.int i)
  | .float f => .ok (if f.isFinite then .float f else .null)
  | .str s => .ok (.str s)
  | .broken rejection => .error rejection
  | other =>
    match conversion with
    | document => .error ⟨.meaningless "JSON number out of range", some place⟩
    | content => .error ⟨.invalidType other.found "any value", some place⟩

/-- The node that a node stands for, with references counted. -/
def follow (context : Context) : Node → Converting Node
  | .reference target mark => do
    modify fun progress => { progress with followed := progress.followed + 1 }
    if context.referenceLimit < (← get).followed then throw ⟨.tooRepetitive, none⟩
    return context.resolve (.reference target mark)
  | node => return node

/-- The name of an entry. As a document, an object has only names that are scalars. -/
def name (conversion : Conversion) (context : Context) (way : String) (first : Bool) (key : Node) :
    Converting String := do
  let key ← follow context key
  match conversion, key with
  | document, .scalar name _ _ _ => return name
  | document, .list _ _ =>
    throw ⟨.invalidType .list (if first then "a string key" else "a string"),
      some (placeOf key way)⟩
  | document, _ =>
    throw ⟨.invalidType .map (if first then "a string key" else "a string"), some (placeOf key way)⟩
  | content, .scalar name plain tag _ =>
    match ← (conversion.scalar name (placeOf key way) (scalarOf name plain tag) :
      Except Rejection Json) with
    | .str name => return name
    | _ =>
      modify ({ · with oddName := true })
      return name
  | content, _ =>
    modify ({ · with oddName := true })
    return ""

/-- The JSON of a node. `depth` is the number of lists and maps that may be entered. -/
def node (conversion : Conversion) (context : Context) : (depth : Nat) →
    (way : String) → Node → Converting Json
  | depth, way, start => do
    let found ← follow context start
    match found, depth with
    | .scalar text plain tag _, _ =>
      (conversion.scalar text (placeOf found way) (scalarOf text plain tag) : Except Rejection Json)
    | .list _ _, 0 => throw ⟨.tooDeep, none⟩
    | .map _ _, 0 => throw ⟨.tooDeep, none⟩
    | .list items _, depth + 1 =>
      let read (item : Node × Nat) : Converting Json :=
        node conversion context depth (itemWay way item.2) item.1
      return .arr (← items.zipIdx.mapM read)
    | .map entries _, depth + 1 =>
      let add (fields : List (String × Json)) (entry : (Node × Node) × Nat) :
          Converting (List (String × Json)) := do
        let name ← conversion.name context way (entry.2 == 0) entry.1.1
        let value ← node conversion context depth (keyedWay way entry.1.1) entry.1.2
        return Json.insertField fields name value
      return .obj (← entries.zipIdx.foldlM add [])
    | .reference _ _, _ => return .null

end Conversion

namespace Part

/-- The node that a part stands for. -/
def target (part : Part) : Node := part.context.resolve part.node

/-- Where a part stands. -/
def place (part : Part) : Place := placeOf part.target part.way

/-- A part of a part. -/
def inner (part : Part) (node : Node) (way : String) : Part :=
  { part with node, way, depth := part.depth - 1 }

/-- Refuses the name of an entry that is no scalar. -/
def refuseName (key : Part) (wanted : String) : Rejection :=
  let found : Found := match key.target with
    | .list _ _ => .list
    | _ => .map
  ⟨.invalidType found wanted, some key.place⟩

/-- An entry of a map. -/
def entry (part : Part) (entry : Node × Node) : Entry Part :=
  let key : Part := { part with node := entry.1 }
  let value := part.inner entry.2 (keyedWay part.way entry.1)
  match key.target with
  | .scalar name _ _ _ => { name, colon := some part.place, value }
  | _ => { name := "", colon := none, value, refusal? := some key.refuseName }

/-- One level of a part. -/
def view (part : Part) : View Part :=
  match part.target, part.depth with
  | .scalar text plain tag _, _ => (scalarOf text plain tag).view text part.place
  | .list _ _, 0 => .broken ⟨.tooDeep, none⟩
  | .map _ _, 0 => .broken ⟨.tooDeep, none⟩
  | .list items _, _ =>
    .list (items.zipIdx.map fun (item, i) => part.inner item (itemWay part.way i))
  | .map entries _, _ => .map (entries.map part.entry)
  | .reference _ _, _ => .null

/-- The text of a scalar. -/
def scalarText (part : Part) : Option String :=
  match part.target with
  | .scalar text _ _ _ => some text
  | _ => none

/-- Whether a part is a null that stands for the absence of something. A tag of null has to fit. -/
def isAbsent (part : Part) : Except Rejection Bool :=
  match part.target with
  | .scalar text true none _ => .ok (isNullName text)
  | .scalar text true (some tag) _ =>
    if tag.handle = "!!" ∧ tag.name = "null" then
      if isNullName text then .ok true else .error ⟨.invalidValue (.str text) "null", none⟩
    else .ok false
  | _ => .ok false

/-- The variant that a part names: by a tag of its own, by its text, or as the one name of a map.
What is wrong with the map itself is told with the place of what is around it. -/
def choice (enumeration : String) (isKnown : String → Bool) (part : Part) : Choice Part :=
  match part.target with
  | .scalar text _ tag _ =>
    match tag with
    | some tag =>
      if tag.handle = "!" ∧ isKnown tag.name then
        .holding tag.name none { part with way := entryWay part.way tag.name } (.ok ())
      else .bare text (some part.place)
    | none => .bare text (some part.place)
  | .map (entry :: rest) _ =>
    match entry.1 with
    | .scalar name _ _ _ =>
      let closing := if rest.isEmpty then .ok ()
        else .error ⟨.invalidLength (rest.length + 1) "map containing 1 entry", none⟩
      .holding name none { part with node := entry.2, way := entryWay part.way name } closing
    | key =>
      let rejection :=
        refuseName { part with node := key } ("variant of enum `" ++ enumeration ++ "`")
      .refused { rejection with place := none }
  | .map [] _ => .refused ⟨.invalidLength 0 "map containing 1 entry", none⟩
  | _ => .refused ⟨.invalidType .list "string or singleton map", some part.place⟩

/-- A part as JSON. -/
def convert (conversion : Conversion) (part : Part) : Except Rejection Json := do
  let (json, progress) ← (conversion.node part.context part.depth part.way part.node).run {}
  if progress.oddName then
    .error ⟨.meaningless "data did not match any variant of untagged enum Value", none⟩
  else return json

instance : Document Part where
  view := view
  manner := .markup
  before part := some part.place
  after part := some part.place
  scalarText := scalarText
  isAbsent := isAbsent
  choice := choice
  json part := part.convert .document
  content part := part.convert .content
  skip _ := .ok ()
  surplus part := ⟨.malformed .trailingCharacters, some part.place⟩

end Part

/-- How many lists and maps may be entered. -/
def depthLimit : Nat := 128

mutual

/-- The number of scalars and references of a node, and of starts and ends of lists and maps. -/
def Node.size : Node → Nat
  | .scalar .. => 1
  | .reference .. => 1
  | .list items _ => itemsSize items + 2
  | .map entries _ => entriesSize entries + 2

/-- The size of the items of a list. -/
def itemsSize : List Node → Nat
  | [] => 0
  | item :: items => item.size + itemsSize items

/-- The size of the entries of a map. -/
def entriesSize : List (Node × Node) → Nat
  | [] => 0
  | (key, value) :: entries => key.size + value.size + entriesSize entries

end

/-- How often references may be followed for every part that is written. -/
def repetitionLimit : Nat := 100

/-- Why data cannot be read from a text. -/
inductive ReadError where
  | syntaxFault (fault : Fault)
  | empty
  | severalDocuments
  | data (rejection : Rejection)

/-- The message of a syntax fault. -/
def Fault.message (fault : Fault) : String :=
  messageAt fault.error.message (fault.mark.line, fault.mark.column + 1)

/-- The message of a rejection. -/
def rejectionText (rejection : Rejection) : String :=
  let cause := rejection.error.messageWith Found.markupMessage
  match rejection.place with
  | some (.reached line column way) =>
    messageAt (if way == "." then cause else way ++ ": " ++ cause) (line, column)
  | _ => cause

namespace ReadError

/-- The message of a failure. -/
def message : ReadError → String
  | syntaxFault fault => fault.message
  | empty => "EOF while parsing a value"
  | severalDocuments => "deserializing from YAML containing more than one document is not supported"
  | data rejection => rejectionText rejection

/-- The message and the messages of what caused it: a syntax fault is a failure of its own. -/
def messages : ReadError → List String
  | syntaxFault fault => [fault.message, fault.message]
  | error => [error.message]

end ReadError

/-- Reads typed data from a markup text of one document. -/
def readTyped {α : Type} (reader : Reader Part α) (text : String) : Except ReadError α :=
  match read text.toList with
  | .error fault => .error (.syntaxFault fault)
  | .ok stream =>
    match stream.roots with
    | [] => .error .empty
    | root :: others =>
      let referenceLimit := repetitionLimit * itemsSize stream.roots
      match reader { context := ⟨stream.named, referenceLimit⟩, node := root, depth := depthLimit }
        with
      | .error rejection => .error (.data rejection)
      | .ok a => if others.isEmpty then .ok a else .error .severalDocuments

end RecordFlow.Yaml
