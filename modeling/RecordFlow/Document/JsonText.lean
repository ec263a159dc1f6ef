import RecordFlow.Document.Reader
import RecordFlow.Json.Skipping

/-!
# Reading typed data from JSON texts

The parts of a text are read when they are asked for, each in the way it is asked for. A
wrong shape and a fault of the text are found in the order of the text, and what is passed
over may hold what could not be read.

## Main definitions

* `Json.Unread` — a part of a text that has not been read
* `Json.readTyped` — typed data from a text
-/

namespace RecordFlow

namespace Json

/-- A part of a text that has not been read. `depth` is one more than the number of arrays and
objects that may be open in it. Where a part should be, but none is, the text is broken. -/
inductive Unread where
  | part (start : Cursor) (depth : Nat)
  | broken (fault : Fault)

/-- The rejection of a fault. -/
def rejectionOf (fault : Fault) : Rejection := ⟨.malformed fault.error, some (.offset fault.offset)⟩

namespace Unread

/-- The parts of an array behind its opening bracket or behind an item. -/
def items (depth : Nat) : (fuel : Nat) → (first : Bool) → Cursor → List Unread
  | 0, _, _ => []
  | fuel + 1, first, c =>
    match nextItem false first c with
    | .error fault => [.broken fault]
    | .ok (.closed _) => []
    | .ok (.item c) =>
      .part c depth ::
        match skipValue c with
        | .ok c => items depth fuel false c
        -- A part that cannot be passed over cannot be read either.
        | .error _ => []

/-- The entries of an object behind its opening brace or behind an entry. -/
def entries (depth : Nat) : (fuel : Nat) → (first : Bool) → Cursor → List (Entry Unread)
  | 0, _, _ => []
  | fuel + 1, first, c =>
    let stopped (fault : Fault) : List (Entry Unread) :=
      [{ name := "", colon := none, value := .broken fault,
          refusal? := some fun _ => rejectionOf fault }]
    match nextEntry false first c with
    | .error fault => stopped fault
    | .ok (.closed _) => []
    | .ok (.item c) =>
      match readString false (c.rest.drop 1) (c.offset + 1) 0 [] with
      | .error fault => stopped fault
      | .ok (name, c) =>
        let colon := some (Place.offset c.skipSpace.offset)
        match skipColon false c with
        | .error fault => [{ name, colon, value := .broken fault }]
        | .ok c =>
          { name, colon, value := .part c depth } ::
            match skipValue c with
            | .ok c => entries depth fuel false c
            | .error _ => []

/-- One level of a part. -/
def view : Unread → View Unread
  | broken fault => .broken (rejectionOf fault)
  | part c depth =>
    let c := c.skipSpace
    let read {α : Type} (result : Except Fault α) (level : α → View Unread) : View Unread :=
      match result with
      | .ok a => level a
      | .error fault => .broken (rejectionOf fault)
    let scalar : View Unread :=
      read (readValue false 1 c) fun (json, _) => json.viewWith fun _ => part c 0
    match c.rest with
    | '[' :: rest =>
      if depth ≤ 1 then .broken (rejectionOf (c.faultAhead false .tooDeep))
      else .list (items (depth - 1) (rest.length + 1) true c.skipOne)
    | '\x7b' :: rest =>
      if depth ≤ 1 then .broken (rejectionOf (c.faultAhead false .tooDeep))
      else .map (entries (depth - 1) (rest.length + 1) true c.skipOne)
    | _ => scalar

/-- The number of bytes in front of a part. -/
def before : Unread → Nat
  | part c _ => c.skipSpace.offset
  | broken fault => fault.offset

/-- The place behind a part, or what is wrong with it. -/
def behind : Unread → Except Fault Cursor
  | part c _ => skipValue c
  | broken fault => .error fault

/-- The number of bytes up to the end of a part. -/
def after (unread : Unread) : Nat :=
  match unread.behind with
  | .ok c => c.offset
  | .error fault => fault.offset

/-- What follows the content of a variant: the closing brace. -/
def closing (content : Unread) : Except Rejection Unit :=
  match content.behind with
  | .error fault => .error (rejectionOf fault)
  | .ok c =>
    let c := c.skipSpace
    match c.rest with
    | [] => .error (rejectionOf (c.fault .endInObject))
    | '\x7d' :: _ => .ok ()
    | _ => .error (rejectionOf (c.fault .expectedValue))

/-- The variant that a part names. The name is looked at before what follows it. -/
def choice : Unread → Choice Unread
  | broken fault => .refused (rejectionOf fault)
  | part c depth =>
    let c := c.skipSpace
    let named (c : Cursor) (use : String → Cursor → Choice Unread) : Choice Unread :=
      match readString false (c.rest.drop 1) (c.offset + 1) 0 [] with
      | .ok (name, c) => use name c
      | .error fault => .refused (rejectionOf fault)
    match c.rest with
    | [] => .refused (rejectionOf (c.faultAhead false .endInValue))
    | '"' :: _ => named c fun name c => .bare name (some (.offset c.offset))
    | '\x7b' :: _ =>
      let c := c.skipOne.skipSpace
      match c.rest with
      | [] => .refused (rejectionOf (c.faultAhead false .endInObject))
      | '"' :: _ => named c fun name c =>
        let content := match skipColon false c with
          | .ok c => part c (depth - 1)
          | .error fault => .broken fault
        .holding name (some (.offset c.offset)) content content.closing
      | _ => .refused (rejectionOf (c.faultAhead false .keyNotString))
    | _ => .refused (rejectionOf (c.faultAhead false .expectedValue))

/-- The text of a part that is a string. -/
def text? (unread : Unread) : Option String :=
  match unread.view with
  | .str s => some s
  | _ => none

/-- The document of a part. -/
def json : Unread → Except Rejection Json
  | broken fault => .error (rejectionOf fault)
  | part c depth => ((readValue false depth c).map Prod.fst).mapError rejectionOf

/-- Refuses a part that is one too many in its array, which should have
been closed in front of it. -/
def surplus : Unread → Rejection
  | part c _ => rejectionOf (c.skipSpace.faultAhead false .trailingCharacters)
  | broken fault =>
    match fault.error with
    | .trailingComma => rejectionOf fault
    | .endInList => rejectionOf fault
    | _ => rejectionOf { fault with error := .trailingCharacters }

instance : Document Unread where
  view := view
  manner := .text
  before unread := some (.offset unread.before)
  after unread := some (.offset unread.after)
  scalarText := text?
  isAbsent unread := .ok unread.view.isNull
  choice _ _ := choice
  json := json
  content := json
  skip unread := (unread.behind.map fun _ => ()).mapError rejectionOf
  surplus := surplus

end Unread

/-- The text of a rejection, with its place in a text. -/
def rejectionText (text : List Char) (rejection : Rejection) : String :=
  match rejection.place with
  | some (.offset bytes) => messageAt rejection.error.message (lineAndColumn text bytes)
  | _ => rejection.error.message

/-- Reads typed data from a JSON text. The message of a failure names its place. -/
def readTyped {α : Type} (reader : Reader Unread α) (text : String) : Except String α :=
  let chars := text.toList
  let root := Unread.part ⟨chars, 0⟩ depthLimit
  let result := do
    let a ← reader root
    let behind := (← root.behind.mapError rejectionOf).skipSpace
    if behind.rest.isEmpty then return a
    else .error (rejectionOf (behind.faultAhead false .trailingCharacters))
  result.mapError (rejectionText chars)

end Json

end RecordFlow
