import RecordFlow.Document.Reader

/-!
# Tagged documents

A document of one of several shapes names its shape in a field, the tag. The tag is looked up first,
wherever it stands in the object; what is left is the content. In a list the tag is the first item.

## Main definitions

* `Content`, `splitTag` — the content of a tagged document, apart from its tag
* `readTag` — the shape that a tag names
* `readContent` — the fields of a content
-/

namespace RecordFlow

/-- A tagged document without its tag. -/
inductive Content (δ : Type) where
  | named (entries : List (Entry δ))
  | listed (items : List δ)

section

variable {δ α β : Type} [Document δ]

/-- The tag of a document one level deep and what is left of it. -/
def splitTag (name expecting : String) (view : View δ) : Except Rejection (δ × Content δ) :=
  match view with
  | .map entries =>
    match entries.find? (·.name == name) with
    | some tag => .ok (tag.value, .named (entries.filter (·.name != name)))
    | none => .error ⟨.missingField name, none⟩
  | .list (tag :: rest) => .ok (tag, .listed rest)
  | .list [] => .error ⟨.missingField name, none⟩
  | .broken rejection => .error rejection
  | other => .error ⟨.invalidType other.found expecting, none⟩

/-- The content of a tagged document, as a document that has the same parts. -/
def Content.view : Content δ → View δ
  | .named entries => .map entries
  | .listed items => .list items

/-- The shape that a tag names. A tag that was set aside may be the number of the shape. -/
def readTag (manner : Manner) (shapes : List (String × α)) (tag : δ) : Except Rejection α :=
  match view tag, manner with
  | .str name, _ =>
    match shapes.lookup name with
    | some shape => .ok shape
    | none => .error ⟨.unknownVariant name (shapes.map Prod.fst), none⟩
  | .int i, .setAside =>
    if 0 ≤ i then
      match shapes[i.toNat]? with
      | some (_, shape) => .ok shape
      | none =>
        .error ⟨.invalidValue (.int i) ("variant index 0 <= i < " ++ toString shapes.length), none⟩
    else .error ⟨.invalidType (.int i) "variant identifier", none⟩
  | other, _ => .error ⟨.invalidType other.found "variant identifier", none⟩

/-- The fields of a content. -/
def readContent (expecting : String) (reader : FieldReader δ α) : Content δ → Except Rejection α
  | .named entries => readEntries reader entries none
  | .listed items => readItems expecting reader items none

/-- A content that has no fields. Entries of an object do not count,
items of a list are too many. -/
def readNoFields (a : α) : Content δ → Except Rejection α
  | .named _ => .ok a
  | .listed [] => .ok a
  | .listed (_ :: rest) =>
    .error ⟨.invalidLength (rest.length + 1) (elementCount 0 ++ " in sequence"), none⟩

end

end RecordFlow
