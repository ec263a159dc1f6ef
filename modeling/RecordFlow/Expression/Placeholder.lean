import RecordFlow.Json.Printer
import RecordFlow.Text.Blank

/-!
# Placeholders

A text with placeholders such as `\x7b\x7bname\x7d\x7d`, each of which
stands for a field of a record.

## Main definitions

* `placeholder?` — the placeholder that a text starts with
* `fillPlaceholders` — the text with the placeholders replaced
-/

namespace RecordFlow

/-- Whether a character may occur in a name. -/
def isNameChar (c : Char) : Bool := c != '\x7b' && c != '\x7d' && !Text.isBlank c

/-- The name of the placeholder that a text starts with, and the text behind it. Blanks
around the name do not count. -/
def placeholder? (text : List Char) : Option (List Char × List Char) :=
  match text with
  | '\x7b' :: '\x7b' :: rest =>
    let rest := rest.dropWhile Text.isBlank
    let name := rest.takeWhile isNameChar
    match (rest.dropWhile isNameChar).dropWhile Text.isBlank with
    | '\x7d' :: '\x7d' :: rest => if name.isEmpty then none else some (name, rest)
    | _ => none
  | _ => none

/-- The text with every placeholder replaced by the text of its field; an absent field has none.
What was put in is not looked at again. `fuel` of the length of the text is enough. -/
def fillFrom (record : Record) : (fuel : Nat) → List Char → List Char
  | 0, text => text
  | _ + 1, [] => []
  | fuel + 1, c :: rest =>
    match placeholder? (c :: rest) with
    | some (name, rest) =>
      (((record.get? (String.ofList name)).map Value.toText).getD "").toList ++
        fillFrom record fuel rest
    | none => c :: fillFrom record fuel rest

/-- The text of a template for a record. -/
def fillPlaceholders (template : String) (record : Record) : String :=
  String.ofList (fillFrom record template.length template.toList)

end RecordFlow
