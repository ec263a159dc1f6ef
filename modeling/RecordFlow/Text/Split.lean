/-!
# Splitting, joining and replacing

Texts as lists of characters, cut at the occurrences of a separator. Occurrences are found from the
left and do not overlap.

## Main definitions

* `splitOn` — the parts between the occurrences of a separator
* `joinWith` — parts put together with a separator between them
* `replaceAll`, `replaceFirst` — occurrences of a text replaced by another
* `occursIn` — whether a text occurs in another
-/

namespace RecordFlow.Text

/-- The parts of a text between the occurrences of a separator. `skip` characters of the text are
the rest of an occurrence, and `part` is the part before the text, in reverse order. -/
def splitFrom (separator : List Char) : List Char → (skip : Nat) →
    (part : List Char) → List (List Char)
  | [], _, part => [part.reverse]
  | _ :: cs, skip + 1, part => splitFrom separator cs skip part
  | c :: cs, 0, part =>
    if separator.isPrefixOf (c :: cs) then
      part.reverse :: splitFrom separator cs (separator.length - 1) []
    else splitFrom separator cs 0 (c :: part)

/-- The parts of a text between the occurrences of a separator that is not empty. -/
def splitOn (separator text : List Char) : List (List Char) := splitFrom separator text 0 []

/-- Parts put together with a separator between neighbours. -/
def joinWith (separator : List Char) : List (List Char) → List Char
  | [] => []
  | [part] => part
  | part :: parts => part ++ separator ++ joinWith separator parts

/-- Replaces every occurrence of `search`, which is not empty; `skip` characters are the rest of an
occurrence. -/
def replaceFrom (search replacement : List Char) : List Char → (skip : Nat) → List Char
  | [], _ => []
  | _ :: cs, skip + 1 => replaceFrom search replacement cs skip
  | c :: cs, 0 =>
    if search.isPrefixOf (c :: cs) then
      replacement ++ replaceFrom search replacement cs (search.length - 1)
    else c :: replaceFrom search replacement cs 0

/-- Replaces every occurrence of `search`. An empty text occurs before every character and at the
end. -/
def replaceAll (search replacement text : List Char) : List Char :=
  if search.isEmpty then text.flatMap (fun c => replacement ++ [c]) ++ replacement
  else replaceFrom search replacement text 0

/-- Replaces the first occurrence of `search`. -/
def replaceFirst (search replacement : List Char) : List Char → List Char
  | [] => if search.isEmpty then replacement else []
  | c :: cs =>
    if search.isPrefixOf (c :: cs) then replacement ++ (c :: cs).drop search.length
    else c :: replaceFirst search replacement cs

/-- Whether a text occurs in another. -/
def occursIn (search : List Char) : List Char → Bool
  | [] => search.isEmpty
  | c :: cs => search.isPrefixOf (c :: cs) || occursIn search cs

/-- Strings joined with a separator. -/
def joinStrings (separator : String) (parts : List String) : String :=
  String.ofList (joinWith separator.toList (parts.map String.toList))

/-- A string cut at the occurrences of a character. -/
def splitAtChar (separator : Char) (text : String) : List String :=
  (splitOn [separator] text.toList).map String.ofList

end RecordFlow.Text
