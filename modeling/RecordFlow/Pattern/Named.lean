import RecordFlow.Text.Age
import RecordFlow.Text.Segment

/-!
# Named sets of characters

The sets of characters that patterns call by name: the classes of ASCII, the classes with a letter
of their own, and the properties of the character standard. Names of properties may be written
with blanks, hyphens, underscores and a leading `is`, in either case. Patterns know the characters
of version 16 of the standard.

## Main definitions

* `Pattern.asciiClass?` — a class of ASCII by its name
* `Pattern.Kind` — digits, white space and characters of words
* `Pattern.property?` — the characters of a property
-/

namespace RecordFlow.Pattern

open Text (CodeSet Category)

/-- The edition of the character standard that patterns know. -/
def edition : Text.Edition := .v16

/-- The decimal digits of ASCII. -/
def asciiDigits : CodeSet := .range 0x30 0x39

/-- The letters of ASCII. -/
def asciiLetters : CodeSet := .ofRanges [(0x41, 0x5A), (0x61, 0x7A)]

/-- A class of ASCII by its name. -/
def asciiClass? (name : String) : Option CodeSet :=
  match name with
  | "alnum" => some (asciiDigits.union asciiLetters)
  | "alpha" => some asciiLetters
  | "ascii" => some (.range 0 0x7F)
  | "blank" => some (.ofRanges [(0x9, 0x9), (0x20, 0x20)])
  | "cntrl" => some (.ofRanges [(0, 0x1F), (0x7F, 0x7F)])
  | "digit" => some asciiDigits
  | "graph" => some (.range 0x21 0x7E)
  | "lower" => some (.range 0x61 0x7A)
  | "print" => some (.range 0x20 0x7E)
  | "punct" => some (.ofRanges [(0x21, 0x2F), (0x3A, 0x40), (0x5B, 0x60), (0x7B, 0x7E)])
  | "space" => some (.ofRanges [(0x9, 0xD), (0x20, 0x20)])
  | "upper" => some (.range 0x41 0x5A)
  | "word" => some (.unions [asciiDigits, asciiLetters, .single '_'])
  | "xdigit" => some (.ofRanges [(0x30, 0x39), (0x41, 0x46), (0x61, 0x66)])
  | _ => none

/-- The classes with a letter of their own. -/
inductive Kind where
  | digit
  | space
  | word
  deriving DecidableEq

/-- The decimal digits of all scripts. -/
def digits : CodeSet := edition.categories [.nd]

/-- The characters of words. -/
def wordCharacters : CodeSet := Text.Property.word edition

/-- The characters of words in ASCII. -/
def asciiWordCharacters : CodeSet := .unions [asciiDigits, asciiLetters, .single '_']

/-- The characters of a class, of all scripts or of ASCII only. -/
def Kind.set (kind : Kind) (unicode : Bool) : CodeSet :=
  match kind, unicode with
  | digit, true => digits
  | digit, false => asciiDigits
  | space, true => Text.PropertyList.whiteSpace
  | space, false => .ofRanges [(0x9, 0xD), (0x20, 0x20)]
  | word, true => wordCharacters
  | word, false => asciiWordCharacters

/-- A name without what does not tell names apart: a leading `is`, blanks, hyphens,
underscores, and all that is not ASCII. -/
def plainName (name : String) : String :=
  let keep (cs : List Char) : List Char :=
    (cs.filter fun c => c.toNat < 0x80 && c != ' ' && c != '_' && c != '-').map Char.toLower
  match name.toList with
  | i :: s :: rest =>
    if i.toLower = 'i' ∧ s.toLower = 's' then
      -- One property has a name of which only a single letter would be left.
      if keep rest = ['c'] then "isc" else String.ofList (keep rest)
    else String.ofList (keep name.toList)
  | cs => String.ofList (keep cs)

/-- The general categories by their short and long names. There is none for surrogates, which are no
characters. -/
def categoryNames : List (List String × List Category) :=
  [(["L", "Letter"], [.lu, .ll, .lt, .lm, .lo]), (["LC", "Cased_Letter"], [.lu, .ll, .lt]),
   (["Lu", "Uppercase_Letter"], [.lu]), (["Ll", "Lowercase_Letter"], [.ll]),
   (["Lt", "Titlecase_Letter"], [.lt]), (["Lm", "Modifier_Letter"], [.lm]),
   (["Lo", "Other_Letter"], [.lo]), (["M", "Mark", "Combining_Mark"], [.mn, .mc, .me]),
   (["Mn", "Nonspacing_Mark"], [.mn]), (["Mc", "Spacing_Mark"], [.mc]),
   (["Me", "Enclosing_Mark"], [.me]), (["N", "Number"], [.nd, .nl, .no]),
   (["Nd", "Decimal_Number", "digit"], [.nd]), (["Nl", "Letter_Number"], [.nl]),
   (["No", "Other_Number"], [.no]),
   (["P", "Punctuation", "punct"], [.pc, .pd, .ps, .pe, .pi, .pf, .po]),
   (["Pc", "Connector_Punctuation"], [.pc]), (["Pd", "Dash_Punctuation"], [.pd]),
   (["Ps", "Open_Punctuation"], [.ps]), (["Pe", "Close_Punctuation"], [.pe]),
   (["Pi", "Initial_Punctuation"], [.pi]), (["Pf", "Final_Punctuation"], [.pf]),
   (["Po", "Other_Punctuation"], [.po]), (["S", "Symbol"], [.sm, .sc, .sk, .so]),
   (["Sm", "Math_Symbol"], [.sm]), (["Sc", "Currency_Symbol"], [.sc]),
   (["Sk", "Modifier_Symbol"], [.sk]), (["So", "Other_Symbol"], [.so]),
   (["Z", "Separator"], [.zs, .zl, .zp]), (["Zs", "Space_Separator"], [.zs]),
   (["Zl", "Line_Separator"], [.zl]), (["Zp", "Paragraph_Separator"], [.zp]),
   (["C", "Other"], [.cc, .cf, .cs, .co, .cn]), (["Cc", "Control", "cntrl"], [.cc]),
   (["Cf", "Format"], [.cf]), (["Co", "Private_Use"], [.co]), (["Cn", "Unassigned"], [.cn])]

/-- Whether one of several names is meant by a plain name. -/
def isMeant (plain : String) (names : List String) : Bool :=
  names.any fun name => plainName name == plain

/-- The characters of a general category, or of one of the sets that are used like categories. -/
def category? (plain : String) : Option CodeSet :=
  match plain with
  | "any" => some .all
  | "ascii" => some (.range 0 0x7F)
  | "assigned" => some (edition.categories [.cn]).complement
  | _ =>
    (categoryNames.find? fun (names, _) => isMeant plain names).map fun (_, list) =>
      edition.categories list

/-- The characters of a script. -/
def script? (plain : String) : Option CodeSet := Text.charactersOf fun name => isMeant plain [name]

/-- The characters that are used in a script. -/
def scriptUse? (plain : String) : Option CodeSet :=
  Text.charactersUsedIn fun name => isMeant plain [name]

/-- The characters that a version of the standard knows, by the number of the version. -/
def age? (plain : String) : Option CodeSet := do
  let (major, minor, _) ← Text.ages.find? fun (major, minor, _) =>
    plain == s!"{major}.{minor}" || plain == s!"v{major}{minor}"
  if (major, minor) = (17, 0) then none else Text.knownBy? major minor

/-- The characters of a class of breaks. -/
def breakClass? (classes : List Text.Segment.BreakClass) (plain : String) : Option CodeSet :=
  (classes.find? fun c => isMeant plain c.names).map fun c => c.members edition

/-- The characters of a property that goes by its own name: a property that holds or does not, a
category, or a script. -/
def ofName? (name : String) : Option CodeSet :=
  let plain := plainName name
  match Text.Property.named.find? fun (names, _) => isMeant plain names with
  | some (_, members) => some (members edition)
  | none => (category? plain).or (script? plain)

/-- The characters for which a property with several values has one of them. -/
def ofValue? (name value : String) : Option CodeSet :=
  let value := plainName value
  match plainName name with
  | "generalcategory" | "gc" => category? value
  | "script" | "sc" => script? value
  | "scriptextensions" | "scx" => scriptUse? value
  | "age" => age? value
  | "graphemeclusterbreak" | "gcb" => breakClass? Text.Segment.graphemes value
  | "wordbreak" | "wb" => breakClass? Text.Segment.words value
  | "sentencebreak" | "sb" => breakClass? Text.Segment.sentences value
  | _ => none

/-- A text in front of the first place where another text stands in it, and what is behind that. -/
def splitAt? (separator : List Char) : (before : List Char) → List Char → Option (String × String)
  | _, [] => none
  | before, c :: cs =>
    if separator.isPrefixOf (c :: cs) then
      some (String.ofList before.reverse, String.ofList ((c :: cs).drop separator.length))
    else splitAt? separator (c :: before) cs

/-- The characters of a property, by its name or by its name and a value. The sign of inequality
means no more than the sign of equality. -/
def property? (text : List Char) : Option CodeSet :=
  match [['!', '='], [':'], ['=']].findSome? fun separator => splitAt? separator [] text with
  | some (name, value) => ofValue? name value
  | none => ofName? (String.ofList text)

end RecordFlow.Pattern
