import RecordFlow.Text.Property
import RecordFlow.Text.Script

/-!
# Breaks in texts

What a character means for the breaks between what a reader takes for one character, between words
and between sentences. Each of the three divisions gives every character a class; the characters of
no interest belong to none of the classes here.

## Main definitions

* `Segment.graphemes` — the classes for the breaks between characters as readers see them
* `Segment.words` — the classes for the breaks between words
* `Segment.sentences` — the classes for the breaks between sentences
-/

namespace RecordFlow.Text.Segment

open Property (listed)

/-- A class of characters: its long and short names, and its members in an edition. -/
structure BreakClass where
  names : List String
  members : Edition → CodeSet

/-- A class with the same members in all editions. -/
def fixed (names : List String) (lines : List String) : BreakClass :=
  ⟨names, fun _ => .ofLines lines⟩

/-- The first of the syllables that begin with the same two sounds, and all of them. -/
def hangulStarts : CodeSet := .ofCodes ((List.range 399).map fun k => 0xAC00 + 28 * k)

/-- The syllables of three sounds. -/
def hangulClosed : CodeSet := (CodeSet.range 0xAC00 0xD7A3).diff hangulStarts

/-- Skin tones and what extends the character before it, except the joiner of zero width. -/
def extending (e : Edition) : CodeSet :=
  ((Property.graphemeExtend e).union (e.keep PropertyList.emojiModifier)).diff
    (.range 0x200D 0x200D)

/-- What belongs to the character behind it. -/
def prepended (e : Edition) : CodeSet :=
  e.keep (PropertyList.prependedMark.union
    (.ofLines ["D4E 111C2-111C3 113D1 1193F 11941 11A3A 11A84-11A89 11D46 11F02"]))

/-- Controls, and unassigned code points that are not shown. -/
def controls (e : Edition) : CodeSet :=
  ((e.categories [.zl, .zp, .cc, .cf]).union
    ((e.categories [.cn]).inter (Property.defaultIgnorable e))).diff
      (.unions [.ofLines ["A D 200C-200D"], PropertyList.prependedMark, extending e])

/-- Marks with a place of their own beside the character before them. -/
def spacingMarks (e : Edition) : CodeSet :=
  ((e.categories [.mc]).union (.ofLines ["E33 EB3"])).diff
    ((extending e).union (.ofLines
      ["102B-102C 1038 1062-1064 1067-106D 1083 1087-108C 108F 109A-109C 1A61 1A63-1A64 AA7B AA7D",
       "11720-11721"]))

/-- The classes for the breaks between characters as readers see them. -/
def graphemes : List BreakClass :=
  [fixed ["CR"] ["D"], fixed ["LF"] ["A"], ⟨["Control", "CN"], controls⟩,
    ⟨["Extend", "EX"], extending⟩,
   ⟨["Prepend", "PP"], prepended⟩, ⟨["SpacingMark", "SM"], spacingMarks⟩,
   ⟨["Regional_Indicator", "RI"], listed PropertyList.regionalIndicator⟩, fixed ["ZWJ"] ["200D"],
   fixed ["L"] ["1100-115F A960-A97C"], fixed ["V"] ["1160-11A7 D7B0-D7C6 16D63 16D67-16D6A"],
   fixed ["T"] ["11A8-11FF D7CB-D7FB"], ⟨["LV"], fun _ => hangulStarts⟩,
   ⟨["LVT"], fun _ => hangulClosed⟩]

/-- What extends the character before it in words: marks, too. -/
def extendingWords (e : Edition) : CodeSet :=
  (extending e).union ((e.categories [.mc]).diff (.range 0x200D 0x200D))

/-- Format characters that are part of no number and of no joining. -/
def formats (e : Edition) : CodeSet :=
  ((e.categories [.cf]).diff (.ofLines ["200B-200D"])).diff
    ((extending e).union PropertyList.prependedMark)

/-- The characters of a script by its name. -/
def script (name : String) : CodeSet := (charactersOf (· == name)).getD .empty

/-- Katakana, with the marks that go with them. -/
def katakana : CodeSet :=
  (script "Katakana").union (.ofLines ["3031-3035 309B-309C 30A0 30FC FF70"])

/-- Letters of Hebrew. -/
def hebrewLetters (e : Edition) : CodeSet := (script "Hebrew").inter (e.categories [.lo])

/-- Letters of words in scripts that write blanks between words. -/
def wordLetters (e : Edition) : CodeSet :=
  let letters := (Property.alphabetic e).diff (.unions [PropertyList.ideographic,
    PropertyList.complexContext, script "Hiragana", katakana, hebrewLetters e, extendingWords e])
  letters.union (.ofLines
    ["2C2-2C5 2D2-2D7 2DE-2DF 2E5-2EB 2ED 2EF-2FF 55A-55C 55E 58A 5F3 70F A708-A716 A720-A721",
     "A789-A78A AB5B"])

/-- Digits, with the marks that cover numbers. -/
def numerals (e : Edition) : CodeSet :=
  (e.categories [.nd]).union (.ofLines ["66B 600-605 6DD 890-891 8E2 110BD 110CD"])

/-- The classes for the breaks between words. -/
def words : List BreakClass :=
  [fixed ["CR"] ["D"], fixed ["LF"] ["A"], fixed ["Newline", "NL"] ["B-C 85 2028-2029"],
   fixed ["Double_Quote", "DQ"] ["22"], fixed ["Single_Quote", "SQ"] ["27"],
   fixed ["MidNum", "MN"] ["2C 3B 37E 589 60C-60D 66C 7F8 2044 FE10 FE14 FE50 FE54 FF0C FF1B"],
   fixed ["MidNumLet", "MB"] ["2E 2018-2019 2024 FE52 FF07 FF0E"],
   fixed ["MidLetter", "ML"] ["3A B7 387 55F 5F4 2027 FE13 FE55 FF1A"],
   fixed ["ExtendNumLet", "EX"] ["5F 202F 203F-2040 2054 FE33-FE34 FE4D-FE4F FF3F"],
   fixed ["WSegSpace"] ["20 1680 2000-2006 2008-200A 205F 3000"], fixed ["ZWJ"] ["200D"],
   ⟨["Extend"], extendingWords⟩, ⟨["Format", "FO"], formats⟩,
   ⟨["Katakana", "KA"], fun _ => katakana⟩, ⟨["Hebrew_Letter", "HL"], hebrewLetters⟩,
   ⟨["ALetter", "LE"], wordLetters⟩, ⟨["Numeric", "NU"], numerals⟩,
   ⟨["Regional_Indicator", "RI"], listed PropertyList.regionalIndicator⟩]

/-- What extends the character before it in sentences. -/
def extendingSentences (e : Edition) : CodeSet :=
  .unions [Property.graphemeExtend e, e.categories [.mc], .range 0x200D 0x200D]

/-- Small letters of sentences, without those of Georgian, which has no capitals in running text. -/
def smallLetters (e : Edition) : CodeSet :=
  (Property.lowercase e).diff ((Property.graphemeExtend e).union (.ofLines ["10D0-10FA 10FD-10FF"]))

/-- Capitals of sentences, without those of Georgian. -/
def capitals (e : Edition) : CodeSet :=
  ((Property.uppercase e).union (e.categories [.lt])).diff (.ofLines ["1C90-1CBA 1CBD-1CBF"])

/-- Letters of sentences without a case. -/
def otherLetters (e : Edition) : CodeSet :=
  ((Property.alphabetic e).union (.ofLines ["5F3 70F"])).diff
    (.unions [smallLetters e, capitals e, extendingSentences e])

/-- Full stops, which do not always end a sentence. -/
def fullStops : List String := ["2E 2024 FE52 FF0E"]

/-- What closes or opens a quotation or a bracket. -/
def closings (e : Edition) : CodeSet :=
  (e.categories [.ps, .pe, .pi, .pf]).union
    (.ofLines ["22 27 275B-2760 2E00-2E01 2E06-2E08 2E0B 1F676-1F678"])

/-- The classes for the breaks between sentences. -/
def sentences : List BreakClass :=
  [fixed ["CR"] ["D"], fixed ["LF"] ["A"], fixed ["Sep", "SE"] ["85 2028-2029"],
   fixed ["Sp", "SP"] ["9 B-C 20 A0 1680 2000-200A 202F 205F 3000"],
   fixed ["ATerm", "AT"] fullStops, fixed ["SContinue", "SC"]
    ["2C-2D 3A-3B 37E 55D 60C-60D 7F8 1802 1808 2013-2014 3001 FE10-FE11 FE13-FE14 FE31-FE32",
     "FE50-FE51 FE54-FE55 FE58 FE63 FF0C-FF0D FF1A-FF1B FF64"],
   ⟨["STerm", "ST"], fun e => (e.keep PropertyList.sentenceTerminal).diff (.ofLines fullStops)⟩,
   ⟨["Close", "CL"], closings⟩, ⟨["Extend", "EX"], extendingSentences⟩,
   ⟨["Format", "FO"], fun e => (formats e).union (.range 0x200B 0x200B)⟩,
   ⟨["Lower", "LO"], smallLetters⟩, ⟨["Upper", "UP"], capitals⟩, ⟨["OLetter", "LE"], otherLetters⟩,
   ⟨["Numeric", "NU"], fun e => (numerals e).union (.range 0x66C 0x66C)⟩]

end RecordFlow.Text.Segment
