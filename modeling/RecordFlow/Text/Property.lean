import RecordFlow.Text.Case

/-!
# Properties of characters

The properties that hold or do not hold of a character, in an edition of the standard. Most are
made of general categories and a list of further characters; those about change tell what the
case mappings do to a character.

## Main definitions

* `Property.alphabetic`, `Property.lowercase`, `Property.uppercase` — letters and their case
* `Property.word` — the characters of words
* `Property.named` — all properties with their names
-/

namespace RecordFlow.Text.Property

open PropertyList (otherAlphabetic otherLowercase otherUppercase)

/-- Letters of all kinds. -/
def letters : List Category := [.lu, .ll, .lt, .lm, .lo]

/-- Lower case. -/
def lowercase (e : Edition) : CodeSet := (e.categories [.ll]).union (e.keep otherLowercase)

/-- Upper case. -/
def uppercase (e : Edition) : CodeSet := (e.categories [.lu]).union (e.keep otherUppercase)

/-- Characters with a case. -/
def cased (e : Edition) : CodeSet := .unions [lowercase e, uppercase e, e.categories [.lt]]

/-- Characters that are skipped when the neighbours of a character are asked for their case. -/
def caseIgnorable (e : Edition) : CodeSet :=
  (e.categories [.mn, .me, .cf, .lm, .sk]).union (.ofCodes wordPunctuation)

/-- Alphabetic characters. -/
def alphabetic (e : Edition) : CodeSet :=
  .unions [e.categories (.nl :: letters), e.keep otherAlphabetic, e.keep otherLowercase,
    e.keep otherUppercase]

/-- Mathematical characters. -/
def math (e : Edition) : CodeSet := (e.categories [.sm]).union (e.keep PropertyList.otherMath)

/-- Characters that extend the one before them. -/
def graphemeExtend (e : Edition) : CodeSet :=
  (e.categories [.mn, .me]).union (e.keep PropertyList.otherGraphemeExtend)

/-- Characters that stand for themselves. -/
def graphemeBase (e : Edition) : CodeSet :=
  (CodeSet.all.diff (e.categories [.cc, .cf, .cs, .co, .cn, .zl, .zp])).diff (graphemeExtend e)

/-- Characters that start an identifier. -/
def idStart (e : Edition) : CodeSet :=
  ((e.categories (.nl :: letters)).union (e.keep PropertyList.otherIdStart)).diff
    (.range 0x2E2F 0x2E2F)

/-- Characters that go on an identifier. -/
def idContinue (e : Edition) : CodeSet :=
  .unions [idStart e, e.categories [.mn, .mc, .nd, .pc], e.keep PropertyList.otherIdContinue]

/-- Characters whose compatible form goes on no identifier. -/
def notContinuing : CodeSet :=
  .ofLines ["37A 309B-309C FC5E-FC63 FDFA-FDFB FE70 FE72 FE74 FE76 FE78 FE7A FE7C FE7E"]

/-- Characters whose compatible form starts no identifier. -/
def notStarting : CodeSet := .ofLines ["E33 EB3 FF9E-FF9F"]

/-- Characters that start an identifier in all compatible forms. -/
def xidStart (e : Edition) : CodeSet := (idStart e).diff (notContinuing.union notStarting)

/-- Characters that go on an identifier in all compatible forms. -/
def xidContinue (e : Edition) : CodeSet := (idContinue e).diff notContinuing

/-- Format characters that are shown all the same. -/
def shownFormat : CodeSet :=
  .ofLines ["600-605 6DD 70F 890-891 8E2 FFF9-FFFB 110BD 110CD 13430-1343F"]

/-- Code points that are not shown where nothing is known about them. -/
def defaultIgnorable (e : Edition) : CodeSet :=
  (CodeSet.unions [e.categories [.cf], PropertyList.variationSelector,
    PropertyList.otherDefaultIgnorable]).diff shownFormat

/-- Pictographs, with the code points that are reserved for them. -/
def extendedPictographic (e : Edition) : CodeSet :=
  match e with
  | .v16 => PropertyList.extendedPictographicBefore
  | .v17 => PropertyList.extendedPictographic

/-- Characters that upper case changes. -/
def changesInUpper (e : Edition) : CodeSet :=
  (CodeSet.ofCodes ((pairsOf e upperRuns).map Prod.fst)).union
    (.ofCodes (upperSequences.map Prod.fst))

/-- Characters that lower case changes. -/
def changesInLower (e : Edition) : CodeSet :=
  (CodeSet.ofCodes ((pairsOf e lowerRuns).map Prod.fst)).union (.range 0x130 0x130)

/-- Characters that title case changes: title case leaves Georgian letters as they are, and it
leaves the letters of that case but not the capitals beside them. -/
def changesInTitle (e : Edition) : CodeSet :=
  ((changesInUpper e).diff ((e.categories [.lt]).union (.ofLines ["10D0-10FA 10FD-10FF"]))).union
    (.ofLines ["1C4 1C7 1CA 1F1"])

/-- Characters that folding changes: the capitals of Cherokee are its representatives. -/
def changesInFolding (e : Edition) : CodeSet :=
  ((changesInLower e).diff (.range 0x13A0 0x13F5)).union (e.keep PropertyList.foldsBeyondLower)

/-- Characters that one of the cases changes. -/
def changesInCase (e : Edition) : CodeSet :=
  .unions [changesInUpper e, changesInLower e, changesInTitle e]

/-- Mathematical characters that start an identifier in compatible notations. -/
def idMathStart : CodeSet :=
  .ofLines ["2202 2207 221E 1D6C1 1D6DB 1D6FB 1D715 1D735 1D74F 1D76F 1D789 1D7A9 1D7C3"]

/-- Mathematical characters that go on an identifier in compatible notations. -/
def idMathContinue : CodeSet :=
  idMathStart.union (.ofLines ["B2-B3 B9 2070 2074-207E 2080-208E"])

/-- Marks that are combined in another order than their classes say. -/
def modifierCombiningMark : CodeSet :=
  .ofLines ["654-655 658 6DC 6E3 6E7-6E8 8CA-8CB 8CD-8CF 8D3 8F3"]

/-- Characters of words: alphabetic ones, marks, digits, connectors, and the controls of joining. -/
def word (e : Edition) : CodeSet :=
  .unions [alphabetic e, e.categories [.mn, .mc, .me, .nd, .pc], PropertyList.joinControl]

/-- A listed property as far as an edition knows its characters. -/
def listed (s : CodeSet) (e : Edition) : CodeSet := e.keep s

/-- All properties: long and short names, and what they hold in an edition. -/
def named : List (List String × (Edition → CodeSet)) :=
  [(["ASCII_Hex_Digit", "AHex"], listed PropertyList.asciiHexDigit),
   (["Alphabetic", "Alpha"], alphabetic),
   (["Bidi_Control", "Bidi_C"], listed PropertyList.bidiControl),
   (["Case_Ignorable", "CI"], caseIgnorable),
   (["Cased"], cased),
   (["Changes_When_Casefolded", "CWCF"], changesInFolding),
   (["Changes_When_Casemapped", "CWCM"], changesInCase),
   (["Changes_When_Lowercased", "CWL"], changesInLower),
   (["Changes_When_Titlecased", "CWT"], changesInTitle),
   (["Changes_When_Uppercased", "CWU"], changesInUpper),
   (["Dash"], listed PropertyList.dash),
   (["Default_Ignorable_Code_Point", "DI"], defaultIgnorable),
   (["Deprecated", "Dep"], listed PropertyList.deprecated),
   (["Diacritic", "Dia"], listed PropertyList.diacritic),
   (["Emoji"], listed PropertyList.emoji),
   (["Emoji_Component", "EComp"], listed PropertyList.emojiComponent),
   (["Emoji_Modifier", "EMod"], listed PropertyList.emojiModifier),
   (["Emoji_Modifier_Base", "EBase"], listed PropertyList.emojiModifierBase),
   (["Emoji_Presentation", "EPres"], listed PropertyList.emojiPresentation),
   (["Extended_Pictographic", "ExtPict"], extendedPictographic),
   (["Extender", "Ext"], listed PropertyList.extender),
   (["Grapheme_Base", "Gr_Base"], graphemeBase),
   (["Grapheme_Extend", "Gr_Ext"], graphemeExtend),
   (["Grapheme_Link", "Gr_Link"], listed PropertyList.graphemeLink),
   (["Hex_Digit", "Hex"], listed PropertyList.hexDigit),
   (["Hyphen"], listed PropertyList.hyphen),
   (["IDS_Binary_Operator", "IDSB"], listed PropertyList.idsBinary),
   (["IDS_Trinary_Operator", "IDST"], listed PropertyList.idsTrinary),
   (["IDS_Unary_Operator", "IDSU"], listed (.range 0x2FFE 0x2FFF)),
   (["ID_Compat_Math_Continue"], listed idMathContinue),
   (["ID_Compat_Math_Start"], listed idMathStart),
   (["ID_Continue", "IDC"], idContinue),
   (["ID_Start", "IDS"], idStart),
   (["Ideographic", "Ideo"], listed PropertyList.ideographic),
   (["Join_Control", "Join_C"], listed PropertyList.joinControl),
   (["Logical_Order_Exception", "LOE"], listed PropertyList.logicalOrderException),
   (["Lowercase", "Lower"], lowercase),
   (["Math"], math),
   (["Modifier_Combining_Mark", "MCM"], listed modifierCombiningMark),
   (["Noncharacter_Code_Point", "NChar"], listed PropertyList.noncharacter),
   (["Other_Alphabetic", "OAlpha"], listed otherAlphabetic),
   (["Other_Default_Ignorable_Code_Point", "ODI"], listed PropertyList.otherDefaultIgnorable),
   (["Other_Grapheme_Extend", "OGr_Ext"], listed PropertyList.otherGraphemeExtend),
   (["Other_ID_Continue", "OIDC"], listed PropertyList.otherIdContinue),
   (["Other_ID_Start", "OIDS"], listed PropertyList.otherIdStart),
   (["Other_Lowercase", "OLower"], listed otherLowercase),
   (["Other_Math", "OMath"], listed PropertyList.otherMath),
   (["Other_Uppercase", "OUpper"], listed otherUppercase),
   (["Pattern_Syntax", "Pat_Syn"], fun _ => PropertyList.patternSyntax),
   (["Pattern_White_Space", "Pat_WS"], listed PropertyList.patternWhiteSpace),
   (["Prepended_Concatenation_Mark", "PCM"], listed PropertyList.prependedMark),
   (["Quotation_Mark", "QMark"], listed PropertyList.quotationMark),
   (["Radical"], listed PropertyList.radical),
   (["Regional_Indicator", "RI"], listed PropertyList.regionalIndicator),
   (["Sentence_Terminal", "STerm"], listed PropertyList.sentenceTerminal),
   (["Soft_Dotted", "SD"], listed PropertyList.softDotted),
   (["Terminal_Punctuation", "Term"], listed PropertyList.terminalPunctuation),
   (["Unified_Ideograph", "UIdeo"], listed PropertyList.unifiedIdeograph),
   (["Uppercase", "Upper"], uppercase),
   (["Variation_Selector", "VS"], listed PropertyList.variationSelector),
   (["White_Space", "WSpace", "space"], listed PropertyList.whiteSpace),
   (["XID_Continue", "XIDC"], xidContinue),
   (["XID_Start", "XIDS"], xidStart)]

end RecordFlow.Text.Property
