/-!
# White space

The characters that count as white space, and the trimming of a text at both ends.

## Main definitions

* `isBlank` — white space, by the property of that name and not by the ASCII subset
* `trim` — a text without the white space at its ends
-/

namespace RecordFlow.Text

/-- Code points of white space. -/
def blankCodes : List Nat :=
  [0x9, 0xA, 0xB, 0xC, 0xD, 0x20, 0x85, 0xA0, 0x1680, 0x2000, 0x2001, 0x2002, 0x2003, 0x2004,
   0x2005, 0x2006, 0x2007, 0x2008, 0x2009, 0x200A, 0x2028, 0x2029, 0x202F, 0x205F, 0x3000]

/-- Whether a character is white space. -/
def isBlank (c : Char) : Bool := blankCodes.contains c.toNat

/-- The characters of a text without the white space at both ends. -/
def trimChars (cs : List Char) : List Char :=
  ((cs.dropWhile isBlank).reverse.dropWhile isBlank).reverse

/-- A text without the white space at both ends. -/
def trim (text : String) : String := String.ofList (trimChars text.toList)

end RecordFlow.Text
