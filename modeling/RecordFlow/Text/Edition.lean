import RecordFlow.Text.Category

/-!
# Editions of the character standard

Two versions of the character standard are in use: the case of texts follows version 17, and the
properties that patterns speak of follow version 16. The tables hold version 17; version 16 is what
remains of them without the characters that were added since, which count as unassigned.

## Main definitions

* `Edition` — a version of the standard
* `Edition.keep` — what a set holds of the characters that an edition knows
* `Edition.categories` — the code points of some categories in an edition
-/

namespace RecordFlow.Text

/-- A version of the character standard. -/
inductive Edition where
  | v16
  | v17
  deriving DecidableEq, Repr

/-- The characters that version 17 assigns and version 16 does not. -/
def later : CodeSet :=
  .ofLines
    ["88F C5C CDC 1ACF-1ADD 1AE0-1AEB 20C1 2B96 A7CE-A7CF A7D2 A7D4 A7F1 FBC3-FBD2 FD90-FD91",
     "FDC8-FDCE 10940-10959 10EC5-10EC7 10ED0-10ED8 10EFA-10EFB 11B60-11B67 11DB0-11DDB",
     "11DE0-11DE9 16EA0-16EB8 16EBB-16ED3 16FF2-16FF6 187F8-187FF 18D09-18D1E 18D80-18DF2",
     "1CCFA-1CCFC 1CEBA-1CED0 1CEE0-1CEF0 1E6C0-1E6DE 1E6E0-1E6F5 1E6FE-1E6FF 1F6D8 1F777-1F77A",
     "1F8D0-1F8D8 1FA54-1FA57 1FA8A 1FA8E 1FAC8 1FACD 1FAEA 1FAEF 1FBFA 2B73A-2B73F 2CEA2-2CEAD",
     "323B0-33479"]

/-- The one letter that was lower case before version 17 and has no case since. -/
def pharyngealFricative : CodeSet := .range 0x295 0x295

namespace Edition

/-- What a set holds of the characters that an edition knows. -/
def keep (e : Edition) (s : CodeSet) : CodeSet :=
  match e with
  | v16 => s.diff later
  | v17 => s

/-- Whether an edition knows a code point. -/
def knows (e : Edition) (code : Nat) : Bool := e == v17 || !later.holdsCode code

/-- The code points of some categories. -/
def categories (e : Edition) (list : List Category) : CodeSet :=
  match e with
  | v17 => ofCategories list
  | v16 =>
    let unchanged := (ofCategories list).diff (later.union pharyngealFricative)
    unchanged.union (.union (if list.contains .ll then pharyngealFricative else .empty)
      (if list.contains .cn then later else .empty))

end Edition

end RecordFlow.Text
