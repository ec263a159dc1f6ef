import RecordFlow.Text.CodeSet

/-!
# Characters as bytes

The bytes of the characters of a set, as sequences of byte ranges: a text of one character belongs
to the set if its bytes fall into the ranges of one of the sequences, one by one.

## Main definitions

* `Utf8.sequences` — the sequences of a range of code points
* `Utf8.sequencesOf` — the sequences of a set
-/

namespace RecordFlow.Pattern.Utf8

open Text (CodeSet)

/-- Ranges of bytes, one for each byte of a character. -/
abbrev Sequence := List (Nat × Nat)

/-- The first code points that need two, three and four bytes. -/
def lengthStarts : List Nat := [0x80, 0x800, 0x10000]

/-- The bytes of a code point. -/
def encode (code : Nat) : List Nat :=
  if code < 0x80 then [code]
  else if code < 0x800 then [0xC0 + code / 0x40, 0x80 + code % 0x40]
  else if code < 0x10000 then [0xE0 + code / 0x1000, 0x80 + code / 0x40 % 0x40, 0x80 + code % 0x40]
  else [0xF0 + code / 0x40000, 0x80 + code / 0x1000 % 0x40, 0x80 + code / 0x40 % 0x40,
    0x80 + code % 0x40]

/-- Where a range is cut so that each of its characters has a free choice of its last bytes, if it
must be: `span` code points share all but those bytes. -/
def cut? (first last span : Nat) : Option Nat :=
  if first / span = last / span then none
  else if first % span ≠ 0 then some (first / span * span + span)
  else if (last + 1) % span ≠ 0 then some (last / span * span)
  else none

/-- The code point where the second part of a range begins if the range
is no sequence as it stands. -/
def split? (first last : Nat) : Option Nat :=
  (lengthStarts.find? fun start => first < start && start ≤ last).or
    (if last < 0x80 then none else [0x40, 0x1000, 0x40000].findSome? (cut? first last))

/-- The sequences of a range of code points in ascending order; `fuel`
bounds how often it is cut. -/
def sequencesFrom : (fuel : Nat) → (first last : Nat) → List Sequence
  | 0, _, _ => []
  | fuel + 1, first, last =>
    match split? first last with
    | some middle => sequencesFrom fuel first (middle - 1) ++ sequencesFrom fuel middle last
    | none => [(encode first).zip (encode last)]

/-- The sequences of a range of code points, without the surrogates, which are no characters. -/
def sequences (range : Nat × Nat) : List Sequence :=
  let (first, last) := range
  let part (first last : Nat) : List Sequence :=
    if first ≤ last then sequencesFrom 16 first last else []
  part first (min last 0xD7FF) ++ part (max first 0xE000) last

/-- The sequences of a set in ascending order. -/
def sequencesOf (s : CodeSet) : List Sequence := s.ranges.flatMap sequences

end RecordFlow.Pattern.Utf8
