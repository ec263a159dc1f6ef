import RecordFlow.Text.Digits

/-!
# Random identifiers

The text of a random identifier of 128 bits: groups of hexadecimal digits, in which
six bits tell that it is random.
-/

namespace RecordFlow.Text

/-- Two hexadecimal digits. -/
def hexPair (byte : UInt8) : List Char :=
  [hexDigit (byte.toNat / 16), hexDigit (byte.toNat % 16)]

/-- The bytes with the marks of a random identifier: the version four and its variant. -/
def markRandom (bytes : List UInt8) : List UInt8 :=
  (bytes.modify 6 fun b => (b &&& 0x0f) ||| 0x40).modify 8 fun b => (b &&& 0x3f) ||| 0x80

/-- Digits in groups of given lengths. -/
def grouped : (lengths : List Nat) → List Char → List (List Char)
  | [], _ => []
  | n :: lengths, digits => digits.take n :: grouped lengths (digits.drop n)

/-- The identifier of sixteen bytes. -/
def uuidText (bytes : List UInt8) : String :=
  let digits := (markRandom bytes).flatMap hexPair
  "-".intercalate ((grouped [8, 4, 4, 4, 12] digits).map String.ofList)

end RecordFlow.Text
