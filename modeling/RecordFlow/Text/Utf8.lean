/-!
# Text in bytes

Text is stored as UTF-8. Bytes that are not UTF-8 are text up to the first byte that belongs to no
character; such a byte is called stray.

## Main definitions

* `byteCount` — the number of bytes of characters
* `textOf` — the text at the start of bytes, and whether stray bytes follow
* `bytesOfText` — the bytes of a text

## Main results

* `textOf_bytesOfText` — the bytes of a text are read as that text
-/

namespace RecordFlow.Text

/-- The number of bytes of characters. -/
def byteCount (cs : List Char) : Nat := (cs.map Char.utf8Size).foldr (· + ·) 0

@[simp] theorem byteCount_nil : byteCount [] = 0 := rfl

@[simp] theorem byteCount_cons (c : Char) (cs : List Char) :
    byteCount (c :: cs) = c.utf8Size + byteCount cs := by
  simp [byteCount]

/-- The characters from a place on, up to the first stray byte; at most `fuel` of them. -/
def charsFrom (bytes : ByteArray) (place : Nat) : (fuel : Nat) → List Char
  | 0 => []
  | fuel + 1 =>
    match bytes.utf8DecodeChar? place with
    | some c => c :: charsFrom bytes (place + c.utf8Size) fuel
    | none => []

/-- The characters at the start of bytes, and whether stray bytes follow. -/
def textOf (bytes : ByteArray) : List Char × Bool :=
  match String.fromUTF8? bytes with
  | some s => (s.toList, false)
  | none => (charsFrom bytes 0 bytes.size, true)

/-- The bytes of a text. -/
def bytesOfText (s : String) : ByteArray := s.toUTF8

/-- The bytes of a text are valid, so the check for that passes. -/
theorem fromUTF8?_toUTF8 (s : String) : String.fromUTF8? s.toUTF8 = some s := by
  rw [String.fromUTF8?, String.toUTF8_eq_toByteArray, dif_pos s.isValidUTF8]
  rfl

theorem textOf_bytesOfText (s : String) : textOf (bytesOfText s) = (s.toList, false) := by
  rw [textOf, bytesOfText, fromUTF8?_toUTF8]

end RecordFlow.Text
