/-!
# Digits

The values of digits and of texts that are made of them, in bases up to sixteen. In a base above ten
the letters from `a` on are digits too, in either case.

## Main definitions

* `digitsValue` — the value of decimal digits
* `digitValue?`, `natInBase?` — the value of a digit and of a text of digits in a base
* `hexDigit` — the digit of a value below sixteen
-/

namespace RecordFlow.Text

/-- The value of a decimal digit. -/
def decimalValue (c : Char) : Nat := c.toNat - '0'.toNat

/-- The value of decimal digits. -/
def digitsValue (digits : List Char) : Nat := digits.foldl (fun n c => n * 10 + decimalValue c) 0

/-- The value of a digit in a base up to sixteen. -/
def digitValue? (base : Nat) (c : Char) : Option Nat :=
  let value? :=
    if c.isDigit then some (decimalValue c)
    else if 'a' ≤ c ∧ c ≤ 'f' then some (c.toNat - 'a'.toNat + 10)
    else if 'A' ≤ c ∧ c ≤ 'F' then some (c.toNat - 'A'.toNat + 10)
    else none
  value?.bind fun value => if value < base then some value else none

/-- The number of a text of digits in a base. -/
def natInBase? (base : Nat) (digits : List Char) : Option Nat :=
  if digits.isEmpty then none
  else digits.foldlM (fun n c => (digitValue? base c).map (n * base + ·)) 0

/-- The hexadecimal digit of a value below sixteen, in lower case. -/
def hexDigit (n : Nat) : Char := (Nat.toDigits 16 n).headD '0'

theorem digitValue?_hexDigit {n : Nat} (h : n < 16) : digitValue? 16 (hexDigit n) = some n := by
  revert n
  decide

end RecordFlow.Text
