import Mathlib
import RecordFlow.Number.Dyadic

/-!
# Fractions and integers as floats

A fraction is rounded to a finite float unless it is near the largest floats: rounding raises
its exponent until the significand has 53 bits, and by one more at most, and a float is packed
as an infinity only if the exponent is at its maximum. A document has only integers of 64
bits, which are far from that.

## Main definitions

* `PacksFinite` — a result is packed as a finite float

## Main results

* `isFinite_pack` — a fraction whose exponent is not too large is packed as a finite float
* `packsFinite_roundWithAccuracy`, `packsFinite_round` — a fraction that is not too
  large is rounded to a finite float
* `isFinite_floatOfInt` — the float nearest to an integer of 64 bits is finite
-/

namespace RecordFlow

open Float.Model (Format UnpackedFloat totalExponent)
open Float.Model.UnpackedFloat

/-- To shift a significand to the right is to divide it. -/
theorem mantissa_shiftRight (em : ExtendedMantissa) (n : ℕ) :
    (em >>> n).mantissa = em.mantissa / 2 ^ n := by
  induction n with
  | zero => simp [HShiftRight.hShiftRight, Nat.repeat]
  | succ n ih =>
    change (em >>> n).mantissa / 2 = _
    rw [ih, Nat.div_div_eq_div_mul, Nat.pow_succ]

/-- Rounding adds at most one to a significand. -/
theorem roundedMantissa_le (em : ExtendedMantissa) : em.roundedMantissa ≤ em.mantissa + 1 := by
  obtain ⟨m, round, sticky⟩ := em
  cases round <;> cases sticky <;>
    simp [ExtendedMantissa.roundedMantissa, ExtendedMantissa.accuracy, Accuracy.roundToNearestEven]
  omega

/-- A significand that is shifted to the left has as many bits more. -/
theorem shiftLeft_lt (m k : ℕ) : m <<< k < 2 ^ (m.log2 + k + 1) := by
  calc m <<< k = m * 2 ^ k := Nat.shiftLeft_eq ..
    _ < 2 ^ (m.log2 + 1) * 2 ^ k := Nat.mul_lt_mul_of_pos_right Nat.lt_log2_self (Nat.two_pow_pos k)
    _ = 2 ^ (m.log2 + k + 1) := by rw [← Nat.pow_add]; congr 1; omega

/-- The exponent at which a fraction has 53 bits. -/
theorem targetExponent_eq (m : ℕ) (e : ℤ) :
    Format.binary64.targetExponent (totalExponent m e) = max (m.log2 + e - 52) (-1074) := by
  simp only [Format.targetExponent, totalExponent, Format.mantissaBits, Format.minExponent]
  omega

section

variable (m : ℕ) (e : ℤ) (accuracy : Accuracy)

/-- An exponent is raised until the significand has 53 bits, and it is not lowered. -/
theorem exponent_shiftToTargetExponent :
    (shiftToTargetExponent Format.binary64 m e accuracy).2 =
      max e (max (m.log2 + e - 52) (-1074)) := by
  simp only [shiftToTargetExponent, shiftToExponent, targetExponent_eq]
  omega

/-- A significand that was brought to its exponent has at most 53 bits. -/
theorem mantissa_shiftToTargetExponent_lt :
    (shiftToTargetExponent Format.binary64 m e accuracy).1.mantissa < 2 ^ 53 := by
  have mantissa : (ExtendedMantissa.ofMantissaAndAccuracy m accuracy).mantissa = m := by
    rcases accuracy with _ | ⟨_ | _ | _⟩ <;> rfl
  simp only [shiftToTargetExponent, shiftToExponent, targetExponent_eq,
    mantissa_shiftRight, mantissa]
  generalize hn : (max ((m.log2 : ℤ) + e - 52) (-1074) - e).toNat = n
  rw [Nat.div_lt_iff_lt_mul (Nat.two_pow_pos n), ← Nat.pow_add]
  exact Nat.lt_log2_self.trans_le (Nat.pow_le_pow_right two_pos (by omega))

end

section

variable {sign : Sign} {m : ℕ} {e : ℤ} {accuracy : Accuracy}

/-- A float that is rounded to has the exponent at which the fraction
has 53 bits, or the next one. -/
theorem exponent_roundWithAccuracy_le {sign' : Sign} {m' : ℕ} {e' : ℤ} {pos : 0 < m'}
    (h : roundWithAccuracy Format.binary64 sign m e accuracy = .finite sign' m' e' pos) :
    e' ≤ max e (max (m.log2 + e - 52) (-1074)) + 1 := by
  have raised := exponent_shiftToTargetExponent m e accuracy
  have few := mantissa_shiftToTargetExponent_lt m e accuracy
  simp only [roundWithAccuracy] at h
  generalize shiftToTargetExponent Format.binary64 m e accuracy = once at h raised few
  -- Rounding shifts twice, since it may carry into one more bit.
  have carry : once.1.roundedMantissa.log2 ≤ 53 := by
    have := roundedMantissa_le once.1
    by_cases zero : once.1.roundedMantissa = 0
    · simp [zero]
    · exact Nat.lt_succ_iff.mp ((Nat.log2_lt zero).mpr (by omega))
  have again := exponent_shiftToTargetExponent once.1.roundedMantissa once.2 .exact
  generalize shiftToTargetExponent Format.binary64 once.1.roundedMantissa once.2 .exact =
    twice at h again
  split at h
  · cases h
  · cases h
    omega

/-- A fraction is rounded to a zero or to a float with a significand. -/
theorem roundWithAccuracy_cases (sign : Sign) (m : ℕ) (e : ℤ) (accuracy : Accuracy) :
    roundWithAccuracy Format.binary64 sign m e accuracy = .zero sign ∨
      ∃ m' e' pos, roundWithAccuracy Format.binary64 sign m e accuracy =
        .finite sign m' e' pos := by
  simp only [roundWithAccuracy]
  split
  next => exact .inl rfl
  next h => exact .inr ⟨_, _, Nat.pos_of_ne_zero h, rfl⟩

end

/-! ### Finite floats -/

/-- Only an exponent at its maximum stands for no finite float. -/
theorem isFinite_packComponents (spec : Format) (sign : Sign) {exponent : BitVec spec.exponentBits}
    (mantissa : BitVec spec.mantissaBitsWithoutImplicit) (h : exponent ≠ -1#_) :
    (unpack spec (packComponents spec sign exponent mantissa)).isFinite = true := by
  rw [unpack]
  simp only [unpackExponent_packComponents, unpackMantissa_packComponents, if_neg h]
  split
  · split <;> rfl
  · rfl

theorem isFinite_packedZero (spec : Format) (sign : Sign) :
    (unpack spec (packedZero spec sign)).isFinite = true :=
  isFinite_packComponents spec sign _ (by simp [Nat.pos_iff_ne_zero.mp spec.he])

/-- A fraction whose exponent is not too large is packed as a finite float. -/
theorem isFinite_pack (spec : Format) {sign : Sign} {m : Nat} {e : Int} {pos : 0 < m}
    (small : (e + spec.exponentBias + spec.mantissaBitsWithoutImplicit).toNat + 1 <
      2 ^ spec.exponentBits) :
    (unpack spec (pack spec (.finite sign m e pos))).isFinite = true := by
  simp only [pack]
  rw [if_neg (by omega)]
  split
  · -- A normal float: the biased exponent is the sum, which is below the maximum.
    refine isFinite_packComponents spec sign _ fun atMaximum => ?_
    have := congrArg BitVec.toNat atMaximum
    rw [BitVec.neg_one_eq_allOnes, BitVec.toNat_allOnes, BitVec.toNat_ofNat,
      Nat.mod_eq_of_lt (by omega)] at this
    omega
  · -- A subnormal one has the exponent zero.
    exact isFinite_packComponents spec sign _ (by simp [Nat.pos_iff_ne_zero.mp spec.he])

/-- A result is packed as a finite float. -/
def PacksFinite (a : UnpackedFloat) : Prop :=
  (unpack Format.binary64 (pack Format.binary64 a)).isFinite = true

theorem packsFinite_zero (sign : Sign) : PacksFinite (.zero sign) :=
  isFinite_packedZero Format.binary64 sign

section

variable (sign : Sign) {m : ℕ} {e : ℤ}

/-- A fraction is rounded to a finite float if neither it nor its exponent is too large. -/
theorem packsFinite_roundWithAccuracy (accuracy : Accuracy) (small : m.log2 + e ≤ 1022)
    (low : e ≤ 970) : PacksFinite (roundWithAccuracy Format.binary64 sign m e accuracy) := by
  rcases roundWithAccuracy_cases sign m e accuracy with zero | ⟨m', e', pos, finite⟩
  · rw [zero]
    exact packsFinite_zero sign
  · have := exponent_roundWithAccuracy_le finite
    rw [finite]
    refine isFinite_pack Format.binary64 ?_
    simp only [Format.exponentBias]
    omega

/-- A fraction that is brought to 53 bits first is rounded to a finite
float if it is not too large. -/
theorem packsFinite_round (small : m.log2 + e ≤ 1022) :
    PacksFinite (UnpackedFloat.round Format.binary64 sign m e) := by
  simp only [UnpackedFloat.round, decreaseExponent, targetExponent_eq]
  generalize hk : (e - max ((m.log2 : ℤ) + e - 52) (-1074)).toNat = k
  have more : (m <<< k).log2 ≤ m.log2 + k := by
    by_cases zero : m <<< k = 0
    · simp [zero]
    · exact Nat.lt_succ_iff.mp ((Nat.log2_lt zero).mpr (shiftLeft_lt m k))
  exact packsFinite_roundWithAccuracy sign .exact (by omega) (by omega)

end

/-- An integer over a power of two is rounded to a finite float if it is not too large. -/
theorem packsFinite_normalize {i e : ℤ} (zero : Sign) (small : i.natAbs.log2 + e ≤ 1022) :
    PacksFinite (UnpackedFloat.normalize Format.binary64 i e zero) := by
  rw [UnpackedFloat.normalize]
  split
  next negative =>
    have := compare_lt_iff_lt.mp negative
    rw [show (-i).toNat = i.natAbs by omega]
    exact packsFinite_round _ small
  next => exact packsFinite_zero _
  next positive =>
    have := compare_gt_iff_gt.mp positive
    rw [show i.toNat = i.natAbs by omega]
    exact packsFinite_round _ small

/-- The float nearest to an integer of 64 bits is finite. -/
theorem isFinite_floatOfInt {i : Int} (h : i.natAbs < 2 ^ 64) : (floatOfInt i).isFinite = true := by
  refine packsFinite_normalize .positive ?_
  by_cases zero : i.natAbs = 0
  · simp [zero]
  · have := (Nat.log2_lt zero).mpr h
    omega

end RecordFlow
