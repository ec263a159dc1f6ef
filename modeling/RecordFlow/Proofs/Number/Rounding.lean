import RecordFlow.Proofs.Number.Comparison
import RecordFlow.Proofs.Number.FloatOfInt

/-!
# Integers that are rounded to floats

An integer is rounded to the nearest number with 53 bits, an even one if two are
equally near. Rounding keeps the order of integers, though it may make two of them one;
up to `2 ^ 53` it changes nothing.

## Main definitions

* `nearest`, `nearestInt` — the number that an integer is rounded to

## Main results

* `number?_floatOfInt` — the float of an integer is that number
* `nearestInt_mono`, `nearestInt_of_natAbs_le` — rounding keeps the order, and small integers
* `nearestInt_le_float`, `float_le_nearestInt` — an integer is not rounded past a float
-/

namespace RecordFlow

open Float.Model (Format UnpackedFloat totalExponent)
open Float.Model.UnpackedFloat

/-- A significand without further bits. -/
def exactMantissa (m : ℕ) : ExtendedMantissa := .ofMantissaAndAccuracy m .exact

/-- A natural number rounded to 53 bits. -/
def nearest (m : ℕ) : ℕ :=
  (exactMantissa m >>> (m.log2 - 52)).roundedMantissa * 2 ^ (m.log2 - 52)

/-- An integer rounded to 53 bits. -/
def nearestInt (i : ℤ) : ℤ := i.sign * nearest i.natAbs

/-! ### Shifting and rounding -/

/-- A significand with its two further bits as one number: the order that
shifting and rounding keep. -/
def extendedBits (em : ExtendedMantissa) : ℕ :=
  4 * em.mantissa + 2 * em.roundBit.toNat + em.stickyBit.toNat

theorem extendedBits_shiftRight_mono {em em' : ExtendedMantissa}
    (le : extendedBits em ≤ extendedBits em') (n : ℕ) :
    extendedBits (em >>> n) ≤ extendedBits (em' >>> n) := by
  induction n with
  | zero => exact le
  | succ n ih =>
    change extendedBits (em >>> n).shiftRightOne ≤ extendedBits (em' >>> n).shiftRightOne
    generalize em >>> n = a at ih
    generalize em' >>> n = b at ih
    obtain ⟨m, round, sticky⟩ := a
    obtain ⟨m', round', sticky'⟩ := b
    simp only [extendedBits, ExtendedMantissa.shiftRightOne] at ih ⊢
    rcases Nat.mod_two_eq_zero_or_one m with hm | hm <;>
      rcases Nat.mod_two_eq_zero_or_one m' with hm' | hm' <;>
      cases round <;> cases sticky <;> cases round' <;> cases sticky' <;>
      simp [hm, hm'] at ih ⊢ <;> omega

theorem roundedMantissa_mono {em em' : ExtendedMantissa} (le : extendedBits em ≤ extendedBits em') :
    em.roundedMantissa ≤ em'.roundedMantissa := by
  obtain ⟨m, round, sticky⟩ := em
  obtain ⟨m', round', sticky'⟩ := em'
  simp only [extendedBits] at le
  cases round <;> cases sticky <;> cases round' <;> cases sticky' <;>
    simp [ExtendedMantissa.roundedMantissa, ExtendedMantissa.accuracy,
      Accuracy.roundToNearestEven] at le ⊢ <;> omega

theorem le_roundedMantissa (em : ExtendedMantissa) : em.mantissa ≤ em.roundedMantissa := by
  obtain ⟨m, round, sticky⟩ := em
  cases round <;> cases sticky <;>
    simp [ExtendedMantissa.roundedMantissa, ExtendedMantissa.accuracy, Accuracy.roundToNearestEven]

/-- What a significand with `53 + n` bits is rounded to has 53 bits, or it
is the least number with 54. -/
theorem roundedMantissa_shiftRight_bounds {m n : ℕ} (log : m.log2 = 52 + n) :
    2 ^ 52 ≤ (exactMantissa m >>> n).roundedMantissa ∧
      (exactMantissa m >>> n).roundedMantissa ≤ 2 ^ 53 := by
  have nonzero : m ≠ 0 := by
    rintro rfl
    rw [Nat.log2_zero] at log
    omega
  obtain ⟨low, high⟩ := (Nat.log2_eq_iff nonzero).mp log
  have mantissa := mantissa_shiftRight (exactMantissa m) n
  have below := le_roundedMantissa (exactMantissa m >>> n)
  have above := roundedMantissa_le (exactMantissa m >>> n)
  change _ = m / 2 ^ n at mantissa
  have quotientLow : 2 ^ 52 ≤ m / 2 ^ n := by
    rw [Nat.le_div_iff_mul_le (Nat.two_pow_pos n), ← Nat.pow_add]
    exact low
  have quotientHigh : m / 2 ^ n < 2 ^ 53 := by
    rw [Nat.div_lt_iff_lt_mul (Nat.two_pow_pos n), ← Nat.pow_add]
    exact lt_of_lt_of_eq high (by congr 1; omega)
  omega

theorem nearest_of_lt {m : ℕ} (h : m < 2 ^ 53) : nearest m = m := by
  have log : m.log2 - 52 = 0 := by
    by_cases zero : m = 0
    · simp [zero]
    · have := (Nat.log2_lt zero).mpr h
      omega
  rw [nearest, log, pow_zero, mul_one]
  rfl

/-- Rounding keeps the order. -/
theorem nearest_mono {m m' : ℕ} (le : m ≤ m') : nearest m ≤ nearest m' := by
  by_cases zero : m = 0
  · rw [zero, nearest_of_lt (by decide)]
    exact Nat.zero_le _
  have logs : m.log2 ≤ m'.log2 := (Nat.le_log2 (by omega)).mpr (le_trans (Nat.log2_self_le zero) le)
  rcases (show m.log2 - 52 ≤ m'.log2 - 52 by omega).eq_or_lt with same | less
  · -- As many bits are lost of both.
    rw [nearest, nearest, same]
    refine Nat.mul_le_mul_right _ (roundedMantissa_mono (extendedBits_shiftRight_mono ?_ _))
    change 4 * m + 0 + 0 ≤ 4 * m' + 0 + 0
    omega
  · -- The greater one has more bits, and what the lesser one is
    -- rounded to has one bit more at most.
    obtain ⟨low, -⟩ :=
      roundedMantissa_shiftRight_bounds (show m'.log2 = 52 + (m'.log2 - 52) by omega)
    have high : nearest m ≤ 2 ^ 53 * 2 ^ (m.log2 - 52) := by
      by_cases few : m < 2 ^ 53
      · rw [nearest_of_lt few]
        exact le_trans few.le (Nat.le_mul_of_pos_right _ (Nat.two_pow_pos _))
      · have := (Nat.le_log2 zero).mpr (Nat.le_of_not_lt few)
        exact Nat.mul_le_mul_right _
          (roundedMantissa_shiftRight_bounds (show m.log2 = 52 + (m.log2 - 52) by omega)).2
    calc nearest m ≤ 2 ^ 53 * 2 ^ (m.log2 - 52) := high
      _ = 2 ^ 52 * 2 ^ (m.log2 - 52 + 1) := by ring
      _ ≤ 2 ^ 52 * 2 ^ (m'.log2 - 52) := Nat.mul_le_mul_left _ (Nat.pow_le_pow_right two_pos less)
      _ ≤ nearest m' := Nat.mul_le_mul_right _ low

/-- Rounding keeps the order, and the sign. -/
theorem nearestInt_mono {i j : ℤ} (le : i ≤ j) : nearestInt i ≤ nearestInt j := by
  rw [nearestInt, nearestInt]
  rcases lt_or_ge i 0 with hi | hi
  · rw [Int.sign_eq_neg_one_of_neg hi, neg_one_mul]
    rcases lt_or_ge j 0 with hj | hj
    · have := nearest_mono (show j.natAbs ≤ i.natAbs by omega)
      rw [Int.sign_eq_neg_one_of_neg hj, neg_one_mul]
      omega
    · have : 0 ≤ j.sign * nearest j.natAbs :=
        mul_nonneg (Int.sign_nonneg_iff.mpr hj) (Int.natCast_nonneg _)
      omega
  · rcases hi.eq_or_lt with rfl | hi
    · rw [Int.sign_zero, zero_mul]
      exact mul_nonneg (Int.sign_nonneg_iff.mpr le) (Int.natCast_nonneg _)
    · have := nearest_mono (show i.natAbs ≤ j.natAbs by omega)
      rw [Int.sign_eq_one_of_pos hi, Int.sign_eq_one_of_pos (hi.trans_le le), one_mul, one_mul]
      exact_mod_cast this

/-- Up to `2 ^ 53` integers are not changed. -/
theorem nearestInt_of_natAbs_le {i : ℤ} (h : i.natAbs ≤ 2 ^ 53) : nearestInt i = i := by
  have same : nearest i.natAbs = i.natAbs := by
    rcases h.lt_or_eq with less | equal
    · exact nearest_of_lt less
    · rw [equal]
      decide +kernel
  rw [nearestInt, same, Int.sign_mul_natAbs]

/-! ### The float of an integer -/

theorem shiftToTargetExponent_eq {m n : ℕ} {e : ℤ}
    (shift : max ((m.log2 : ℤ) + e - 52) (-1074) - e = n) :
    shiftToTargetExponent Format.binary64 m e .exact = (exactMantissa m >>> n, e + n) := by
  simp only [shiftToTargetExponent, targetExponent_eq, shiftToExponent, shift, Int.toNat_natCast]
  rfl

/-- A significand that has one bit too many after rounding loses it, and nothing more. -/
theorem exists_shifted (s : Sign) {r : ℕ} {e : ℤ} (least : 2 ^ 52 ≤ r) (greatest : r ≤ 2 ^ 53)
    (low : -1074 ≤ e) : ∃ shifted, shiftToTargetExponent Format.binary64 r e .exact = shifted ∧
      IsCanonical shifted.1.mantissa shifted.2 ∧ 0 < shifted.1.mantissa ∧ shifted.2 ≤ e + 1 ∧
      realOf s shifted.1.mantissa shifted.2 = realOf s r e := by
  rcases greatest.lt_or_eq with less | rfl
  · have log : r.log2 = 52 := (Nat.log2_eq_iff (by omega)).mpr ⟨least, less⟩
    refine ⟨_, shiftToTargetExponent_eq (n := 0) (by omega), ⟨by simpa using low, less, .inl least⟩,
      ?_, by simp, ?_⟩
    · change 0 < r
      omega
    · rw [Nat.cast_zero, add_zero]
      rfl
  · have log : (2 ^ 53).log2 = 53 := Nat.log2_two_pow
    refine ⟨_, shiftToTargetExponent_eq (n := 1) (by omega),
      ⟨?_, (by decide : 2 ^ 52 < 2 ^ 53), .inl le_rfl⟩, (by decide : 0 < 2 ^ 52), le_rfl, ?_⟩
    · simp only [Nat.cast_one]
      omega
    · change realOf s (2 ^ 52) (e + (1 : ℕ)) = _
      rw [realOf, realOf, Nat.cast_one, zpow_add₀ two_ne_zero]
      cases s <;> simp only [Sign.apply] <;> push_cast <;> ring

/-- A fraction is rounded to one in the form of a float. -/
theorem roundWithAccuracy_eq (s : Sign) {m n : ℕ} {e : ℤ}
    (log : m.log2 = 52 + n) (low : -1074 ≤ e + n) :
    ∃ m' e' pos, roundWithAccuracy Format.binary64 s m e .exact = .finite s m' e' pos ∧
      IsCanonical m' e' ∧ e' ≤ e + n + 1 ∧
        realOf s m' e' = realOf s (exactMantissa m >>> n).roundedMantissa (e + n) := by
  obtain ⟨least, greatest⟩ := roundedMantissa_shiftRight_bounds log
  obtain ⟨shifted, hshifted, canonical, pos, high, real⟩ := exists_shifted s least greatest low
  refine ⟨shifted.1.mantissa, shifted.2, pos, ?_, canonical, high, real⟩
  simp only [roundWithAccuracy,
    shiftToTargetExponent_eq (show max ((m.log2 : ℤ) + e - 52) (-1074) - e = n by omega), hshifted]
  rw [dif_neg pos.ne']

/-- A number of up to 64 bits is rounded to a float. -/
theorem round_eq (s : Sign) {m : ℕ} (pos : 0 < m) (small : m < 2 ^ 64) :
    ∃ m' e' pos, UnpackedFloat.round Format.binary64 s m 0 = .finite s m' e' pos ∧
      IsCanonical m' e' ∧ e' ≤ 971 ∧ realOf s m' e' = realOf s (nearest m) 0 := by
  have log := (Nat.log2_lt pos.ne').mpr small
  simp only [UnpackedFloat.round, targetExponent_eq, decreaseExponent]
  by_cases many : 52 ≤ m.log2
  · rw [show ((0 : ℤ) - max ((m.log2 : ℤ) + 0 - 52) (-1074)).toNat = 0 by omega, Nat.shiftLeft_zero]
    obtain ⟨m', e', pos', round, canonical, high, real⟩ :=
      roundWithAccuracy_eq s (e := (0 : ℤ) - (0 : ℕ))
        (show m.log2 = 52 + (m.log2 - 52) by omega) (by omega)
    refine ⟨m', e', pos', round, canonical, by omega, real.trans ?_⟩
    rw [realOf, realOf, nearest, show (0 : ℤ) - (0 : ℕ) + (m.log2 - 52 : ℕ) = (m.log2 - 52 : ℕ) by
      simp, zpow_natCast]
    cases s <;> simp only [Sign.apply] <;> push_cast <;> ring
  · -- The significand is shifted to the left until it has 53 bits, and nothing is rounded.
    obtain ⟨n, hn⟩ := Nat.exists_eq_add_of_lt (Nat.lt_of_not_le many)
    have shifted : (m <<< (n + 1)).log2 = 52 := by
      rw [Nat.shiftLeft_eq, Nat.log2_eq_iff (by positivity)]
      constructor
      · calc 2 ^ 52 = 2 ^ m.log2 * 2 ^ (n + 1) := by rw [← Nat.pow_add]; congr 1
          _ ≤ m * 2 ^ (n + 1) := Nat.mul_le_mul_right _ (Nat.log2_self_le pos.ne')
      · calc m * 2 ^ (n + 1) < 2 ^ (m.log2 + 1) * 2 ^ (n + 1) :=
              Nat.mul_lt_mul_of_pos_right Nat.lt_log2_self (Nat.two_pow_pos _)
          _ = 2 ^ (52 + 1) := by rw [← Nat.pow_add]; congr 1; omega
    rw [show ((0 : ℤ) - max ((m.log2 : ℤ) + 0 - 52) (-1074)).toNat = n + 1 by omega]
    obtain ⟨m', e', pos', round, canonical, high, real⟩ :=
      roundWithAccuracy_eq s (n := 0) (e := (0 : ℤ) - (n + 1 : ℕ)) shifted (by omega)
    refine ⟨m', e', pos', round, canonical, by omega, real.trans ?_⟩
    have whole : (exactMantissa (m <<< (n + 1)) >>> 0).roundedMantissa = m * 2 ^ (n + 1) :=
      Nat.shiftLeft_eq _ _
    rw [realOf, realOf, nearest_of_lt ((Nat.log2_lt pos.ne').mp (by omega)), whole,
      show (0 : ℤ) - (n + 1 : ℕ) + (0 : ℕ) = -(n + 1 : ℕ) by simp, zpow_neg, zpow_natCast]
    cases s <;> simp only [Sign.apply] <;> push_cast <;> field_simp

/-- The float of an integer is the number that the integer is rounded to. -/
theorem number?_floatOfInt {i : ℤ} (small : i.natAbs < 2 ^ 64) :
    number? (floatOfInt i) = some ((nearestInt i : ℝ) : EReal) := by
  have packed (s : Sign) (pos : 0 < i.natAbs) :
      extendedReal? (unpack Format.binary64
        (pack Format.binary64 (UnpackedFloat.round Format.binary64 s i.natAbs 0))) =
        some ((s.apply (nearest i.natAbs) : ℝ) : EReal) := by
    obtain ⟨m', e', pos', round, canonical, high, real⟩ := round_eq s pos small
    rw [round, unpack_pack canonical high, extendedReal?, real, realOf, zpow_zero, mul_one]
  change extendedReal? (unpack Format.binary64 (pack Format.binary64 (ofInt Format.binary64 i))) = _
  rw [ofInt, UnpackedFloat.normalize, nearestInt]
  split
  next negative =>
    have negative := compare_lt_iff_lt.mp negative
    rw [show (-i).toNat = i.natAbs by omega, packed .negative (by omega),
      Int.sign_eq_neg_one_of_neg negative, Sign.apply, neg_one_mul]
  next none =>
    obtain rfl := compare_eq_iff_eq.mp none
    rw [show unpack Format.binary64 (pack Format.binary64 (.zero .positive)) =
      .zero .positive from rfl, extendedReal?]
    simp
  next positive =>
    have positive := compare_gt_iff_gt.mp positive
    rw [show i.toNat = i.natAbs by omega, packed .positive (by omega),
      Int.sign_eq_one_of_pos positive, Sign.apply, one_mul]

/-! ### Floats among the integers -/

theorem exactMantissa_shiftRight (m n : ℕ) : exactMantissa (m * 2 ^ n) >>> n = exactMantissa m := by
  induction n generalizing m with
  | zero => rw [pow_zero, mul_one]; rfl
  | succ n ih =>
    change (exactMantissa (m * 2 ^ (n + 1)) >>> n).shiftRightOne = _
    rw [show m * 2 ^ (n + 1) = m * 2 * 2 ^ n by ring, ih]
    simp [exactMantissa, ExtendedMantissa.ofMantissaAndAccuracy, ExtendedMantissa.shiftRightOne]

/-- What has 53 bits in front of zeros is not rounded. -/
theorem nearest_mul_two_pow {m : ℕ} (low : 2 ^ 52 ≤ m) (high : m < 2 ^ 53) (n : ℕ) :
    nearest (m * 2 ^ n) = m * 2 ^ n := by
  have log : (m * 2 ^ n).log2 = 52 + n := by
    rw [Nat.log2_eq_iff (by positivity)]
    constructor
    · rw [Nat.pow_add]
      exact Nat.mul_le_mul_right _ low
    · rw [show 52 + n + 1 = 53 + n by ring, Nat.pow_add]
      exact Nat.mul_lt_mul_of_pos_right high (Nat.two_pow_pos n)
  rw [nearest, log, Nat.add_sub_cancel_left, exactMantissa_shiftRight]
  rfl

/-- A float that is large enough is an integer, which is not rounded. -/
theorem exists_nearestInt_of_le_abs {f : Float} {r : ℝ} (number : number? f = some (r : EReal))
    (large : 2 ^ 53 ≤ |r|) : ∃ i : ℤ, r = i ∧ nearestInt i = i := by
  have form : InForm f.toModel.unpack := inForm_unpack _
  rw [number?] at number
  generalize f.toModel.unpack = unpacked at number form
  cases unpacked with
  | notANumber => cases number
  | infinity s => cases s <;> simp [extendedReal?] at number
  | zero s =>
    obtain rfl : r = 0 := EReal.coe_eq_zero.mp (Option.some.inj number).symm
    norm_num at large
  | finite s m e pos =>
    obtain rfl : realOf s m e = r := by simpa [extendedReal?] using number
    have size : |realOf s m e| = m * 2 ^ e := by
      cases s
      · rw [realOf_negative, abs_neg, abs_of_pos (realOf_positive_pos pos e), realOf_positive]
      · rw [abs_of_pos (realOf_positive_pos pos e), realOf_positive]
    -- With 53 bits a float is that large only if its last bit stands for more than one.
    have above : 0 < e := by
      by_contra below
      have small : (2 : ℝ) ^ e ≤ 1 := zpow_le_one_of_nonpos₀ one_le_two (by omega)
      have bits : (m : ℝ) < 2 ^ 53 := by exact_mod_cast form.bits
      have : (m : ℝ) * 2 ^ e ≤ m * 1 := mul_le_mul_of_nonneg_left small (Nat.cast_nonneg m)
      rw [size] at large
      linarith
    obtain ⟨n, rfl⟩ := Int.eq_ofNat_of_zero_le above.le
    have fixed := nearest_mul_two_pow (form.first.resolve_right (by omega)) form.bits n
    refine ⟨s.apply (m * 2 ^ n : ℕ), ?_, ?_⟩
    · rw [realOf]
      cases s <;> simp [Sign.apply]
    · have nonzero : 0 < m * 2 ^ n := by positivity
      cases s
      · rw [nearestInt, Sign.apply, Int.natAbs_neg, Int.natAbs_natCast, fixed, Int.sign_neg,
          Int.sign_eq_one_of_pos (by exact_mod_cast nonzero), neg_one_mul]
      · rw [nearestInt, Sign.apply, Int.natAbs_natCast, fixed,
          Int.sign_eq_one_of_pos (by exact_mod_cast nonzero), one_mul]

/-- The integers next to a float are not rounded. -/
theorem nearestInt_floor {f : Float} {r : ℝ} (number : number? f = some (r : EReal)) :
    nearestInt ⌊r⌋ = ⌊r⌋ := by
  by_cases large : 2 ^ 53 ≤ |r|
  · obtain ⟨i, rfl, fixed⟩ := exists_nearestInt_of_le_abs number large
    rwa [Int.floor_intCast]
  · obtain ⟨low, high⟩ := abs_lt.mp (not_le.mp large)
    have least : -2 ^ 53 ≤ ⌊r⌋ := Int.le_floor.mpr (by push_cast; linarith)
    have greatest : ⌊r⌋ < 2 ^ 53 := Int.floor_lt.mpr (by push_cast; linarith)
    exact nearestInt_of_natAbs_le (by omega)

theorem nearestInt_ceil {f : Float} {r : ℝ} (number : number? f = some (r : EReal)) :
    nearestInt ⌈r⌉ = ⌈r⌉ := by
  by_cases large : 2 ^ 53 ≤ |r|
  · obtain ⟨i, rfl, fixed⟩ := exists_nearestInt_of_le_abs number large
    rwa [Int.ceil_intCast]
  · obtain ⟨low, high⟩ := abs_lt.mp (not_le.mp large)
    have least : -2 ^ 53 < ⌈r⌉ := Int.lt_ceil.mpr (by push_cast; linarith)
    have greatest : ⌈r⌉ ≤ 2 ^ 53 := Int.ceil_le.mpr (by push_cast; linarith)
    exact nearestInt_of_natAbs_le (by omega)

/-- An integer is not rounded past a float. -/
theorem nearestInt_le_float {f : Float} {x : EReal} (number : number? f = some x) {i : ℤ}
    (le : ((i : ℝ) : EReal) ≤ x) : ((nearestInt i : ℝ) : EReal) ≤ x := by
  induction x with
  | bot => exact absurd le (by simp)
  | top => exact le_top
  | coe r =>
    have below : nearestInt i ≤ ⌊r⌋ :=
      (nearestInt_mono (Int.le_floor.mpr (EReal.coe_le_coe_iff.mp le))).trans_eq
        (nearestInt_floor number)
    exact EReal.coe_le_coe_iff.mpr (Int.le_floor.mp below)

theorem float_le_nearestInt {f : Float} {x : EReal} (number : number? f = some x) {i : ℤ}
    (le : x ≤ ((i : ℝ) : EReal)) : x ≤ ((nearestInt i : ℝ) : EReal) := by
  induction x with
  | bot => exact bot_le
  | top => exact absurd le (by simp)
  | coe r =>
    have above : ⌈r⌉ ≤ nearestInt i :=
      (nearestInt_ceil number).symm.trans_le
        (nearestInt_mono (Int.ceil_le.mpr (EReal.coe_le_coe_iff.mp le)))
    exact EReal.coe_le_coe_iff.mpr (Int.ceil_le.mp above)

end RecordFlow
