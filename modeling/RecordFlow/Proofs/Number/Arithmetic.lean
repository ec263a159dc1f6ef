import RecordFlow.Proofs.Number.Comparison
import RecordFlow.Proofs.Number.FloatOfInt

/-!
# Arithmetic on floats

Sums, differences, products and quotients of floats are computed exactly, as fractions,
and then rounded. Such a result is an infinity only if the exact one is near the
largest floats or beyond them.

## Main results

* `isFinite_add`, `isFinite_sub`, `isFinite_mul`, `isFinite_div` —
  results below `2 ^ 970` are finite
-/

namespace RecordFlow

open Float.Model (Format UnpackedFloat totalExponent)
open Float.Model.UnpackedFloat

/-! ### The magnitude of a fraction -/

theorem abs_realOf (s : Sign) (m : ℕ) (e : ℤ) : |realOf s m e| = m * 2 ^ e := by
  have nonneg : (0 : ℝ) ≤ m * 2 ^ e := by positivity
  cases s
  · rw [realOf_negative, realOf_positive, abs_neg, abs_of_nonneg nonneg]
  · rw [realOf_positive, abs_of_nonneg nonneg]

theorem apply_neg (s : Sign) (i : ℤ) : (-s).apply i = -s.apply i := by
  cases s
  · exact (neg_neg i).symm
  · rfl

theorem realOf_neg (s : Sign) (m : ℕ) (e : ℤ) : realOf (-s) m e = -realOf s m e := by
  rw [realOf, realOf, apply_neg, Int.cast_neg, neg_mul]

/-- A fraction below a power of two has no more bits than this. -/
theorem log2_add_lt {m : ℕ} {e bound : ℤ} (pos : 0 < m) (small : (m : ℝ) * 2 ^ e < 2 ^ bound) :
    m.log2 + e < bound := by
  have bits : ((2 ^ m.log2 : ℕ) : ℝ) ≤ m := Nat.cast_le.mpr (Nat.log2_self_le pos.ne')
  refine (zpow_lt_zpow_iff_right₀ (one_lt_two (α := ℝ))).mp (lt_of_le_of_lt ?_ small)
  calc (2 : ℝ) ^ (m.log2 + e : ℤ) = (2 ^ m.log2 : ℕ) * 2 ^ e := by
        rw [zpow_add₀ two_ne_zero, zpow_natCast, Nat.cast_pow, Nat.cast_ofNat]
    _ ≤ m * 2 ^ e := mul_le_mul_of_nonneg_right bits (by positivity)

theorem log2_sub_lt {m m' : ℕ} {e e' bound : ℤ} (pos : 0 < m) (pos' : 0 < m')
    (small : (m : ℝ) * 2 ^ e / (m' * 2 ^ e') < 2 ^ bound) :
    m.log2 + e - (m'.log2 + 1 + e') < bound := by
  have divisor : (m' : ℝ) < 2 ^ (m'.log2 + 1) := by exact_mod_cast Nat.lt_log2_self
  have scaled : (m : ℝ) * 2 ^ (e - e' - (m'.log2 + 1)) < 2 ^ bound := by
    refine lt_of_le_of_lt ?_ small
    rw [zpow_sub₀ two_ne_zero, zpow_sub₀ two_ne_zero, div_div, ← mul_div_assoc,
      ← Nat.cast_succ, zpow_natCast, mul_comm ((2 : ℝ) ^ e')]
    gcongr
  have := log2_add_lt pos scaled
  omega

/-- A quotient of significands has no more bits than its dividend has, less
those that its divisor has. -/
theorem log2_div_add_le {m m' : ℕ} (pos' : 0 < m') (k : ℕ) (more : 0 < m <<< k / m') :
    (m <<< k / m').log2 + m'.log2 ≤ m.log2 + k := by
  refine Nat.lt_succ_iff.mp ((Nat.pow_lt_pow_iff_right (a := 2) (by decide)).mp ?_)
  calc 2 ^ ((m <<< k / m').log2 + m'.log2) = 2 ^ (m <<< k / m').log2 * 2 ^ m'.log2 := Nat.pow_add ..
    _ ≤ m <<< k / m' * m' := Nat.mul_le_mul (Nat.log2_self_le more.ne') (Nat.log2_self_le pos'.ne')
    _ ≤ m <<< k := Nat.div_mul_le_self ..
    _ < 2 ^ (m.log2 + k + 1) := shiftLeft_lt m k

/-- A fraction does not change when its exponent is lowered. -/
theorem realOf_shiftLeft (s : Sign) (m : ℕ) {e e' : ℤ} (le : e' ≤ e) :
    (s.apply (m <<< (e - e').toNat : ℕ) : ℝ) * 2 ^ e' = realOf s m e := by
  have shifted : ((m <<< (e - e').toNat : ℕ) : ℝ) * 2 ^ e' = m * 2 ^ e := by
    rw [Nat.shiftLeft_eq, Nat.cast_mul, Nat.cast_pow, Nat.cast_ofNat, mul_assoc, ← zpow_natCast,
      ← zpow_add₀ two_ne_zero]
    congr 2
    omega
  cases s <;> simp only [realOf, Sign.apply, Int.cast_neg, Int.cast_natCast, neg_mul, shifted]

/-! ### Unpacked floats -/

section

variable {a b : UnpackedFloat} {x y : ℝ}

/-- To subtract a float is to add its negation. -/
theorem unpacked_sub_eq (a b : UnpackedFloat) :
    sub Format.binary64 a b = add Format.binary64 a b.neg := by
  cases a <;> cases b <;> simp only [sub, add, UnpackedFloat.neg, apply_neg, Int.sub_eq_add_neg]

/-- A real number is a zero, or a significand with an exponent. -/
theorem cases_of_extendedReal? (h : extendedReal? a = some (x : EReal)) :
    (∃ s, a = .zero s ∧ x = 0) ∨ ∃ s m e pos, a = .finite s m e pos ∧ x = realOf s m e := by
  cases a with
  | notANumber => cases h
  | infinity s => cases s <;> simp [extendedReal?] at h
  | zero s => exact .inl ⟨s, rfl, EReal.coe_eq_zero.mp (Option.some.inj h).symm⟩
  | finite s m e pos =>
    exact .inr ⟨s, m, e, pos, rfl, (EReal.coe_eq_coe_iff.mp (Option.some.inj h)).symm⟩

theorem packsFinite_finite (s : Sign) {m : ℕ} {e : ℤ} (pos : 0 < m)
    (small : |realOf s m e| < 2 ^ (970 : ℤ)) : PacksFinite (.finite s m e pos) := by
  rw [abs_realOf] at small
  have := log2_add_lt pos small
  refine isFinite_pack Format.binary64 ?_
  simp only [Format.exponentBias]
  omega

theorem packsFinite_normalize_of_abs_lt {i e : ℤ} (zero : Sign)
    (small : |(i : ℝ) * 2 ^ e| < 2 ^ (970 : ℤ)) :
    PacksFinite (UnpackedFloat.normalize Format.binary64 i e zero) := by
  by_cases none : i = 0
  · rw [none]
    exact packsFinite_zero zero
  · rw [abs_mul, abs_of_pos (by positivity : (0 : ℝ) < 2 ^ e), ← Int.cast_abs, Int.abs_eq_natAbs,
      Int.cast_natCast] at small
    have := log2_add_lt (Int.natAbs_pos.mpr none) small
    exact packsFinite_normalize zero (by omega)

variable (ha : extendedReal? a = some (x : EReal)) (hb : extendedReal? b = some (y : EReal))

include ha hb

theorem packsFinite_add (small : |x + y| < 2 ^ (970 : ℤ)) :
    PacksFinite (add Format.binary64 a b) := by
  rcases cases_of_extendedReal? ha with ⟨s, rfl, rfl⟩ | ⟨s, m, e, pos, rfl, rfl⟩ <;>
    rcases cases_of_extendedReal? hb with ⟨s', rfl, rfl⟩ | ⟨s', m', e', pos', rfl, rfl⟩
  · rw [add]
    split <;> exact packsFinite_zero _
  · exact packsFinite_finite s' pos' (by simpa using small)
  · exact packsFinite_finite s pos (by simpa using small)
  · -- Both significands are brought to the lower exponent, where they are added exactly.
    rw [← realOf_shiftLeft s m (min_le_left e e'), ← realOf_shiftLeft s' m' (min_le_right e e'),
      ← add_mul] at small
    exact packsFinite_normalize_of_abs_lt .positive (by exact_mod_cast small)

theorem packsFinite_sub (small : |x - y| < 2 ^ (970 : ℤ)) :
    PacksFinite (sub Format.binary64 a b) := by
  have negated : extendedReal? b.neg = some ((-y : ℝ) : EReal) := by
    rcases cases_of_extendedReal? hb with ⟨s', rfl, rfl⟩ | ⟨s', m', e', pos', rfl, rfl⟩
    · simp [UnpackedFloat.neg, extendedReal?]
    · rw [UnpackedFloat.neg, extendedReal?, realOf_neg]
  rw [unpacked_sub_eq]
  exact packsFinite_add ha negated (by rwa [← sub_eq_add_neg])

theorem packsFinite_mul (small : |x * y| < 2 ^ (970 : ℤ)) :
    PacksFinite (mul Format.binary64 a b) := by
  rcases cases_of_extendedReal? ha with ⟨s, rfl, rfl⟩ | ⟨s, m, e, pos, rfl, rfl⟩ <;>
    rcases cases_of_extendedReal? hb with ⟨s', rfl, rfl⟩ | ⟨s', m', e', pos', rfl, rfl⟩
  · exact packsFinite_zero _
  · exact packsFinite_zero _
  · exact packsFinite_zero _
  · have magnitude : |realOf s m e * realOf s' m' e'| = (m * m' : ℕ) * 2 ^ (e + e') := by
      rw [abs_mul, abs_realOf, abs_realOf, zpow_add₀ two_ne_zero]
      push_cast
      ring
    rw [magnitude] at small
    have := log2_add_lt (Nat.mul_pos pos pos') small
    exact packsFinite_roundWithAccuracy _ .exact (by omega) (by omega)

theorem packsFinite_div (nonzero : y ≠ 0) (small : |x / y| < 2 ^ (970 : ℤ)) :
    PacksFinite (div Format.binary64 a b) := by
  rcases cases_of_extendedReal? hb with ⟨s', rfl, rfl⟩ | ⟨s', m', e', pos', rfl, rfl⟩
  · exact absurd rfl nonzero
  rcases cases_of_extendedReal? ha with ⟨s, rfl, rfl⟩ | ⟨s, m, e, pos, rfl, rfl⟩
  · exact packsFinite_zero _
  · rw [abs_div, abs_realOf, abs_realOf] at small
    have := log2_sub_lt pos pos' small
    -- The exponent is lowered far enough for the quotient of the significands to have 53 bits.
    obtain ⟨t, ht⟩ : ∃ t, t =
        min (e - e') (Format.binary64.targetExponent (totalExponent m e - totalExponent m' e')) :=
      ⟨_, rfl⟩
    have hdiv : div Format.binary64 (.finite s m e pos) (.finite s' m' e' pos') =
        roundWithAccuracy Format.binary64 (s / s') (m <<< (e - e' - t).toNat / m') t
          (accuracyOfFraction (m <<< (e - e' - t).toNat % m') m') := by
      rw [ht]
      rfl
    rw [hdiv]
    simp only [Format.targetExponent, totalExponent, Format.mantissaBits, Format.minExponent] at ht
    refine packsFinite_roundWithAccuracy _ _ ?_ (by omega)
    rcases Nat.eq_zero_or_pos (m <<< (e - e' - t).toNat / m') with none | more
    · rw [none, Nat.log2_zero]
      omega
    · have := log2_div_add_le pos' _ more
      omega

end

/-! ### Floats -/

section

variable {f g : Float} {x y : ℝ} (hf : number? f = some (x : EReal))
    (hg : number? g = some (y : EReal))

include hf hg

theorem isFinite_add (small : |x + y| < 2 ^ (970 : ℤ)) : (f + g).isFinite = true :=
  packsFinite_add hf hg small

theorem isFinite_sub (small : |x - y| < 2 ^ (970 : ℤ)) : (f - g).isFinite = true :=
  packsFinite_sub hf hg small

theorem isFinite_mul (small : |x * y| < 2 ^ (970 : ℤ)) : (f * g).isFinite = true :=
  packsFinite_mul hf hg small

theorem isFinite_div (nonzero : y ≠ 0) (small : |x / y| < 2 ^ (970 : ℤ)) :
    (f / g).isFinite = true :=
  packsFinite_div hf hg nonzero small

end

end RecordFlow
