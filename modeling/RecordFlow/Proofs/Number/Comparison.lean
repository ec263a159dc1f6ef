import Mathlib
import RecordFlow.Number.Dyadic

/-!
# Floats as numbers

A float that is not NaN is a number: a real number, or one of the two infinities. Comparing floats
is comparing these numbers. Two floats are the same number only if they are the same float, zero
apart, which is a number with two signs.

## Main definitions

* `number?` — the number that a float is, none for NaN
* `IsCanonical` — the one form in which a float gives a significand and an exponent

## Main results

* `float_lt_iff`, `float_beq_iff` — comparing floats is comparing numbers
* `eq_of_number?` — a number other than zero is one float
* `exactInt64?_eq_some_iff` — the integer of a float is the number that it is
-/

namespace RecordFlow

open Float.Model (Format UnpackedFloat)
open Float.Model.UnpackedFloat

/-- The real number of a significand with a sign and an exponent. -/
noncomputable def realOf (sign : Sign) (m : ℕ) (e : ℤ) : ℝ := (sign.apply m : ℤ) * (2 : ℝ) ^ e

/-- The number that an unpacked float is, none for NaN. -/
noncomputable def extendedReal? : UnpackedFloat → Option EReal
  | .notANumber => none
  | .infinity .negative => some ⊥
  | .infinity .positive => some ⊤
  | .zero _ => some 0
  | .finite s m e _ => some (realOf s m e)

/-- The number that a float is, none for NaN. -/
noncomputable def number? (f : Float) : Option EReal := extendedReal? f.toModel.unpack

/-- The form in which a float gives its significand and its exponent: 53 bits, the first of which is
set unless the exponent is the least one. -/
structure IsCanonical (m : ℕ) (e : ℤ) : Prop where
  least : -1074 ≤ e
  bits : m < 2 ^ 53
  first : 2 ^ 52 ≤ m ∨ e = -1074

/-! ### Fractions in their one form -/

theorem compare_map_of_strictMono {α β : Type*} [LinearOrder α] [LinearOrder β]
    {f : α → β} (mono : StrictMono f) (x y : α) : compare (f x) (f y) = compare x y := by
  rw [← cmp_eq_compare, mono.cmp_map_eq, cmp_eq_compare]

theorem realOf_positive (m : ℕ) (e : ℤ) : realOf .positive m e = m * 2 ^ e := by
  rw [realOf, Sign.apply, Int.cast_natCast]

theorem realOf_negative (m : ℕ) (e : ℤ) : realOf .negative m e = -realOf .positive m e := by
  rw [realOf, Sign.apply, Int.cast_neg, Int.cast_natCast, neg_mul, realOf_positive]

theorem realOf_positive_pos {m : ℕ} (pos : 0 < m) (e : ℤ) : 0 < realOf .positive m e := by
  rw [realOf_positive]
  positivity

section

variable {m m' : ℕ} {e e' : ℤ} (h : IsCanonical m e) (h' : IsCanonical m' e')

include h h'

/-- A fraction with the greater exponent is the greater one. -/
theorem IsCanonical.realOf_lt (less : e < e') : realOf .positive m e < realOf .positive m' e' := by
  have first : 2 ^ 52 ≤ m' := h'.first.resolve_right (by have := h.least; omega)
  rw [realOf_positive, realOf_positive]
  calc (m : ℝ) * 2 ^ e < 2 ^ 53 * 2 ^ e :=
        mul_lt_mul_of_pos_right (by exact_mod_cast h.bits) (by positivity)
    _ = 2 ^ 52 * 2 ^ (e + 1) := by rw [zpow_add₀ two_ne_zero]; ring
    _ ≤ m' * 2 ^ e' :=
        mul_le_mul (by exact_mod_cast first) (zpow_le_zpow_right₀ one_le_two less) (by positivity)
          (by positivity)

/-- Exponents first and then significands: this is the order of the fractions. -/
theorem IsCanonical.compare_realOf :
    compare (realOf .positive m e) (realOf .positive m' e') =
      (compare e e').then (compare m m') := by
  rcases lt_trichotomy e e' with less | rfl | greater
  · rw [compare_lt_iff_lt.mpr less, compare_lt_iff_lt.mpr (h.realOf_lt h' less)]
    rfl
  · have scaled : StrictMono fun a : ℕ => realOf .positive a e := fun a b less => by
      simp only [realOf_positive]
      exact mul_lt_mul_of_pos_right (by exact_mod_cast less) (by positivity)
    rw [compare_eq_iff_eq.mpr (rfl : e = e), Ordering.eq_then]
    exact compare_map_of_strictMono scaled m m'
  · rw [compare_gt_iff_gt.mpr greater, compare_gt_iff_gt.mpr (h'.realOf_lt h greater)]
    rfl

end

/-- An unpacked float is in this form. -/
def InForm : UnpackedFloat → Prop
  | .finite _ m e _ => IsCanonical m e
  | _ => True

theorem compare_coe (x y : ℝ) : compare (x : EReal) (y : EReal) = compare x y :=
  compare_map_of_strictMono EReal.coe_strictMono x y

theorem compare_neg (x y : ℝ) : compare (-x) (-y) = (compare x y).swap := by
  have anti : StrictAnti fun x : ℝ => -x := fun _ _ => neg_lt_neg
  rw [← cmp_eq_compare, anti.cmp_map_eq, cmp_eq_compare]
  exact Std.OrientedOrd.eq_swap

/-- The order of two real numbers that are floats. -/
theorem compare_realOf {s s' : Sign} {m m' : ℕ} {e e' : ℤ} (pos : 0 < m) (pos' : 0 < m')
    (h : IsCanonical m e) (h' : IsCanonical m' e') :
    some (compare (realOf s m e) (realOf s' m' e')) =
      (finite s m e pos).compare (finite s' m' e' pos') := by
  have above := realOf_positive_pos pos e
  have above' := realOf_positive_pos pos' e'
  cases s <;> cases s' <;> simp only [UnpackedFloat.compare, realOf_negative, Option.some.injEq]
  · rw [compare_neg, h.compare_realOf h']
  · exact compare_lt_iff_lt.mpr (by linarith)
  · exact compare_gt_iff_gt.mpr (by linarith)
  · exact h.compare_realOf h'

theorem compare_realOf_zero {s : Sign} {m : ℕ} (pos : 0 < m) (e : ℤ) (s' : Sign) :
    some (compare (realOf s m e : EReal) 0) = (finite s m e pos).compare (zero s') := by
  have above := realOf_positive_pos pos e
  cases s <;> simp only [UnpackedFloat.compare, realOf_negative, Option.some.injEq]
  · exact compare_lt_iff_lt.mpr (by exact_mod_cast neg_neg_of_pos above)
  · exact compare_gt_iff_gt.mpr (by exact_mod_cast above)

theorem compare_zero_realOf {s : Sign} {m : ℕ} (pos : 0 < m) (e : ℤ) (s' : Sign) :
    some (compare 0 (realOf s m e : EReal)) = (zero s').compare (finite s m e pos) := by
  have above := realOf_positive_pos pos e
  cases s <;> simp only [UnpackedFloat.compare, realOf_negative, Option.some.injEq]
  · exact compare_gt_iff_gt.mpr (by exact_mod_cast neg_neg_of_pos above)
  · exact compare_lt_iff_lt.mpr (by exact_mod_cast above)

/-- The order of unpacked floats is the order of the numbers. -/
theorem compare_unpacked {x y : UnpackedFloat} (hx : InForm x) (hy : InForm y) :
    ((extendedReal? x).bind fun a => (extendedReal? y).map (compare a)) = x.compare y := by
  cases x with
  | notANumber => rfl
  | infinity s =>
    cases y with
    | notANumber => cases s <;> rfl
    | infinity s' =>
      cases s <;> cases s' <;> simp only [UnpackedFloat.compare, extendedReal?,
        Option.bind_some, Option.map_some, Option.some.injEq]
      · exact compare_eq_iff_eq.mpr rfl
      · exact compare_lt_iff_lt.mpr bot_lt_top
      · exact compare_gt_iff_gt.mpr bot_lt_top
      · exact compare_eq_iff_eq.mpr rfl
    | zero _ => cases s <;>
      simp [UnpackedFloat.compare, extendedReal?, compare_lt_iff_lt, compare_gt_iff_gt]
    | finite s' m' e' pos' =>
      cases s <;> simp [UnpackedFloat.compare, extendedReal?, compare_lt_iff_lt, compare_gt_iff_gt]
  | zero s =>
    cases y with
    | notANumber => rfl
    | infinity s' => cases s' <;>
      simp [UnpackedFloat.compare, extendedReal?, compare_lt_iff_lt, compare_gt_iff_gt]
    | zero _ => simp [UnpackedFloat.compare, extendedReal?]
    | finite s' m' e' pos' => exact compare_zero_realOf pos' e' s
  | finite s m e pos =>
    cases y with
    | notANumber => rfl
    | infinity s' => cases s' <;>
      simp [UnpackedFloat.compare, extendedReal?, compare_lt_iff_lt, compare_gt_iff_gt]
    | zero s' => exact compare_realOf_zero pos e s'
    | finite s' m' e' pos' =>
      rw [← compare_realOf pos pos' hx hy, ← compare_coe]
      rfl

/-! ### Unpacking -/

theorem toNat_withImplicitBit (b : BitVec 52) : (1#1 ++ b).toNat = 2 ^ 52 + b.toNat := by
  rw [BitVec.toNat_append, ← Nat.shiftLeft_add_eq_or_of_lt b.isLt]
  rfl

theorem inForm_unpack (bits : BitVec Format.binary64.numBits) :
    InForm (unpack Format.binary64 bits) := by
  have mantissa : (@unpackMantissa Format.binary64 bits).toNat < 2 ^ 52 := BitVec.isLt _
  simp only [unpack]
  split
  · split <;> trivial
  · split
    next zero =>
      split
      · trivial
      · exact ⟨by simp [zero, Format.exponentBias], by omega,
          .inr (by simp [zero, Format.exponentBias])⟩
    next nonzero =>
      have : (@unpackExponent Format.binary64 bits).toNat ≠ 0 :=
        fun zero => nonzero (BitVec.eq_of_toNat_eq zero)
      refine ⟨?_, ?_, .inl ?_⟩
      · simp only [Format.exponentBias]; omega
      · rw [toNat_withImplicitBit]; omega
      · rw [toNat_withImplicitBit]; omega

theorem toBitVec_ofBitVec (b : BitVec 1) : (Sign.ofBitVec b).toBitVec = b := by
  revert b
  decide

/-- Bits are put together again from their three parts. -/
theorem packComponents_unpack (bits : BitVec Format.binary64.numBits) :
    packComponents Format.binary64 (.ofBitVec (@unpackSign Format.binary64 bits))
      (@unpackExponent Format.binary64 bits) (@unpackMantissa Format.binary64 bits) = bits := by
  rw [packComponents, toBitVec_ofBitVec]
  apply BitVec.eq_of_getLsbD_eq
  intro i hi
  simp only [unpackSign, unpackExponent, unpackMantissa, BitVec.getLsbD_append, BitVec.getLsbD_cast,
    BitVec.getLsbD_extractLsb]
  split
  · simp only [show i < 52 - 1 - 0 + 1 by omega, decide_true, Bool.true_and, Nat.zero_add]
  · split
    · simp only [show i - 52 < 52 + 11 - 1 - 52 + 1 by omega, decide_true, Bool.true_and,
        show 52 + (i - 52) = i by omega]
    · have : i < 64 := hi
      simp only [show i - 52 - 11 < 52 + 11 - (52 + 11) + 1 by omega, decide_true, Bool.true_and,
        show 52 + 11 + (i - 52 - 11) = i by omega]

/-! ### Packing -/

section

variable (s : Sign) {m : ℕ} (pos : 0 < m)

/-- A fraction with 53 bits is packed with its exponent, and without its first bit. -/
theorem pack_normal {e : ℤ} (log : m.log2 = 52) (small : e ≤ 971) :
    pack Format.binary64 (finite s m e pos) =
      packComponents Format.binary64 s (BitVec.ofNat 11 (e + 1075).toNat) (BitVec.ofNat 52 m) := by
  have biased : e + Format.binary64.exponentBias + (52 : ℕ) = e + 1075 := Int.add_assoc ..
  simp only [pack, biased]
  rw [if_neg (show ¬2 ^ 11 ≤ (e + 1075).toNat + 1 by omega), if_pos (by rw [log]; rfl)]

/-- A fraction with fewer bits is packed with the exponent zero. -/
theorem pack_subnormal (bits : m < 2 ^ 52) :
    pack Format.binary64 (finite s m (-1074) pos) =
      packComponents Format.binary64 s 0#11 (BitVec.ofNat 52 m) := by
  have log : ¬m.log2 + 1 = Format.binary64.mantissaBits := by
    have := (Nat.log2_lt pos.ne').mpr bits
    change ¬m.log2 + 1 = 53
    omega
  have biased : (-1074 : ℤ) + Format.binary64.exponentBias + (52 : ℕ) = 1 := rfl
  simp only [pack, biased]
  rw [if_neg (show ¬2 ^ 11 ≤ (1 : ℤ).toNat + 1 by decide), if_neg log]

end

/-- A float is packed again as the bits that it came from. -/
theorem pack_unpack {bits : BitVec Format.binary64.numBits} (valid : Format.binary64.Valid bits) :
    pack Format.binary64 (unpack Format.binary64 bits) = bits := by
  have parts := packComponents_unpack bits
  have mantissa : (@unpackMantissa Format.binary64 bits).toNat < 2 ^ 52 := BitVec.isLt _
  have exponent : (@unpackExponent Format.binary64 bits).toNat < 2 ^ 11 := BitVec.isLt _
  rw [unpack]
  split
  next maximum =>
    split
    next zero =>
      rw [maximum, zero] at parts
      exact parts
    next nonzero => exact (valid.eq_packedNaN maximum nonzero).symm
  next finite =>
    split
    next least =>
      rw [least] at parts
      split
      next zero =>
        rw [zero] at parts
        exact parts
      next nonzero =>
        simp only [least]
        refine (pack_subnormal _ _ mantissa).trans (Eq.trans ?_ parts)
        rw [BitVec.ofNat_toNat, BitVec.setWidth_eq]
    next normal =>
      have notMaximum : (@unpackExponent Format.binary64 bits).toNat ≠ 2 ^ 11 - 1 :=
        fun maximum => finite (BitVec.eq_of_toNat_eq maximum)
      have append := toNat_withImplicitBit (@unpackMantissa Format.binary64 bits)
      have log : (1#1 ++ @unpackMantissa Format.binary64 bits).toNat.log2 = 52 := by
        rw [append, Nat.log2_eq_iff (by omega)]
        omega
      refine (pack_normal _ _ log ?_).trans (Eq.trans ?_ parts)
      · simp only [Format.exponentBias]
        omega
      · congr 1
        · apply BitVec.eq_of_toNat_eq
          simp only [BitVec.toNat_ofNat, Format.exponentBias]
          omega
        · apply BitVec.eq_of_toNat_eq
          simp only [BitVec.toNat_ofNat, append]
          omega

theorem unpackSign_packComponents (s : Sign) (exponent : BitVec 11) (mantissa : BitVec 52) :
    Sign.ofBitVec (unpackSign (packComponents Format.binary64 s exponent mantissa)) = s := by
  have bit (b : BitVec 1) : @unpackSign Format.binary64 (b ++ exponent ++ mantissa) = b := by
    apply BitVec.eq_of_getLsbD_eq
    intro i hi
    obtain rfl : i = 0 := by omega
    simp [unpackSign]
    rw [BitVec.getLsbD_append, BitVec.getLsbD_append]
    simp
  rw [packComponents, bit]
  cases s <;> rfl

/-- What is packed is unpacked again. -/
theorem unpack_pack {s : Sign} {m : ℕ} {e : ℤ} {pos : 0 < m}
    (h : IsCanonical m e) (small : e ≤ 971) :
    unpack Format.binary64 (pack Format.binary64 (finite s m e pos)) = finite s m e pos := by
  obtain ⟨least, bits, first⟩ := h
  by_cases normal : 2 ^ 52 ≤ m
  · have log : m.log2 = 52 := (Nat.log2_eq_iff pos.ne').mpr ⟨normal, bits⟩
    have mantissa : (1#1 ++ BitVec.ofNat 52 m).toNat = m := by
      rw [toNat_withImplicitBit, BitVec.toNat_ofNat]
      omega
    have exponent : (BitVec.ofNat 11 (e + 1075).toNat).toNat = (e + 1075).toNat := by
      rw [BitVec.toNat_ofNat]
      omega
    rw [pack_normal s pos log small, unpack]
    simp only [unpackExponent_packComponents, unpackMantissa_packComponents,
      unpackSign_packComponents]
    rw [if_neg (fun maximum => ?_), if_neg (fun zero => ?_)]
    · simp only [mantissa, exponent, finite.injEq, true_and, Format.exponentBias]
      omega
    · have := exponent.symm.trans (congrArg BitVec.toNat zero)
      rw [BitVec.toNat_ofNat] at this
      omega
    · have := exponent.symm.trans (congrArg BitVec.toNat maximum)
      rw [show (-1#11).toNat = 2047 by decide] at this
      omega
  · obtain rfl : e = -1074 := first.resolve_left normal
    have mantissa : (BitVec.ofNat 52 m).toNat = m := by
      rw [BitVec.toNat_ofNat]
      omega
    have nonzero : BitVec.ofNat 52 m ≠ 0#52 := fun zero => by
      have := mantissa.symm.trans (congrArg BitVec.toNat zero)
      rw [BitVec.toNat_ofNat] at this
      omega
    rw [pack_subnormal s pos (by omega), unpack]
    simp only [unpackExponent_packComponents, unpackMantissa_packComponents,
      unpackSign_packComponents]
    rw [if_neg (by decide), if_pos trivial, dif_neg nonzero]
    simp only [mantissa]
    rfl

/-! ### Floats -/

/-- The order of floats is the order of the numbers that they are. -/
theorem compare_float (f g : Float) :
    f.toModel.unpack.compare g.toModel.unpack = (number? f).bind fun x =>
      (number? g).map (compare x) :=
  (compare_unpacked (inForm_unpack _) (inForm_unpack _)).symm

theorem float_lt_iff {f g : Float} :
    f < g ↔ ∃ x y, number? f = some x ∧ number? g = some y ∧ x < y := by
  have less : f < g ↔ f.toModel.unpack.compare g.toModel.unpack = some .lt := by
    change decide (f.toModel < g.toModel) = true ↔ _
    rw [decide_eq_true_iff]
    change (f.toModel.unpack.compare g.toModel.unpack == some .lt) = true ↔ _
    rw [beq_iff_eq]
  rw [less, compare_float]
  cases number? f <;> cases number? g <;> simp [compare_lt_iff_lt]

theorem float_beq_iff {f g : Float} :
    (f == g) = true ↔ ∃ x, number? f = some x ∧ number? g = some x := by
  have same : (f == g) = true ↔ f.toModel.unpack.compare g.toModel.unpack = some .eq := by
    change (f.toModel.unpack.compare g.toModel.unpack == some .eq) = true ↔ _
    rw [beq_iff_eq]
  rw [same, compare_float]
  cases number? f with
  | none => simp
  | some x =>
    cases number? g with
    | none => simp
    | some y => simp [eq_comm (a := y)]

/-- NaN is no number, and it is the only float that is none. -/
theorem number?_eq_none_iff {f : Float} : number? f = none ↔ f.isNaN = true := by
  change extendedReal? f.toModel.unpack = none ↔ f.toModel.unpack.isNaN = true
  rcases f.toModel.unpack with s | _ | s | _
  · cases s <;> simp [extendedReal?, UnpackedFloat.isNaN]
  all_goals simp [extendedReal?, UnpackedFloat.isNaN]

theorem exists_number? {f : Float} (notNaN : f.isNaN = false) : ∃ x, number? f = some x :=
  Option.ne_none_iff_exists'.mp fun none =>
    Bool.false_ne_true (notNaN.symm.trans (number?_eq_none_iff.mp none))

/-- A float is given by what is unpacked from it. -/
theorem eq_of_unpack {f g : Float} (h : f.toModel.unpack = g.toModel.unpack) : f = g := by
  have bits : f.toModel.toBits.toBitVec = g.toModel.toBits.toBitVec := by
    rw [← pack_unpack f.toModel.valid, ← pack_unpack g.toModel.valid]
    exact congrArg _ h
  obtain ⟨⟨_, _⟩⟩ := f
  obtain ⟨⟨_, _⟩⟩ := g
  simp only at bits
  simp [UInt64.toBitVec_inj.mp bits]

/-- Unpacked floats that compare as equal are the same, or they are two zeros. -/
theorem eq_or_zero_of_compare {x y : UnpackedFloat} (equal : x.compare y = some .eq) :
    x = y ∨ ∃ s s', x = .zero s ∧ y = .zero s' := by
  rcases x with s | _ | s | ⟨s, m, e, pos⟩ <;> rcases y with s' | _ | s' | ⟨s', m', e', pos'⟩ <;>
    (try cases s) <;> (try cases s') <;> simp_all [UnpackedFloat.compare, Ordering.then_eq_eq]

/-- A number other than zero is one float: a zero has two signs, which are one number. -/
theorem eq_of_number? {f g : Float} {x : EReal} (hf : number? f = some x) (hg : number? g = some x)
    (nonzero : x ≠ 0) : f = g := by
  have equal : f.toModel.unpack.compare g.toModel.unpack = some .eq := by
    rw [compare_float, hf, hg, Option.bind_some, Option.map_some, compare_eq_iff_eq.mpr rfl]
  rcases eq_or_zero_of_compare equal with same | ⟨s, s', zero, -⟩
  · exact eq_of_unpack same
  · rw [number?, zero, extendedReal?, Option.some.injEq] at hf
    exact absurd hf.symm nonzero

/-! ### Floats as fractions -/

namespace Dyadic

/-- The number of a fraction. -/
noncomputable def toReal (d : Dyadic) : ℝ := (d.signed d.significand : ℤ) * (2 : ℝ) ^ d.exponent

/-- The fraction of a float is its number. -/
theorem number?_of_ofFloat? {f : Float} {d : Dyadic} (h : ofFloat? f = some d) :
    number? f = some (d.toReal : EReal) := by
  rw [ofFloat?] at h
  rw [number?]
  split at h
  next s m e pos unpacked =>
    rw [unpacked, extendedReal?]
    obtain rfl := Option.some.inj h
    cases s <;> rfl
  next s unpacked =>
    rw [unpacked, extendedReal?]
    obtain rfl := Option.some.inj h
    cases s <;> simp [toReal, signed]
  next => cases h

theorem exists_ofFloat?_of_number? {f : Float} {x : ℝ} (h : number? f = some (x : EReal)) :
    ∃ d, ofFloat? f = some d ∧ d.toReal = x := by
  have some : ∃ d, ofFloat? f = some d := by
    rw [number?] at h
    rw [ofFloat?]
    generalize f.toModel.unpack = y at h
    rcases y with s | _ | s | _
    · cases s <;> simp [extendedReal?] at h
    · simp [extendedReal?] at h
    · exact ⟨_, rfl⟩
    · exact ⟨_, rfl⟩
  obtain ⟨d, hd⟩ := some
  refine ⟨d, hd, ?_⟩
  rw [number?_of_ofFloat? hd, Option.some.injEq, EReal.coe_eq_coe_iff] at h
  exact h

theorem signed_mul (d : Dyadic) (a b : ℕ) : d.signed (a * b) = d.signed a * b := by
  rw [signed, signed]
  split <;> simp

theorem natCast_dvd_signed_iff {d : Dyadic} {a b : ℕ} : (b : ℤ) ∣ d.signed a ↔ b ∣ a := by
  rw [signed]
  split <;> simp [Int.natCast_dvd_natCast]

/-- A fraction is an integer exactly if it has no fractional part, and
then it is its integer part. -/
theorem toReal_eq_intCast_iff {d : Dyadic} {i : ℤ} :
    d.toReal = i ↔ d.isWhole = true ∧ d.truncate = i := by
  rw [toReal, truncate, wholePart, isWhole, beq_iff_eq, fractionPart]
  by_cases whole : 0 ≤ d.exponent
  · obtain ⟨n, hn⟩ := Int.eq_ofNat_of_zero_le whole
    rw [if_pos whole, if_pos whole, hn, Int.toNat_natCast, zpow_natCast, signed_mul]
    norm_cast
    simp
  · obtain ⟨n, hn⟩ := Int.eq_ofNat_of_zero_le (show 0 ≤ -d.exponent by omega)
    rw [if_neg whole, if_neg whole, hn, Int.toNat_natCast, show d.exponent = -(n : ℤ) by omega,
      zpow_neg, zpow_natCast, ← div_eq_mul_inv, div_eq_iff (by positivity)]
    change _ ↔ d.significand % 2 ^ n = 0 ∧ d.signed (d.significand / 2 ^ n) = i
    norm_cast
    rw [← Nat.dvd_iff_mod_eq_zero]
    constructor
    · intro product
      obtain ⟨q, hq⟩ := natCast_dvd_signed_iff.mp (Dvd.intro_left i product.symm)
      refine ⟨⟨q, hq⟩, ?_⟩
      rw [hq, Nat.mul_div_cancel_left q (Nat.two_pow_pos n)]
      rw [hq, Nat.mul_comm, signed_mul] at product
      exact mul_right_cancel₀ (by positivity) product
    · rintro ⟨⟨q, hq⟩, rfl⟩
      rw [hq, Nat.mul_div_cancel_left q (Nat.two_pow_pos n), Nat.mul_comm, signed_mul]

end Dyadic

/-- The integer of a float is the number that it is. -/
theorem exactInt64?_eq_some_iff {f : Float} {i : Int64} :
    exactInt64? f = some i ↔ number? f = some ((i.toInt : ℝ) : EReal) := by
  have low := i.le_toInt
  have high := i.toInt_lt
  rw [exactInt64?]
  constructor
  · intro exact
    split at exact
    next d hd =>
      simp only at exact
      split at exact
      next whole =>
        obtain ⟨whole, least, greatest⟩ := whole
        have truncated : d.truncate = i.toInt := by
          rw [← Option.some.inj exact, Int64.toInt_ofInt_of_le least greatest]
        rw [Dyadic.number?_of_ofFloat? hd, Dyadic.toReal_eq_intCast_iff.mpr ⟨whole, truncated⟩]
      next => cases exact
    next => cases exact
  · intro number
    obtain ⟨d, hd, hreal⟩ := Dyadic.exists_ofFloat?_of_number? number
    obtain ⟨whole, truncated⟩ := Dyadic.toReal_eq_intCast_iff.mp hreal
    simp only [hd, truncated]
    rw [if_pos ⟨whole, low, high⟩, Int64.ofInt_toInt]

end RecordFlow
