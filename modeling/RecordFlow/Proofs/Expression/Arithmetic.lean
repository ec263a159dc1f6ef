import RecordFlow.Proofs.Expression.Soundness
import RecordFlow.Proofs.Number.Arithmetic
import RecordFlow.Proofs.Number.Rounding

/-!
# Arithmetic on integers

An operator on 64-bit integers has the exact result if this is a 64-bit integer, and a float if
there is no such result. It is null only for a division by zero. The smallest integer is the
exception twice: its remainder by minus one, which is zero, is the float `-0.0`, and its absolute
value, which is out of range, is null.

## Main definitions

* `MathOp.IsExact` — an integer is the exact result of an operator
* `MathOp.IsMissed`, `MathOp.IsNull` — when an exact result is not
  found, and when there is none at all
* `MathOp.Yields` — the result of an operator is the exact one, a float, or
  null, as the three definitions say

## Main results

* `MathOp.yields_applyInts` — the result of an operator on two integers
* `Expression.evaluate_integers` — when an expression has the exact result, a float and null
* `Expression.evaluate_smallestInteger` — the two exceptions
-/

namespace RecordFlow

/-! ### 64-bit integers -/

theorem int64?_of_isInt64 {i : ℤ} (h : IsInt64 i) :
    ∃ total : Int64, MathOp.int64? i = some total ∧ total.toInt = i :=
  ⟨Int64.ofInt i, if_pos ⟨by simpa using h.1, by simpa using h.2⟩, Int64.toInt_ofInt_of_le h.1 h.2⟩

theorem int64?_of_not_isInt64 {i : ℤ} (h : ¬IsInt64 i) : MathOp.int64? i = none :=
  if_neg fun inRange => h ⟨by simpa using inRange.1, by simpa using inRange.2⟩

theorem isInt64_toInt (i : Int64) : IsInt64 i.toInt := ⟨Int64.le_toInt i, Int64.toInt_lt i⟩

theorem int64?_eq_some_iff {i : ℤ} {r : Int64} : MathOp.int64? i = some r ↔ r.toInt = i := by
  by_cases inRange : IsInt64 i
  · obtain ⟨total, found, exact⟩ := int64?_of_isInt64 inRange
    rw [found, Option.some_inj, ← exact, Int64.toInt_inj, eq_comm]
  · rw [int64?_of_not_isInt64 inRange]
    exact ⟨nofun, fun exact => absurd (exact ▸ isInt64_toInt r) inRange⟩

theorem int64?_eq_none_iff {i : ℤ} : MathOp.int64? i = none ↔ ¬IsInt64 i := by
  refine ⟨fun none inRange => ?_, int64?_of_not_isInt64⟩
  obtain ⟨total, found, -⟩ := int64?_of_isInt64 inRange
  exact Option.some_ne_none total (found.symm.trans none)

theorem toInt_eq_zero_iff {i : Int64} : i.toInt = 0 ↔ i = 0 := Int64.toInt_inj (y := 0)

/-- The smallest integer by minus one is the only quotient that is out of range. -/
theorem isInt64_tdiv_iff (x y : Int64) :
    IsInt64 (x.toInt.tdiv y.toInt) ↔ ¬(x = Int64.minValue ∧ y = -1) := by
  have hx := isInt64_toInt x
  simp only [IsInt64] at hx ⊢
  have smallest : x = Int64.minValue ↔ x.toInt = -2 ^ 63 := by
    rw [← Int64.toInt_inj, Int64.toInt_minValue]
  have minusOne : y = -1 ↔ y.toInt = -1 := by rw [← Int64.toInt_inj]; rfl
  rw [smallest, minusOne]
  have quotient := Int.natAbs_tdiv x.toInt y.toInt
  change _ = x.toInt.natAbs / y.toInt.natAbs at quotient
  -- A divisor of two or more in magnitude halves the dividend, so that only minus
  -- one can lead out of the range.
  rcases Nat.lt_or_ge y.toInt.natAbs 2 with few | many
  · obtain zero | one | negative : y.toInt = 0 ∨ y.toInt = 1 ∨ y.toInt = -1 := by omega
    · rw [zero, Int.tdiv_zero]
      omega
    · rw [one, Int.tdiv_one]
      omega
    · rw [negative, Int.tdiv_neg, Int.tdiv_one]
      omega
  · have := Nat.div_le_div_left many (by decide) (a := x.toInt.natAbs)
    omega

theorem isInt64_tmod (x : Int64) {y : Int64} (nonzero : y ≠ 0) :
    IsInt64 (x.toInt.tmod y.toInt) := by
  have remainder := Int.natAbs_tmod x.toInt y.toInt
  have less := Nat.mod_lt x.toInt.natAbs (Int.natAbs_pos.mpr (mt toInt_eq_zero_iff.mp nonzero))
  have hy := isInt64_toInt y
  rw [IsInt64] at hy ⊢
  omega

namespace MathOp

variable {op : MathOp} {x y : Int64}

/-- An integer is the exact result of an operator on two integers, the second of which counts only
for an operator that takes it. A remainder has the sign of the dividend. -/
def IsExact (op : MathOp) (x y r : ℤ) : Prop :=
  match op with
  | add => r = x + y
  | subtract => r = x - y
  | multiply => r = x * y
  | divide => y ≠ 0 ∧ r * y = x
  | modulo => ∃ q, r + y * q = x ∧ |r| < |y| ∧ 0 ≤ r * x
  | round | floor | ceil => r = x
  | abs => r = |x|

/-- The exact result is an integer, and it is not found. -/
def IsMissed (op : MathOp) (x y : Int64) : Prop := op = modulo ∧ x = Int64.minValue ∧ y = -1

/-- There is no result: a division by zero, or the absolute value of the smallest integer. -/
def IsNull (op : MathOp) (x y : Int64) : Prop :=
  (op = divide ∨ op = modulo) ∧ y = 0 ∨ op = abs ∧ x = Int64.minValue

/-! ### Exact results -/

theorem isExact_modulo_iff {x y r : ℤ} (nonzero : y ≠ 0) : IsExact modulo x y r ↔ x.tmod y = r := by
  constructor
  · rintro ⟨q, sum, small, sign⟩
    rw [Int.abs_eq_natAbs y, abs_lt] at small
    -- The remainder of a dividend of either sign is unique; which case it
    -- is, the sign of `r` and `x` says.
    have ofNonneg (hx : 0 ≤ x) (hr : 0 ≤ r) : x.tmod y = r :=
      ((Int.tdiv_tmod_unique hx nonzero).mpr ⟨sum, hr, small.2⟩).2
    have ofNonpos (hx : x ≤ 0) (hr : r ≤ 0) : x.tmod y = r :=
      ((Int.tdiv_tmod_unique' hx nonzero).mpr ⟨sum, small.1, hr⟩).2
    rcases lt_trichotomy x 0 with hx | hx | hx
    · exact ofNonpos hx.le (nonpos_of_mul_nonneg_left sign hx)
    · rcases le_total 0 r with hr | hr
      · exact ofNonneg hx.ge hr
      · exact ofNonpos hx.le hr
    · exact ofNonneg hx.le (nonneg_of_mul_nonneg_left sign hx)
  · rintro rfl
    refine ⟨x.tdiv y, Int.tmod_add_mul_tdiv x y, ?_, ?_⟩
    · rw [Int.abs_eq_natAbs, Int.abs_eq_natAbs, Int.natAbs_tmod]
      exact Int.ofNat_lt.mpr (Nat.mod_lt _ (Int.natAbs_pos.mpr nonzero))
    · rcases le_total 0 x with hx | hx
      · exact mul_nonneg (Int.tmod_nonneg y hx) hx
      · have := Int.tmod_nonneg y (neg_nonneg.mpr hx)
        rw [Int.neg_tmod] at this
        exact mul_nonneg_of_nonpos_of_nonpos (by omega) hx

theorem IsExact.unique {x y r r' : ℤ} (h : op.IsExact x y r) (h' : op.IsExact x y r') : r = r' := by
  cases op with
  | divide => exact mul_right_cancel₀ h.1 (h.2.trans h'.2.symm)
  | modulo =>
    have nonzero : y ≠ 0 := by
      obtain ⟨-, -, small, -⟩ := h
      exact abs_pos.mp ((abs_nonneg r).trans_lt small)
    exact ((isExact_modulo_iff nonzero).mp h).symm.trans ((isExact_modulo_iff nonzero).mp h')
  | _ => exact h.trans h'.symm

/-- There is no exact result where there is none at all. -/
theorem IsNull.not_isExact (h : op.IsNull x y) (r : Int64) :
    ¬op.IsExact x.toInt y.toInt r.toInt := by
  rcases h with ⟨rfl | rfl, rfl⟩ | ⟨rfl, rfl⟩
  · exact fun exact => exact.1 rfl
  · rintro ⟨q, -, small, -⟩
    exact absurd small (by simp)
  · intro exact
    have := Int64.toInt_lt r
    rw [IsExact, Int64.toInt_minValue] at exact
    norm_num at exact
    omega

/-- The exact result that is not found is zero. -/
theorem IsMissed.isExact (h : op.IsMissed x y) : op.IsExact x.toInt y.toInt (0 : Int64).toInt := by
  obtain ⟨rfl, rfl, rfl⟩ := h
  exact (isExact_modulo_iff (by decide)).mpr (by decide)

theorem IsMissed.not_isNull (h : op.IsMissed x y) : ¬op.IsNull x y := by
  obtain ⟨rfl, -, rfl⟩ := h
  simp [IsNull]

/-- The exact result of an operator on two integers is found, but for the one that is missed. -/
theorem exactResult?_eq_some_iff (binary : op.isUnary = false) (defined : ¬op.IsNull x y)
    {r : Int64} :
    op.exactResult? x.toInt y.toInt = some r ↔
      op.IsExact x.toInt y.toInt r.toInt ∧ ¬op.IsMissed x y := by
  have nonzero (division : op = divide ∨ op = modulo) : y.toInt ≠ 0 := fun zero =>
    defined (.inl ⟨division, toInt_eq_zero_iff.mp zero⟩)
  cases op with
  | add => simp [exactResult?, int64?_eq_some_iff, IsExact, IsMissed]
  | subtract => simp [exactResult?, int64?_eq_some_iff, IsExact, IsMissed]
  | multiply => simp [exactResult?, int64?_eq_some_iff, IsExact, IsMissed]
  | divide =>
    have nonzero := nonzero (.inl rfl)
    by_cases h : y.toInt ∣ x.toInt
    · have quotient : r.toInt = x.toInt.tdiv y.toInt ↔ r.toInt * y.toInt = x.toInt := by
        rw [← mul_left_inj' nonzero, Int.tdiv_mul_cancel h]
      rw [exactResult?, if_pos (Int.dvd_iff_tmod_eq_zero.mp h), int64?_eq_some_iff, quotient]
      simp [IsExact, IsMissed, nonzero]
    · have inexact : ¬r.toInt * y.toInt = x.toInt :=
        fun exact => h ⟨r.toInt, by rw [← exact, mul_comm]⟩
      rw [exactResult?, if_neg (mt Int.dvd_iff_tmod_eq_zero.mpr h)]
      simp [IsExact, inexact]
  | modulo =>
    rw [isExact_modulo_iff (nonzero (.inr rfl)), exactResult?, IsMissed,
      eq_comm (a := x.toInt.tmod _)]
    -- The remainder itself is always in range, but it is not looked for where the quotient is not.
    by_cases inRange : IsInt64 (x.toInt.tdiv y.toInt)
    · obtain ⟨_, found, -⟩ := int64?_of_isInt64 inRange
      have := (isInt64_tdiv_iff x y).mp inRange
      rw [found, Option.bind_some, int64?_eq_some_iff, and_iff_left (fun h => this h.2)]
    · have := not_not.mp (mt (isInt64_tdiv_iff x y).mpr inRange)
      rw [int64?_of_not_isInt64 inRange, Option.bind_none]
      simp [this]
  | _ => cases binary

/-! ### Results that are floats -/

theorem abs_nearestInt_le (i : Int64) : |(nearestInt i.toInt : ℝ)| ≤ 2 ^ 63 := by
  have greatest : nearestInt (2 ^ 63) = 2 ^ 63 := by decide +kernel
  have least : nearestInt (-2 ^ 63) = -2 ^ 63 := by decide +kernel
  have below := nearestInt_mono (Int64.toInt_lt i).le
  have above := nearestInt_mono (Int64.le_toInt i)
  rw [greatest] at below
  rw [least] at above
  exact_mod_cast abs_le.mpr ⟨above, below⟩

theorem one_le_abs_nearestInt {i : ℤ} (nonzero : i ≠ 0) : 1 ≤ |(nearestInt i : ℝ)| := by
  have one : nearestInt 1 = 1 := nearestInt_of_natAbs_le (by decide)
  have minusOne : nearestInt (-1) = -1 := nearestInt_of_natAbs_le (by decide)
  rcases lt_or_gt_of_ne nonzero with negative | positive
  · have := nearestInt_mono (show i ≤ -1 by omega)
    rw [minusOne] at this
    exact_mod_cast le_abs.mpr (.inr (by omega))
  · have := nearestInt_mono (show 1 ≤ i by omega)
    rw [one] at this
    exact_mod_cast le_abs.mpr (.inl this)

theorem number?_floatOfInt_toInt (i : Int64) :
    RecordFlow.number? (floatOfInt i.toInt) = some ((nearestInt i.toInt : ℝ) : EReal) :=
  number?_floatOfInt (by have := isInt64_toInt i; rw [IsInt64] at this; omega)

/-- Only zero is rounded to a zero. -/
theorem nearestInt_ne_zero {i : ℤ} (nonzero : i ≠ 0) : (nearestInt i : ℝ) ≠ 0 :=
  abs_pos.mp (one_pos.trans_le (one_le_abs_nearestInt nonzero))

theorem floatOfInt_beq_zero (nonzero : y.toInt ≠ 0) : (floatOfInt y.toInt == 0.0) = false := by
  have zero : RecordFlow.number? 0.0 = some 0 := rfl
  rw [← Bool.not_eq_true, float_beq_iff]
  rintro ⟨a, ha, hzero⟩
  rw [number?_floatOfInt_toInt y, Option.some_inj] at ha
  rw [zero, Option.some_inj, ← ha] at hzero
  exact nearestInt_ne_zero nonzero (EReal.coe_eq_zero.mp hzero.symm)

theorem floatValue_of_isFinite {f : Float} (finite : f.isFinite = true) : floatValue f = .float f :=
  if_pos finite

/-- Arithmetic on the floats of two integers has a finite float as its
result, but for a remainder. -/
theorem exists_applyFloats (binary : op.isUnary = false) (defined : ¬op.IsNull x y)
    (quotient : op ≠ modulo) :
    ∃ f : Float, f.isFinite = true ∧
      op.applyFloats (floatOfInt x.toInt) (floatOfInt y.toInt) = .float f := by
  have numberx := number?_floatOfInt_toInt x
  have numbery := number?_floatOfInt_toInt y
  have hx := abs_nearestInt_le x
  have hy := abs_nearestInt_le y
  have close (f : Float) (finite : f.isFinite = true) :
      ∃ g : Float, g.isFinite = true ∧ floatValue f = .float g :=
    ⟨f, finite, floatValue_of_isFinite finite⟩
  -- Products of two operands are the largest results, and these are far below the largest floats.
  have large : (2 : ℝ) ^ 63 * 2 ^ 63 < 2 ^ (970 : ℤ) := by
    rw [← pow_add]
    exact_mod_cast pow_lt_pow_right₀ (one_lt_two (α := ℝ)) (by decide)
  have sum : |(nearestInt x.toInt : ℝ)| + |(nearestInt y.toInt : ℝ)| < 2 ^ (970 : ℤ) :=
    lt_of_le_of_lt ((add_le_add hx hy).trans (by norm_num)) large
  cases op with
  | add => exact close _ (isFinite_add numberx numbery ((abs_add_le _ _).trans_lt sum))
  | subtract => exact close _ (isFinite_sub numberx numbery ((abs_sub _ _).trans_lt sum))
  | multiply =>
    refine close _ (isFinite_mul numberx numbery (lt_of_le_of_lt ?_ large))
    rw [abs_mul]
    exact mul_le_mul hx hy (abs_nonneg _) (by positivity)
  | divide =>
    have nonzero : y.toInt ≠ 0 := fun zero => defined (.inl ⟨.inl rfl, toInt_eq_zero_iff.mp zero⟩)
    rw [applyFloats, floatOfInt_beq_zero nonzero]
    refine close _ (isFinite_div numberx numbery (nearestInt_ne_zero nonzero)
      (lt_of_le_of_lt ?_ large))
    calc |(nearestInt x.toInt : ℝ) / nearestInt y.toInt| ≤ |(nearestInt x.toInt : ℝ)| := by
          rw [abs_div]
          exact div_le_self (abs_nonneg _) (one_le_abs_nearestInt nonzero)
      _ ≤ 2 ^ 63 := hx
      _ ≤ 2 ^ 63 * 2 ^ 63 := by norm_num
  | modulo => exact absurd rfl quotient
  | _ => cases binary

/-! ### The result of an operator -/

/-- What the result of an operator on two integers is. -/
inductive Yields (op : MathOp) (x y : Int64) : Value → Prop where
  | exact {r : Int64} (isExact : op.IsExact x.toInt y.toInt r.toInt) (found : ¬op.IsMissed x y) :
    Yields op x y (.int r)
  | float {f : Float} (finite : f.isFinite = true) (defined : ¬op.IsNull x y)
      (inexact : ∀ r : Int64, ¬op.IsExact x.toInt y.toInt r.toInt) : Yields op x y (.float f)
  | missed (missed : op.IsMissed x y) : Yields op x y (.float (-0.0))
  | null (undefined : op.IsNull x y) : Yields op x y .null

/-- The remainder of the smallest integer by minus one is a zero with a sign. -/
theorem applyInts_missed : applyInts modulo Int64.minValue (-1) = .float (-0.0) := by
  have notFound : exactResult? modulo Int64.minValue.toInt (-1 : Int64).toInt =
    none := by decide +kernel
  have zero : remainder (floatOfInt Int64.minValue.toInt) (floatOfInt (-1 : Int64).toInt) =
    -0.0 := by decide +kernel
  have divisor : (floatOfInt (-1 : Int64).toInt == 0.0) = false := by decide +kernel
  rw [applyInts, if_neg (by decide), notFound]
  change (if (floatOfInt (-1 : Int64).toInt == 0.0) = true then Value.null else _) = _
  rw [divisor, zero]
  exact floatValue_of_isFinite (f := -0.0) (by decide +kernel)

theorem yields_applyInts (binary : op.isUnary = false) : op.Yields x y (op.applyInts x y) := by
  by_cases undefined : op.IsNull x y
  · have division : y = 0 ∧ (op = divide ∨ op = modulo) := by
      rcases undefined with ⟨division, zero⟩ | ⟨rfl, -⟩
      · exact ⟨zero, division⟩
      · cases binary
    rw [applyInts, if_pos division]
    exact .null undefined
  have notDivision : ¬(y = 0 ∧ (op = divide ∨ op = modulo)) := fun h => undefined (.inl ⟨h.2, h.1⟩)
  by_cases missed : op.IsMissed x y
  · have value : op.applyInts x y = .float (-0.0) := by
      obtain ⟨rfl, rfl, rfl⟩ := missed
      exact applyInts_missed
    rw [value]
    exact .missed missed
  rw [applyInts, if_neg notDivision]
  cases result : op.exactResult? x.toInt y.toInt with
  | some r =>
    obtain ⟨isExact, found⟩ := (exactResult?_eq_some_iff binary undefined).mp result
    exact .exact isExact found
  | none =>
    have inexact (r : Int64) : ¬op.IsExact x.toInt y.toInt r.toInt := fun isExact =>
      Option.some_ne_none r
        (((exactResult?_eq_some_iff binary undefined).mpr ⟨isExact, missed⟩).symm.trans result)
    -- A remainder is in range, so it is none of the results that have to be floats.
    have quotient : op ≠ modulo := by
      rintro rfl
      have nonzero : y ≠ 0 := fun zero => undefined (.inl ⟨.inr rfl, zero⟩)
      obtain ⟨r, -, exact⟩ := int64?_of_isInt64 (isInt64_tmod x nonzero)
      exact inexact r ((isExact_modulo_iff (mt toInt_eq_zero_iff.mp nonzero)).mpr exact.symm)
    obtain ⟨f, finite, value⟩ := exists_applyFloats binary undefined quotient
    rw [value]
    exact .float finite undefined inexact

theorem yields_applyUnary (unary : op.isUnary = true) : op.Yields x y (op.applyUnary (.int x)) := by
  have self (h : op.IsExact x.toInt y.toInt x.toInt) (rounding : op ≠ modulo) :
      op.Yields x y (.int x) :=
    .exact h fun missed => rounding missed.1
  cases op with
  | round => exact self rfl nofun
  | floor => exact self rfl nofun
  | ceil => exact self rfl nofun
  | abs =>
    rw [applyUnary]
    cases found : int64? x.toInt.natAbs with
    | some r =>
      have isExact : abs.IsExact x.toInt y.toInt r.toInt :=
        (int64?_eq_some_iff.mp found).trans (Int.abs_eq_natAbs _).symm
      exact .exact isExact fun missed => nomatch missed.1
    | none =>
      have outside := int64?_eq_none_iff.mp found
      have hx := isInt64_toInt x
      rw [IsInt64] at outside hx
      refine .null (.inr ⟨rfl, Int64.toInt_inj.mp ?_⟩)
      rw [Int64.toInt_minValue]
      omega
  | _ => cases unary

theorem Yields.int_iff {value : Value} (h : op.Yields x y value) (r : Int64) :
    value = .int r ↔ op.IsExact x.toInt y.toInt r.toInt ∧ ¬op.IsMissed x y := by
  cases h with
  | exact isExact found =>
    refine ⟨fun same => Value.int.inj same ▸ ⟨isExact, found⟩, fun other => ?_⟩
    rw [Int64.toInt_inj.mp (isExact.unique other.1)]
  | float _ _ inexact => exact ⟨nofun, fun isExact => absurd isExact.1 (inexact r)⟩
  | missed missed => exact ⟨nofun, fun isExact => absurd missed isExact.2⟩
  | null undefined => exact ⟨nofun, fun isExact => absurd isExact.1 (undefined.not_isExact r)⟩

theorem Yields.float_iff {value : Value} (h : op.Yields x y value) :
    (∃ f : Float, f.isFinite = true ∧ value = .float f) ↔
      op.IsMissed x y ∨ ¬op.IsNull x y ∧ ∀ r : Int64, ¬op.IsExact x.toInt y.toInt r.toInt := by
  cases h with
  | exact isExact found =>
    exact ⟨nofun, fun none => none.elim (absurd · found) fun none => absurd isExact (none.2 _)⟩
  | float finite defined inexact =>
    exact ⟨fun _ => .inr ⟨defined, inexact⟩, fun _ => ⟨_, finite, rfl⟩⟩
  | missed missed => exact ⟨fun _ => .inl missed, fun _ => ⟨-0.0, by decide +kernel, rfl⟩⟩
  | null undefined =>
    exact ⟨nofun, fun none => none.elim (fun missed => absurd undefined missed.not_isNull)
      fun none => absurd undefined none.1⟩

theorem Yields.null_iff {value : Value} (h : op.Yields x y value) :
    value = .null ↔ op.IsNull x y := by
  cases h with
  | exact isExact found => exact ⟨nofun, fun undefined => absurd isExact (undefined.not_isExact _)⟩
  | float finite defined inexact => exact ⟨nofun, fun undefined => absurd undefined defined⟩
  | missed missed => exact ⟨nofun, fun undefined => absurd undefined missed.not_isNull⟩
  | null undefined => exact ⟨fun _ => undefined, fun _ => rfl⟩

theorem Yields.eq_of_isMissed {value : Value} (h : op.Yields x y value) (missed : op.IsMissed x y) :
    value = .float (-0.0) := by
  cases h with
  | exact _ found => exact absurd missed found
  | float _ _ inexact => exact absurd missed.isExact (inexact 0)
  | missed _ => rfl
  | null undefined => exact absurd undefined missed.not_isNull

end MathOp

namespace Expression

open MathOp

variable {op : MathOp} {left : Expression} {right : Option Expression} {now : Timestamp}
    {record : Record} {x y : Int64}

section

variable (hleft : (left.evaluate now record).bind Operand.ofValue? = some (.int x))
  (hright : op.isUnary = false →
    (evaluateOption now record right).bind Operand.ofValue? = some (.int y))

include hleft hright

theorem exists_yields :
    ∃ value, (math op left right).evaluate now record = some value ∧ op.Yields x y value := by
  refine ⟨_, rfl, ?_⟩
  rw [MathOp.apply, hleft]
  cases kind : op.isUnary with
  | true => exact yields_applyUnary kind
  | false =>
    rw [hright kind]
    exact yields_applyInts kind

/-- **Arithmetic on integers is exact where it can be.** An operator on two 64-bit integers
yields the integer that is the exact result, a finite float if no such integer is the exact
result, and null only for a division by zero: all this but for two cases of the smallest
integer. Its remainder by minus one, which is zero, is the float `-0.0`, and its absolute value,
which is out of range, is null. -/
theorem evaluate_integers :
    (∀ r : Int64, (math op left right).evaluate now record = some (.int r) ↔
      op.IsExact x.toInt y.toInt r.toInt ∧ ¬op.IsMissed x y) ∧
    ((∃ f : Float, f.isFinite = true ∧ (math op left right).evaluate now record = some (.float f)) ↔
      op.IsMissed x y ∨ ¬op.IsNull x y ∧ ∀ r : Int64, ¬op.IsExact x.toInt y.toInt r.toInt) ∧
    ((math op left right).evaluate now record = some .null ↔ op.IsNull x y) ∧
    (op.IsMissed x y → op.IsExact x.toInt y.toInt 0 ∧
      (math op left right).evaluate now record = some (.float (-0.0))) := by
  obtain ⟨value, evaluated, yields⟩ := exists_yields hleft hright
  rw [evaluated]
  simp only [Option.some_inj]
  exact ⟨yields.int_iff, yields.float_iff, yields.null_iff,
    fun missed => ⟨missed.isExact, yields.eq_of_isMissed missed⟩⟩

end

/-- A record with the largest integer and with one as a text. -/
def limits : Record := [("largest", .int Int64.maxValue), ("one", .text " 1 ")]

/-- The sum of the largest integer and one is no integer, so it is a float. -/
theorem evaluate_integers_limits : ∃ f : Float, f.isFinite = true ∧
    (math .add (.field "largest") (some (.field "one"))).evaluate .epoch limits =
      some (.float f) := by
  have hleft : ((Expression.field "largest").evaluate .epoch limits).bind Operand.ofValue? =
      some (.int Int64.maxValue) := rfl
  have hright : (evaluateOption .epoch limits (some (.field "one"))).bind Operand.ofValue? =
      some (.int 1) := by
    have read : readInt64? (Text.trim " 1 ") = some 1 := by decide +kernel
    change ((readInt64? (Text.trim " 1 ")).map Operand.int).orElse
      (fun _ => (readFloat? (Text.trim " 1 ")).map Operand.float) = _
    rw [read]
    rfl
  have overflow (r : Int64) :
      ¬MathOp.add.IsExact Int64.maxValue.toInt (1 : Int64).toInt r.toInt := by
    have := Int64.toInt_lt r
    change ¬r.toInt = 2 ^ 63 - 1 + 1
    omega
  exact (evaluate_integers hleft fun _ => hright).2.1.mpr (.inr ⟨by simp [MathOp.IsNull], overflow⟩)

/-- The smallest integer has no integer as its remainder by minus one,
and no absolute value at all. -/
theorem evaluate_smallestInteger :
    MathOp.modulo.IsExact Int64.minValue.toInt (-1) 0 ∧
      (math .modulo (.literal (.int Int64.minValue)) (some (.literal (.int (-1))))).evaluate .epoch
        [] = some (.float (-0.0)) ∧
      (math .abs (.literal (.int Int64.minValue)) none).evaluate .epoch [] = some .null := by
  have outside : MathOp.int64? Int64.minValue.toInt.natAbs = none := by decide +kernel
  refine ⟨(MathOp.isExact_modulo_iff (by decide)).mpr (by decide),
    congrArg some MathOp.applyInts_missed, ?_⟩
  change some (((MathOp.int64? Int64.minValue.toInt.natAbs).map Value.int).getD .null) = _
  rw [outside]
  rfl

end Expression

end RecordFlow
