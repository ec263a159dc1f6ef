import RecordFlow.Proofs.Step.Aggregating
import RecordFlow.Proofs.Value.Order

/-!
# The least and the greatest number

The least and the greatest number of a field are found by comparing floats. What is found is
one of the numbers, and among floats none lies beyond it. Rounding keeps the order of numbers
but not that two of them differ: exactly, none lies beyond it only if that holds of the
numbers that are the same float.

## Main definitions

* `Value.asNumber`, `Value.asRounded` — what a number is exactly, and as a float
* `Value.numbersAt` — the numbers of a field
* `Value.IsLeastBy`, `Value.IsGreatestBy` — no number lies beyond a value
* `Value.StayApart` — no two numbers become one float

## Main results

* `Value.asRounded_mono` — rounding keeps the order of integers and floats
* `Value.extreme?_lt`, `Value.extreme?_gt` — what is left is a first least or greatest float
* `Value.isLeastBy_iff`, `Value.isGreatestBy_iff` — when an extreme among floats is exact
* `AggregateFunction.fold_areExtremes` — the least and the greatest number of a field
-/

namespace RecordFlow

namespace Value

variable {value other : Value} {values : List Value}

/-! ### Numbers exactly and as floats -/

/-- The number that a value is, zero for what is none. -/
noncomputable def asNumber (value : Value) : EReal := value.number?.getD 0

/-- The number that a value is as a float. -/
noncomputable def asRounded (value : Value) : EReal := value.rounded?.getD 0

/-- An integer, or a float that is not NaN. -/
inductive IsProperNumber : Value → Prop where
  | int (i : Int64) : IsProperNumber (.int i)
  | float {f : Float} {x : EReal} (number : RecordFlow.number? f = some x) :
    IsProperNumber (.float f)

theorem IsProperNumber.of_free (number : value.isNumber = true) (free : value.IsNaNFree) :
    value.IsProperNumber := by
  cases free with
  | int i => exact .int i
  | float notNaN =>
    obtain ⟨x, hx⟩ := exists_number? notNaN
    exact .float hx
  | _ => cases number

theorem asRounded_int (i : Int64) : (int i).asRounded = ((nearestInt i.toInt : ℝ) : EReal) := by
  rw [asRounded, rounded?_int, Option.getD_some]

theorem asNumber_float {f : Float} {x : EReal} (number : RecordFlow.number? f = some x) :
    (float f).asNumber = x := by
  rw [asNumber, Value.number?, number, Option.getD_some]

theorem asRounded_float {f : Float} {x : EReal} (number : RecordFlow.number? f = some x) :
    (float f).asRounded = x :=
  asNumber_float number

/-- A number that is not less exactly is not less as a float. -/
theorem asRounded_mono (hvalue : value.IsProperNumber) (hother : other.IsProperNumber)
    (le : value.asNumber ≤ other.asNumber) : value.asRounded ≤ other.asRounded := by
  cases hvalue with
  | int i =>
    rw [asRounded_int]
    cases hother with
    | int j =>
      have le : i.toInt ≤ j.toInt := Int.cast_le.mp (EReal.coe_le_coe_iff.mp le)
      rw [asRounded_int]
      exact EReal.coe_le_coe_iff.mpr (Int.cast_le.mpr (nearestInt_mono le))
    | float number =>
      rw [asNumber_float number] at le
      rw [asRounded_float number]
      exact nearestInt_le_float number le
  | float number =>
    rw [asNumber_float number] at le
    rw [asRounded_float number]
    cases hother with
    | int j =>
      rw [asRounded_int]
      exact float_le_nearestInt number le
    | float number' => exact le

/-- Numbers are compared as floats. -/
theorem exists_asFloat? (hvalue : value.IsProperNumber) :
    ∃ f, value.asFloat? = some f ∧ RecordFlow.number? f = some value.asRounded := by
  cases hvalue with
  | int i =>
    refine ⟨_, rfl, ?_⟩
    rw [asRounded_int]
    exact rounded?_int i
  | float number => exact ⟨_, rfl, by rw [asRounded_float number, number]⟩

theorem precedes_lt (hvalue : value.IsProperNumber) (hother : other.IsProperNumber) :
    value.precedes (fun x y => x < y) other = decide (value.asRounded < other.asRounded) := by
  obtain ⟨f, hf, numberf⟩ := exists_asFloat? hvalue
  obtain ⟨g, hg, numberg⟩ := exists_asFloat? hother
  rw [precedes, hf, hg]
  simp [float_lt_iff, numberf, numberg]

theorem precedes_gt (hvalue : value.IsProperNumber) (hother : other.IsProperNumber) :
    value.precedes (fun x y => x > y) other = decide (other.asRounded < value.asRounded) := by
  obtain ⟨f, hf, numberf⟩ := exists_asFloat? hvalue
  obtain ⟨g, hg, numberg⟩ := exists_asFloat? hother
  rw [precedes, hf, hg]
  simp [float_lt_iff, numberf, numberg]

/-! ### What is left -/

/-- What is left is found in the same way by another comparison that compares these values alike. -/
theorem extreme?_eq_foldl {before : Float → Float → Bool} {r : Value → Value → Prop}
    [DecidableRel r] (same : ∀ v ∈ values, ∀ w ∈ values, v.precedes before w = decide (r v w)) :
    extreme? before values = values.foldl (List.argAux r) none := by
  cases values with
  | nil => rfl
  | cons first rest =>
    change some _ = rest.foldl (List.argAux r) (some first)
    induction rest generalizing first with
    | nil => rfl
    | cons second rest ih =>
      -- The number that is left of the first two is one of them, so the
      -- numbers are still compared alike.
      have next : List.argAux r (some first) second =
          some (if second.precedes before first then second else first) := by
        rw [same second (by simp) first (by simp)]
        simp only [List.argAux, decide_eq_true_eq]
        split <;> rfl
      rw [List.foldl_cons, List.foldl_cons, next]
      refine ih _ fun v hv w hw => same v ?_ w ?_
      · split at hv <;> grind
      · split at hw <;> grind

theorem extreme?_lt (proper : ∀ number ∈ values, number.IsProperNumber) :
    extreme? (fun x y => x < y) values = values.argmin asRounded :=
  extreme?_eq_foldl fun v hv w hw => precedes_lt (proper v hv) (proper w hw)

theorem extreme?_gt (proper : ∀ number ∈ values, number.IsProperNumber) :
    extreme? (fun x y => x > y) values = values.argmax asRounded :=
  extreme?_eq_foldl fun v hv w hw => precedes_gt (proper v hv) (proper w hw)

/-! ### Extremes -/

/-- The numbers of a field. -/
def numbersAt (field : String) (records : List Record) : List Value :=
  numbers (records.map (·.getPath? field))

/-- No number is less than the value, by some measure. -/
def IsLeastBy (measure : Value → EReal) (least : Value) (values : List Value) : Prop :=
  ∀ number ∈ values, measure least ≤ measure number

/-- No number is greater than the value, by some measure. -/
def IsGreatestBy (measure : Value → EReal) (greatest : Value) (values : List Value) : Prop :=
  ∀ number ∈ values, measure number ≤ measure greatest

/-- Numbers that are the same float are the same number. -/
def StayApart (values : List Value) : Prop :=
  ∀ number ∈ values, ∀ other ∈ values, number.asRounded = other.asRounded →
    number.asNumber = other.asNumber

/-- A least float is a least number if no number that is the same float is less. -/
theorem isLeastBy_iff {least : Value} (proper : ∀ number ∈ values, number.IsProperNumber)
    (mem : least ∈ values) (rounded : IsLeastBy asRounded least values) :
    IsLeastBy asNumber least values ↔
      ∀ number ∈ values, number.asRounded = least.asRounded → least.asNumber ≤ number.asNumber := by
  refine ⟨fun exact number h _ => exact number h,
    fun exact number h => not_lt.mp fun less => less.not_ge ?_⟩
  have back := asRounded_mono (proper number h) (proper least mem) less.le
  exact exact number h (back.antisymm (rounded number h))

/-- A greatest float is a greatest number if no number that is the same float is greater. -/
theorem isGreatestBy_iff {greatest : Value} (proper : ∀ number ∈ values, number.IsProperNumber)
    (mem : greatest ∈ values) (rounded : IsGreatestBy asRounded greatest values) :
    IsGreatestBy asNumber greatest values ↔
      ∀ number ∈ values, number.asRounded = greatest.asRounded →
        number.asNumber ≤ greatest.asNumber := by
  refine ⟨fun exact number h _ => exact number h,
    fun exact number h => not_lt.mp fun less => less.not_ge ?_⟩
  have back := asRounded_mono (proper greatest mem) (proper number h) less.le
  exact exact number h ((rounded number h).antisymm back)

/-- Numbers stay apart if the integers among them are floats. -/
theorem stayApart_of_natAbs_le (proper : ∀ number ∈ values, number.IsProperNumber)
    (small : ∀ i, int i ∈ values → i.toInt.natAbs ≤ 2 ^ 53) : StayApart values := by
  have same (number : Value) (h : number ∈ values) : number.asRounded = number.asNumber := by
    cases proper number h with
    | int i =>
      rw [asRounded_int, nearestInt_of_natAbs_le (small i h)]
      rfl
    | float number => rw [asRounded_float number, asNumber_float number]
  intro number h other h' equal
  rwa [same number h, same other h'] at equal

end Value

namespace AggregateFunction

open Value

variable {field : String} {records : List Record}

theorem min_fold (field : String) (records : List Record) :
    min.fold field records =
      (extreme? (fun x y => x < y) (numbersAt field records)).getD .null := by
  rw [fold_eq_foldl, Accumulator.result_foldl_min]
  rfl

theorem max_fold (field : String) (records : List Record) :
    max.fold field records =
      (extreme? (fun x y => x > y) (numbersAt field records)).getD .null := by
  rw [fold_eq_foldl, Accumulator.result_foldl_max]
  rfl

/-- **The least and the greatest number of a field are two of its numbers**, null if there are none,
and no number lies beyond them if all are rounded to floats. Each is exact where no number beyond it
is the same float. So both are exact where different numbers stay different floats, as they do if no
integer is beyond `2 ^ 53`. -/
theorem fold_areExtremes (field : String) (records : List Record)
    (free : ∀ number ∈ numbersAt field records, number.IsNaNFree) :
    (numbersAt field records = [] →
      min.fold field records = .null ∧ max.fold field records = .null) ∧
    (numbersAt field records ≠ [] → ∃ least ∈ numbersAt field records,
      ∃ greatest ∈ numbersAt field records, min.fold field records = least ∧
      max.fold field records = greatest ∧ IsLeastBy asRounded least (numbersAt field records) ∧
        IsGreatestBy asRounded greatest (numbersAt field records) ∧
      (IsLeastBy asNumber least (numbersAt field records) ↔ ∀ number ∈ numbersAt field records,
        number.asRounded = least.asRounded → least.asNumber ≤ number.asNumber) ∧
      (IsGreatestBy asNumber greatest (numbersAt field records) ↔
        ∀ number ∈ numbersAt field records, number.asRounded = greatest.asRounded →
          number.asNumber ≤ greatest.asNumber) ∧
      (StayApart (numbersAt field records) → IsLeastBy asNumber least (numbersAt field records) ∧
        IsGreatestBy asNumber greatest (numbersAt field records))) ∧
    ((∀ i, int i ∈ numbersAt field records → i.toInt.natAbs ≤ 2 ^ 53) →
      StayApart (numbersAt field records)) := by
  rw [min_fold, max_fold]
  have proper : ∀ number ∈ numbersAt field records, number.IsProperNumber := fun number h =>
    .of_free (List.mem_filter.mp h).2 (free number h)
  generalize numbersAt field records = numbers at proper
  refine ⟨by rintro rfl; exact ⟨rfl, rfl⟩, fun nonempty => ?_, stayApart_of_natAbs_le proper⟩
  rw [extreme?_lt proper, extreme?_gt proper]
  obtain ⟨least, hleast⟩ :=
    Option.ne_none_iff_exists'.mp (mt (List.argmin_eq_none (f := asRounded)).mp nonempty)
  obtain ⟨greatest, hgreatest⟩ :=
    Option.ne_none_iff_exists'.mp (mt (List.argmax_eq_none (f := asRounded)).mp nonempty)
  have isLeast : IsLeastBy asRounded least numbers := fun number h => List.le_of_mem_argmin h hleast
  have isGreatest : IsGreatestBy asRounded greatest numbers :=
    fun number h => List.le_of_mem_argmax h hgreatest
  have memLeast := List.argmin_mem hleast
  have memGreatest := List.argmax_mem hgreatest
  have least_iff := isLeastBy_iff proper memLeast isLeast
  have greatest_iff := isGreatestBy_iff proper memGreatest isGreatest
  refine ⟨least, memLeast, greatest, memGreatest, ?_, ?_, isLeast, isGreatest, least_iff,
    greatest_iff, fun apart =>
    ⟨least_iff.mpr fun number h same => ?_, greatest_iff.mpr fun number h same => ?_⟩⟩
  · rw [hleast, Option.getD_some]
  · rw [hgreatest, Option.getD_some]
  · exact (apart number h least memLeast same).ge
  · exact (apart number h greatest memGreatest same).le

/-- Ratings with a remark among them. -/
def ratings : List Record :=
  [[("stars", .int 3)], [("stars", .text "none")], [("stars", .float 2.5)], []]

theorem fold_areExtremes_ratings : (∀ number ∈ numbersAt "stars" ratings, number.IsNaNFree) ∧
    min.fold "stars" ratings = .float 2.5 ∧ max.fold "stars" ratings = .int 3 ∧
    IsLeastBy asNumber (.float 2.5) (numbersAt "stars" ratings) ∧
    IsGreatestBy asNumber (.int 3) (numbersAt "stars" ratings) := by
  have numbers : numbersAt "stars" ratings = [.int 3, .float 2.5] := rfl
  have free : ∀ number ∈ numbersAt "stars" ratings, number.IsNaNFree := by
    rw [numbers]
    decide
  have small (i : Int64) (h : int i ∈ numbersAt "stars" ratings) : i.toInt.natAbs ≤ 2 ^ 53 := by
    obtain rfl : i = 3 := by simpa [numbers] using h
    decide
  obtain ⟨-, found, apart⟩ := fold_areExtremes "stars" ratings free
  obtain ⟨least, -, greatest, -, min, max, -, -, -, -, exact⟩ :=
    found (by rw [numbers]; exact List.cons_ne_nil _ _)
  obtain rfl : least = .float 2.5 := min.symm.trans (by rfl)
  obtain rfl : greatest = .int 3 := max.symm.trans (by rfl)
  exact ⟨free, min, max, exact (apart small)⟩

/-- Times in nanoseconds, two of which are the same float. -/
def ticks : List Record := [[("at", .int 9007199254740992)], [("at", .int 9007199254740993)]]

/-- The first of two integers that are the same float is taken for the greatest one,
though the second one is greater. -/
theorem max_fold_ticks : max.fold "at" ticks = .int 9007199254740992 ∧
    .int 9007199254740993 ∈ numbersAt "at" ticks ∧
    (int 9007199254740992).asNumber < (int 9007199254740993).asNumber ∧
    ¬∀ (field : String) (records : List Record),
      (∀ number ∈ numbersAt field records, number.IsNaNFree) →
      numbersAt field records ≠ [] → ∀ number ∈ numbersAt field records,
        number.asNumber ≤ (max.fold field records).asNumber := by
  have numbers : numbersAt "at" ticks = [.int 9007199254740992, .int 9007199254740993] := rfl
  have result : max.fold "at" ticks = .int 9007199254740992 := rfl
  have greater : (int 9007199254740992).asNumber < (int 9007199254740993).asNumber :=
    EReal.coe_lt_coe_iff.mpr (Int.cast_lt.mpr (by decide))
  have mem : .int 9007199254740993 ∈ numbersAt "at" ticks := by simp [numbers]
  refine ⟨result, mem, greater, fun greatest => greater.not_ge ?_⟩
  have below :=
    greatest "at" ticks (by rw [numbers]; decide)
      (by rw [numbers]; exact List.cons_ne_nil _ _) _ mem
  rwa [result] at below

end AggregateFunction

end RecordFlow
