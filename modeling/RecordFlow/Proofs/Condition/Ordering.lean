import RecordFlow.Proofs.Condition.Membership
import RecordFlow.Proofs.Value.Order

/-!
# Comparisons in conditions

Numbers are compared with numbers and texts with texts. Where a field compares with a value
so, it is less, equal or greater, and "at most" is "less or equal". An integer and a float
are the exception: equality takes both for what they are, but the order rounds the integer
first. An integer that is rounded to a float, without being that float, is neither less nor
greater, and it does not equal it.

## Main definitions

* `Value.AreOrdered` — two numbers or two texts
* `Value.AreBlurred` — an integer and the different float that it is rounded to
* `Value.AreCrossed` — a float between two integers that are rounded to it

## Main results

* `Record.meets_comparisons` — how the comparisons of a field fit together
* `Record.meets_no_comparison` — a field that is neither less than a
  number, nor equal to it, nor greater
-/

namespace RecordFlow

namespace Value

variable {x y z : Value}

/-- Two values are numbers, neither of which is NaN, or they are texts. -/
inductive AreOrdered : Value → Value → Prop where
  | numbers {x y : Value} {a b : EReal} (left : x.number? = some a) (right : y.number? = some b) :
    AreOrdered x y
  | texts (s t : String) : AreOrdered (.text s) (.text t)

/-- A float is what an integer is rounded to. -/
def IsRoundedTo (i : Int64) (f : Float) : Prop :=
  RecordFlow.number? f = some ((nearestInt i.toInt : ℝ) : EReal)

/-- One of two values is an integer, and the other one is the float that it is rounded
to, which is another number. -/
def AreBlurred (x y : Value) : Prop :=
  ∃ i f, (x = .int i ∧ y = .float f ∨ x = .float f ∧ y = .int i) ∧ IsRoundedTo i f ∧
    nearestInt i.toInt ≠ i.toInt

/-- A float is between two integers that are both rounded to it, and the
first one is the greater one. -/
def AreCrossed (x y z : Value) : Prop :=
  ∃ i f j, x = .int i ∧ y = .float f ∧ z = .int j ∧ IsRoundedTo i f ∧
    IsRoundedTo j f ∧ j.toInt < i.toInt

theorem AreOrdered.symm (h : AreOrdered x y) : AreOrdered y x := by
  cases h with
  | numbers left right => exact .numbers right left
  | texts s t => exact .texts t s

theorem AreOrdered.trans (h : AreOrdered x y) (h' : AreOrdered y z) : AreOrdered x z := by
  cases h with
  | numbers left right =>
    cases h' with
    | numbers _ right' => exact .numbers left right'
    | texts s t => cases right
  | texts s t =>
    cases h' with
    | numbers left _ => cases left
    | texts _ u => exact .texts s u

theorem AreBlurred.symm (h : AreBlurred x y) : AreBlurred y x := by
  obtain ⟨i, f, kinds, rounded⟩ := h
  exact ⟨i, f, kinds.symm.imp And.symm And.symm, rounded⟩

theorem areBlurred_comm : AreBlurred x y ↔ AreBlurred y x := ⟨.symm, .symm⟩

theorem areBlurred_int_float_iff {i : Int64} {f : Float} :
    AreBlurred (.int i) (.float f) ↔ IsRoundedTo i f ∧ nearestInt i.toInt ≠ i.toInt := by
  simp [AreBlurred]

/-! ### The order and equality -/

/-- Values that are ordered compare as they are sorted. -/
theorem AreOrdered.compare?_eq (h : AreOrdered x y) : x.compare? y = some (x.order y) := by
  have floats {f g : Float} {a b : EReal} (left : RecordFlow.number? f = some a)
      (right : RecordFlow.number? g = some b) :
      compareFloats? f g = some ((compareFloats? f g).getD .eq) := by
    rw [compareFloats?_eq, left, right]
    rfl
  cases h with
  | texts s t => rfl
  | numbers left right =>
    cases x with
    | int i =>
      cases y with
      | int j => rfl
      | float g => exact floats (rounded?_int i) right
      | _ => cases right
    | float f =>
      cases y with
      | int j => exact floats left (rounded?_int j)
      | float g => exact floats left right
      | _ => cases right
    | _ => cases left

/-- A float that is an integer is what this is rounded to. -/
theorem isRoundedTo_of_number? {i : Int64} {f : Float}
    (h : RecordFlow.number? f = some ((i.toInt : ℝ) : EReal)) :
    IsRoundedTo i f ∧ nearestInt i.toInt = i.toInt := by
  have exact : nearestInt i.toInt = i.toInt := by
    have := le_antisymm (nearestInt_le_float h le_rfl) (float_le_nearestInt h le_rfl)
    exact_mod_cast this
  rw [IsRoundedTo, exact]
  exact ⟨h, rfl⟩

theorem order_int_float_eq_iff {i : Int64} {f : Float} {a : EReal}
    (number : RecordFlow.number? f = some a) : (int i).order (float f) = .eq ↔ IsRoundedTo i f := by
  rw [order_of_rounded? (a := int i) (b := float f) (rounded?_int i) number, IsRoundedTo, number,
    Option.some_inj]
  exact Ordering.then_eq_eq.trans ((and_iff_left rfl).trans (compare_eq_iff_eq.trans eq_comm))

/-- An integer and a float are sorted as equal if they are, and if the integer
is only rounded to the float. -/
theorem order_int_float_eq_iff_same {i : Int64} {f : Float} {a : EReal}
    (number : RecordFlow.number? f = some a) :
    (int i).order (float f) = .eq ↔ (int i == float f) = true ∨ AreBlurred (.int i) (.float f) := by
  have same : (int i == float f) = true ↔ RecordFlow.number? f = some ((i.toInt : ℝ) : EReal) := by
    rw [number_same_iff rfl]
    simp [Value.number?]
  rw [order_int_float_eq_iff number, same, areBlurred_int_float_iff]
  refine ⟨fun rounded => ?_, fun h => h.elim (fun h => (isRoundedTo_of_number? h).1) And.left⟩
  by_cases exact : nearestInt i.toInt = i.toInt
  · rw [IsRoundedTo, exact] at rounded
    exact .inl rounded
  · exact .inr ⟨rounded, exact⟩

/-- Values are sorted as equal if they are, and if an integer is only rounded to a float. -/
theorem AreOrdered.order_eq_iff (h : AreOrdered x y) :
    x.order y = .eq ↔ (x == y) = true ∨ AreBlurred x y := by
  cases h with
  | texts s t =>
    have sharp : ¬AreBlurred (.text s) (.text t) := by simp [AreBlurred]
    change compareTexts s t = .eq ↔ _
    rw [or_iff_left sharp, compareTexts_eq, compare_eq_iff_eq, text_same_iff, text.injEq]
  | numbers left right =>
    cases x with
    | int i =>
      cases y with
      | int j =>
        have sharp : ¬AreBlurred (.int i) (.int j) := by simp [AreBlurred]
        rw [or_iff_left sharp, number_same_iff rfl]
        change compare i.toInt j.toInt = .eq ↔ _
        rw [compare_eq_iff_eq]
        simp [Value.number?, eq_comm]
      | float g => exact order_int_float_eq_iff_same right
      | _ => cases right
    | float f =>
      cases y with
      | int j =>
        have swapped : (int j == float f) = true ↔ (float f == int j) = true :=
          ⟨number_symm rfl, number_symm rfl⟩
        rw [order_swap, Ordering.swap_eq_eq, order_int_float_eq_iff_same left,
          swapped, areBlurred_comm]
      | float g =>
        have sharp : ¬AreBlurred (.float f) (.float g) := by simp [AreBlurred]
        rw [or_iff_left sharp, order_of_rounded? (a := float f) (b := float g) left right,
          number_same_iff rfl, left, right]
        refine Ordering.then_eq_eq.trans ((and_iff_left rfl).trans (compare_eq_iff_eq.trans ?_))
        simp [eq_comm]
      | _ => cases right
    | _ => cases left

/-- What is blurred is not equal. -/
theorem AreBlurred.not_same (h : AreBlurred x y) : ¬(x == y) = true := by
  have sharp {i : Int64} {f : Float} (inexact : nearestInt i.toInt ≠ i.toInt) :
      ¬(int i == float f) = true := by
    rw [number_same_iff rfl]
    rintro ⟨_, left, right⟩
    exact inexact (isRoundedTo_of_number? (right.trans left.symm)).2
  obtain ⟨i, f, ⟨rfl, rfl⟩ | ⟨rfl, rfl⟩, -, inexact⟩ := h
  · exact sharp inexact
  · exact fun same => sharp inexact (number_symm rfl same)

/-! ### Three values -/

theorem compareInts_eq_lt_iff :
    x.compareInts y = .lt ↔ ∃ i j, x = .int i ∧ y = .int j ∧ i.toInt < j.toInt := by
  cases x with
  | int i => cases y <;> simp [compareInts, compare_lt_iff_lt]
  | _ => simp [compareInts]

theorem compareInts_eq_gt_iff :
    x.compareInts y = .gt ↔ ∃ i j, x = .int i ∧ y = .int j ∧ j.toInt < i.toInt := by
  cases x with
  | int i => cases y <;> simp [compareInts, compare_gt_iff_gt]
  | _ => simp [compareInts]

section

variable {a b : EReal} (ha : x.rounded? = some a) (hb : y.rounded? = some b)

include ha hb

theorem order_eq_lt_iff : x.order y = .lt ↔ a < b ∨ a = b ∧ x.compareInts y = .lt := by
  rw [order_of_rounded? ha hb, Ordering.then_eq_lt, compare_lt_iff_lt, compare_eq_iff_eq]

theorem order_eq_gt_iff : x.order y = .gt ↔ b < a ∨ a = b ∧ x.compareInts y = .gt := by
  rw [order_of_rounded? ha hb, Ordering.then_eq_gt, compare_gt_iff_gt, compare_eq_iff_eq]

end

/-- A number is a number when it is rounded. -/
theorem exists_rounded?_of_number? {a : EReal} (h : x.number? = some a) :
    ∃ r, x.rounded? = some r := by
  cases x with
  | int i => exact ⟨_, rounded?_int i⟩
  | float f => exact ⟨a, h⟩
  | _ => cases h

/-- The strict order is transitive. -/
theorem AreOrdered.order_lt_trans (h : AreOrdered x y) (h' : AreOrdered y z)
    (first : x.order y = .lt) (second : y.order z = .lt) : x.order z = .lt := by
  cases h with
  | texts s t =>
    cases h' with
    | numbers left => cases left
    | texts _ u =>
      change compareTexts s t = .lt at first
      change compareTexts t u = .lt at second
      change compareTexts s u = .lt
      rw [compareTexts_eq, compare_lt_iff_lt] at first second ⊢
      exact first.trans second
  | numbers numberx numbery =>
    cases h' with
    | texts s t => cases numbery
    | numbers _ numberz =>
      obtain ⟨a, ha⟩ := exists_rounded?_of_number? numberx
      obtain ⟨b, hb⟩ := exists_rounded?_of_number? numbery
      obtain ⟨c, hc⟩ := exists_rounded?_of_number? numberz
      -- Rounded numbers are in a linear order; between those that are one
      -- number, only two integers are less.
      rw [order_eq_lt_iff ha hb] at first
      rw [order_eq_lt_iff hb hc] at second
      rw [order_eq_lt_iff ha hc]
      rcases first with first | ⟨rfl, first⟩
      · rcases second with second | ⟨rfl, -⟩
        · exact .inl (first.trans second)
        · exact .inl first
      · rcases second with second | ⟨rfl, second⟩
        · exact .inl second
        · obtain ⟨i, j, rfl, rfl, less⟩ := compareInts_eq_lt_iff.mp first
          obtain ⟨_, k, same, rfl, less'⟩ := compareInts_eq_lt_iff.mp second
          obtain rfl := int.inj same
          exact .inr ⟨rfl, compareInts_eq_lt_iff.mpr ⟨i, k, rfl, rfl, less.trans less'⟩⟩

/-- Three numbers are out of order only if the one in the middle is a float between two integers. -/
theorem areCrossed_of_order {a b c : EReal} (hx : x.number? = some a) (hy : y.number? = some b)
    (hz : z.number? = some c) (first : x.order y ≠ .gt) (second : y.order z ≠ .gt)
    (both : x.order z = .gt) : AreCrossed x y z := by
  obtain ⟨a, ha⟩ := exists_rounded?_of_number? hx
  obtain ⟨b, hb⟩ := exists_rounded?_of_number? hy
  obtain ⟨c, hc⟩ := exists_rounded?_of_number? hz
  rw [Ne, order_eq_gt_iff ha hb, not_or, not_lt] at first
  rw [Ne, order_eq_gt_iff hb hc, not_or, not_lt] at second
  rcases (order_eq_gt_iff ha hc).mp both with less | ⟨rfl, greater⟩
  · exact absurd less (first.1.trans second.1).not_gt
  · -- All three are one number when they are rounded, and the outer ones are
    -- integers that were compared exactly.
    obtain rfl := le_antisymm first.1 second.1
    obtain ⟨i, j, rfl, rfl, less⟩ := compareInts_eq_gt_iff.mp greater
    cases y with
    | int k =>
      have notgt : ¬k.toInt < i.toInt :=
        fun h => first.2 ⟨rfl, compareInts_eq_gt_iff.mpr ⟨i, k, rfl, rfl, h⟩⟩
      have notgt' : ¬j.toInt < k.toInt :=
        fun h => second.2 ⟨rfl, compareInts_eq_gt_iff.mpr ⟨k, j, rfl, rfl, h⟩⟩
      exact absurd less (by omega)
    | float f =>
      exact ⟨i, f, j, rfl, rfl, rfl, hb.trans (ha.symm.trans (rounded?_int i)),
        hb.trans (hc.symm.trans (rounded?_int j)), less⟩
    | _ => cases hy

/-- The weak order is transitive but where a float is between two
integers that are rounded to it. -/
theorem AreOrdered.order_trans_iff (h : AreOrdered x y) (h' : AreOrdered y z) :
    (x.order y ≠ .gt → y.order z ≠ .gt → x.order z ≠ .gt) ↔ ¬AreCrossed x y z := by
  constructor
  · -- A float that both integers are rounded to equals both in the order,
    -- but they are compared exactly.
    rintro trans ⟨i, f, j, rfl, rfl, rfl, first, second, less⟩
    have left : (int i).order (float f) = .eq := (order_int_float_eq_iff first).mpr first
    have right : (float f).order (int j) = .eq := by
      rw [order_swap, Ordering.swap_eq_eq]
      exact (order_int_float_eq_iff second).mpr second
    exact trans (by rw [left]; decide) (by rw [right]; decide) (compare_gt_iff_gt.mpr less)
  · intro notCrossed first second both
    cases h with
    | texts s t =>
      cases h' with
      | numbers left => cases left
      | texts _ u =>
        change compareTexts s t ≠ .gt at first
        change compareTexts t u ≠ .gt at second
        change compareTexts s u = .gt at both
        rw [compareTexts_eq, Ne, compare_gt_iff_gt, not_lt] at first second
        rw [compareTexts_eq, compare_gt_iff_gt] at both
        exact both.not_ge (first.trans second)
    | numbers numberx numbery =>
      cases h' with
      | texts s t => cases numbery
      | numbers _ numberz =>
        exact notCrossed (areCrossed_of_order numberx numbery numberz first second both)

theorem AreOrdered.order_gt_trans (h : AreOrdered x y) (h' : AreOrdered y z)
    (first : x.order y = .gt) (second : y.order z = .gt) : x.order z = .gt := by
  rw [order_swap, Ordering.swap_eq_gt] at first second ⊢
  exact h'.symm.order_lt_trans h.symm second first

/-- The weak order in the other direction. -/
theorem AreOrdered.order_trans_iff' (h : AreOrdered x y) (h' : AreOrdered y z) :
    (x.order y ≠ .lt → y.order z ≠ .lt → x.order z ≠ .lt) ↔ ¬AreCrossed z y x := by
  rw [← h'.symm.order_trans_iff h.symm, order_swap y x, order_swap z y, order_swap z x]
  simp only [ne_eq, Ordering.swap_eq_lt]
  exact ⟨fun trans second first => trans first second, fun trans first second => trans second first⟩

end Value

namespace Record

open Value

variable {record record' : Record} {field field' : String} {x y z : Value}

/-! ### The conditions of a field -/

section

variable (found : record.getPath? field = some x)

include found

theorem meets_eq_iff_same : record.Meets field .eq y ↔ (x == y) = true := by
  rw [meets_eq_iff, found, Option.getD_some]

variable (ordered : x.AreOrdered y)

include ordered

/-- A comparison asks about the order of the values. -/
theorem meets_order_iff {comparison : Comparison} {holds : Ordering → Bool}
    (test : ∀ value, comparison.test (some value) y = (value.compare? y).any holds) :
    record.Meets field comparison y ↔ holds (x.order y) = true := by
  rw [Meets, Condition.holds, found, Option.getD_some, test, ordered.compare?_eq, Option.any_some]

theorem meets_lt_iff : record.Meets field .lt y ↔ x.order y = .lt :=
  (meets_order_iff found ordered fun _ => rfl).trans Ordering.isLT_iff_eq_lt

theorem meets_gt_iff : record.Meets field .gt y ↔ x.order y = .gt :=
  (meets_order_iff found ordered fun _ => rfl).trans Ordering.isGT_iff_eq_gt

theorem meets_lte_iff : record.Meets field .lte y ↔ x.order y ≠ .gt :=
  (meets_order_iff found ordered fun _ => rfl).trans Ordering.isLE_iff_ne_gt

theorem meets_gte_iff : record.Meets field .gte y ↔ x.order y ≠ .lt :=
  (meets_order_iff found ordered fun _ => rfl).trans Ordering.isGE_iff_ne_lt

/-- A field that is blurred is neither less than a value, nor equal to it, nor greater; it is at
most and at least this value. -/
theorem meets_of_areBlurred (blurred : x.AreBlurred y) : ¬record.Meets field .lt y ∧
    ¬record.Meets field .eq y ∧ ¬record.Meets field .gt y ∧ record.Meets field .lte y ∧
      record.Meets field .gte y := by
  have together := ordered.order_eq_iff.mpr (.inr blurred)
  rw [meets_lt_iff found ordered, meets_eq_iff_same found, meets_gt_iff found ordered,
    meets_lte_iff found ordered, meets_gte_iff found ordered, together]
  exact ⟨nofun, blurred.not_same, nofun, nofun, nofun⟩

/-- A field that is not blurred equals a value if the order does not tell them apart. -/
theorem meets_eq_iff_order (sharp : ¬x.AreBlurred y) :
    record.Meets field .eq y ↔ x.order y = .eq := by
  rw [meets_eq_iff_same found, ordered.order_eq_iff, or_iff_left sharp]

theorem existsUnique_meets_iff :
    (∃! comparison, comparison ∈ [Comparison.lt, .eq, .gt] ∧ record.Meets field comparison y) ↔
      ¬x.AreBlurred y := by
  constructor
  · rintro ⟨comparison, ⟨mem, meets⟩, -⟩ blurred
    obtain ⟨notlt, noteq, notgt, -⟩ := meets_of_areBlurred found ordered blurred
    simp only [List.mem_cons, List.not_mem_nil, or_false] at mem
    rcases mem with rfl | rfl | rfl
    · exact notlt meets
    · exact noteq meets
    · exact notgt meets
  · intro sharp
    have lt := meets_lt_iff found ordered
    have eq := meets_eq_iff_order found ordered sharp
    have gt := meets_gt_iff found ordered
    cases order : x.order y with
    | lt => exact ⟨.lt, by simp [lt, order], by simp [eq, gt, order]⟩
    | eq => exact ⟨.eq, by simp [eq, order], by simp [lt, gt, order]⟩
    | gt => exact ⟨.gt, by simp [gt, order], by simp [lt, eq, order]⟩

theorem meets_lte_iff_or :
    (record.Meets field .lte y ↔ record.Meets field .lt y ∨ record.Meets field .eq y) ↔
    ¬x.AreBlurred y := by
  constructor
  · intro split blurred
    obtain ⟨notlt, noteq, -, lte, -⟩ := meets_of_areBlurred found ordered blurred
    exact (split.mp lte).elim notlt noteq
  · intro sharp
    rw [meets_lte_iff found ordered, meets_lt_iff found ordered,
      meets_eq_iff_order found ordered sharp]
    cases x.order y <;> simp

theorem meets_gte_iff_or :
    (record.Meets field .gte y ↔ record.Meets field .gt y ∨ record.Meets field .eq y) ↔
    ¬x.AreBlurred y := by
  constructor
  · intro split blurred
    obtain ⟨-, noteq, notgt, -, gte⟩ := meets_of_areBlurred found ordered blurred
    exact (split.mp gte).elim notgt noteq
  · intro sharp
    rw [meets_gte_iff found ordered, meets_gt_iff found ordered,
      meets_eq_iff_order found ordered sharp]
    cases x.order y <;> simp

end

/-- A field of another record holds what a field compares with. -/
theorem meets_trans (found : record.getPath? field = some x)
    (found' : record'.getPath? field' = some y) (ordered : x.AreOrdered y)
    (ordered' : y.AreOrdered z) :
    (∀ comparison ∈ [Comparison.lt, .eq, .gt], record.Meets field comparison y →
      record'.Meets field' comparison z → record.Meets field comparison z) ∧
    ((record.Meets field .lte y → record'.Meets field' .lte z → record.Meets field .lte z) ↔
      ¬AreCrossed x y z) ∧
      ((record.Meets field .gte y → record'.Meets field' .gte z → record.Meets field .gte z) ↔
        ¬AreCrossed z y x) := by
  have both := ordered.trans ordered'
  refine ⟨fun comparison mem => ?_, ?_, ?_⟩
  · simp only [List.mem_cons, List.not_mem_nil, or_false] at mem
    rcases mem with rfl | rfl | rfl
    · rw [meets_lt_iff found ordered, meets_lt_iff found' ordered', meets_lt_iff found both]
      exact ordered.order_lt_trans ordered'
    · rw [meets_eq_iff_same found, meets_eq_iff_same found', meets_eq_iff_same found]
      exact same_trans
    · rw [meets_gt_iff found ordered, meets_gt_iff found' ordered', meets_gt_iff found both]
      exact ordered.order_gt_trans ordered'
  · rw [meets_lte_iff found ordered, meets_lte_iff found' ordered', meets_lte_iff found both]
    exact ordered.order_trans_iff ordered'
  · rw [meets_gte_iff found ordered, meets_gte_iff found' ordered', meets_gte_iff found both]
    exact ordered.order_trans_iff' ordered'

/-- **Comparisons fit together, but for blurred numbers.** A field that holds a number or a text is
exactly one of less, equal and greater than another such value, and it is at most (at least) that
value exactly if it is less (greater) or equal: all this exactly if the two are not blurred. If they
are, then the field is none of less, equal and greater, and both at most and at least the value.
"Less", "equal" and "greater" are transitive. "At most" and "at least" are, too, but for a float
between two integers, the wrong way round, that are rounded to it. -/
theorem meets_comparisons (found : record.getPath? field = some x) (ordered : x.AreOrdered y) :
    ((∃! comparison, comparison ∈ [Comparison.lt, .eq, .gt] ∧ record.Meets field comparison y) ↔
      ¬x.AreBlurred y) ∧
    ((record.Meets field .gte y ↔ record.Meets field .gt y ∨ record.Meets field .eq y) ↔
      ¬x.AreBlurred y) ∧
      ((record.Meets field .lte y ↔ record.Meets field .lt y ∨ record.Meets field .eq y) ↔
        ¬x.AreBlurred y) ∧
    (x.AreBlurred y → ¬record.Meets field .lt y ∧ ¬record.Meets field .eq y ∧
      ¬record.Meets field .gt y ∧ record.Meets field .lte y ∧ record.Meets field .gte y) ∧
    ∀ (record' : Record) (field' : String) (z : Value), record'.getPath? field' = some y →
      y.AreOrdered z → (∀ comparison ∈ [Comparison.lt, .eq, .gt], record.Meets field comparison y →
        record'.Meets field' comparison z → record.Meets field comparison z) ∧
      ((record.Meets field .lte y → record'.Meets field' .lte z → record.Meets field .lte z) ↔
        ¬AreCrossed x y z) ∧
        ((record.Meets field .gte y → record'.Meets field' .gte z → record.Meets field .gte z) ↔
          ¬AreCrossed z y x) :=
  ⟨existsUnique_meets_iff found ordered, meets_gte_iff_or found ordered,
    meets_lte_iff_or found ordered, meets_of_areBlurred found ordered, fun _ _ _ found' ordered' =>
      meets_trans found found' ordered ordered'⟩

/-- An order with an amount that no float is. -/
def largeOrder : Record := [("amount", .int 9007199254740993)]

/-- The amount is greater than a float that it is not rounded to. -/
theorem meets_comparisons_largeOrder :
    ∃! comparison, comparison ∈ [Comparison.lt, .eq, .gt] ∧
      largeOrder.Meets "amount" comparison (.float 0.5) := by
  have found : largeOrder.getPath? "amount" = some (.int 9007199254740993) := rfl
  have order : (Value.int 9007199254740993).order (.float 0.5) = .gt := by decide +kernel
  obtain ⟨a, number⟩ := exists_number? (f := 0.5) (by decide +kernel)
  have ordered : (Value.int 9007199254740993).AreOrdered (.float 0.5) := .numbers rfl number
  refine (meets_comparisons found ordered).1.mpr fun blurred => ?_
  have together := ordered.order_eq_iff.mpr (.inr blurred)
  rw [order] at together
  cases together

/-- The amount is at least and at most the float that it is rounded to, but neither equal
to it, nor less, nor greater. -/
theorem meets_no_comparison :
    largeOrder.Meets "amount" .gte (.float 9007199254740992.0) ∧
      largeOrder.Meets "amount" .lte (.float 9007199254740992.0) ∧
      ¬largeOrder.Meets "amount" .gt (.float 9007199254740992.0) ∧
      ¬largeOrder.Meets "amount" .eq (.float 9007199254740992.0) ∧
      ¬largeOrder.Meets "amount" .lt (.float 9007199254740992.0) := by
  decide +kernel

end Record

end RecordFlow
