import RecordFlow.Proofs.Number.Rounding
import RecordFlow.Proofs.Value.Equality
import RecordFlow.Value.Order

/-!
# The order of sorting

Sorting compares values by kind, numbers as numbers, and lists item by item. Two integers are
compared exactly, but an integer and a float as floats, so that two different integers may both be
equal to one float. Where that does not happen, the order is a total preorder.

## Main definitions

* `IsCoherent` — how two elements compare with a third one fits how they compare with each other
* `Value.IsPartOf` — a value is an item of a list, or of a list in it, and so on
* `Value.IsTotallyPreordered`, `Value.IntegersStayApart` — two properties of a set of values

## Main results

* `Value.order_swap` — the order read from the other side
* `Value.order_isTotallyPreordered` — when the order is a total preorder
-/

namespace RecordFlow

/-! ### Three comparisons -/

/-- Three comparisons, of a first element with a second one, of the second one with a third one and
of the first one with the third one, are possible in a preorder. -/
structure IsCoherent (first second both : Ordering) : Prop where
  eq_left : first = .eq → both = second
  eq_right : second = .eq → both = first
  same : first = second → both = first

namespace IsCoherent

theorem refl (o : Ordering) : IsCoherent .eq o o := ⟨fun _ => rfl, fun h => h, fun h => h.symm⟩

/-- Comparisons of a linear order are coherent. -/
theorem of_linearOrder {α : Type*} [LinearOrder α] (a b c : α) :
    IsCoherent (compare a b) (compare b c) (compare a c) where
  eq_left h := by rw [compare_eq_iff_eq.mp h]
  eq_right h := by rw [compare_eq_iff_eq.mp h]
  same h := by
    cases first : compare a b with
    | lt =>
      have second := compare_lt_iff_lt.mp (h.symm.trans first)
      exact compare_lt_iff_lt.mpr ((compare_lt_iff_lt.mp first).trans second)
    | eq => rw [compare_eq_iff_eq.mp first, ← h, first]
    | gt =>
      have second := compare_gt_iff_gt.mp (h.symm.trans first)
      exact compare_gt_iff_gt.mpr (second.trans (compare_gt_iff_gt.mp first))

/-- Comparisons are coherent if they are in a first respect, and in a second one where
the first one does not decide. -/
theorem lex (h : IsCoherent first second both)
    (h' : first = .eq → second = .eq → IsCoherent first' second' both') :
    IsCoherent (first.then first') (second.then second') (both.then both') := by
  cases first with
  | eq =>
    obtain rfl := h.eq_left rfl
    cases both with
    | eq => exact h' rfl rfl
    | lt => exact ⟨fun _ => rfl, nofun, fun h => h.symm⟩
    | gt => exact ⟨fun _ => rfl, nofun, fun h => h.symm⟩
  | lt =>
    cases second with
    | eq => obtain rfl := h.eq_right rfl; exact ⟨nofun, fun _ => rfl, fun _ => rfl⟩
    | lt => obtain rfl := h.same rfl; exact ⟨nofun, nofun, fun _ => rfl⟩
    | gt => exact ⟨nofun, nofun, nofun⟩
  | gt =>
    cases second with
    | eq => obtain rfl := h.eq_right rfl; exact ⟨nofun, fun _ => rfl, fun _ => rfl⟩
    | gt => obtain rfl := h.same rfl; exact ⟨nofun, nofun, fun _ => rfl⟩
    | lt => exact ⟨nofun, nofun, nofun⟩

/-- What does not come after the second element, which does not come after the third
one, does not come after it. -/
theorem isLE_trans (h : IsCoherent first second both) (le : first.isLE = true)
    (le' : second.isLE = true) : both.isLE = true := by
  cases first with
  | eq => rwa [h.eq_left rfl]
  | gt => cases le
  | lt =>
    cases second with
    | eq => rwa [h.eq_right rfl]
    | gt => cases le'
    | lt => rwa [h.same rfl]

/-- Comparisons in the other direction are coherent, too. -/
theorem swap (h : IsCoherent first second both) : IsCoherent first.swap second.swap both.swap where
  eq_left eq := by rw [h.eq_left (Ordering.swap_eq_eq.mp eq)]
  eq_right eq := by rw [h.eq_right (Ordering.swap_eq_eq.mp eq)]
  same eq := by rw [h.same (Ordering.swap_inj.mp eq)]

end IsCoherent

namespace Value

variable {a b c : Value}

/-! ### Comparisons within a kind -/

theorem compareTexts_eq (s t : String) : compareTexts s t = compare s t := by
  rw [compareTexts]
  split
  next less => exact (compare_lt_iff_lt.mpr less).symm
  next notless =>
    split
    next same => exact (compare_eq_iff_eq.mpr same).symm
    next different => exact (compare_gt_iff_gt.mpr
      (lt_of_le_of_ne (not_lt.mp notless) (Ne.symm different))).symm

theorem compareBools_eq (b c : Bool) : compareBools b c = compare b c := by
  cases b <;> cases c <;> rfl

/-- Floats are compared as the numbers that they are. -/
theorem compareFloats?_eq (f g : Float) : compareFloats? f g =
    (RecordFlow.number? f).bind fun x => (RecordFlow.number? g).map (compare x) := by
  classical
  simp only [compareFloats?, float_lt_iff, float_beq_iff]
  cases RecordFlow.number? f with
  | none => simp
  | some x =>
    cases RecordFlow.number? g with
    | none => simp
    | some y =>
      rcases lt_trichotomy x y with lt | rfl | gt
      · simp [lt, compare_lt_iff_lt.mpr lt]
      · simp
      · simp [gt, gt.ne, gt.not_gt, compare_gt_iff_gt.mpr gt]

/-- Where a monotone function does not tell two elements apart, their own order decides. -/
theorem compare_then_of_monotone {α β : Type*} [LinearOrder α] [LinearOrder β]
    {f : α → β} (mono : Monotone f) (x y : α) :
    (compare (f x) (f y)).then (compare x y) = compare x y := by
  rcases lt_trichotomy x y with less | rfl | greater
  · rw [compare_lt_iff_lt.mpr less]
    rcases (mono less.le).lt_or_eq with apart | together
    · rw [compare_lt_iff_lt.mpr apart, Ordering.lt_then]
    · rw [compare_eq_iff_eq.mpr together, Ordering.eq_then]
  · rw [compare_eq_iff_eq.mpr rfl, Ordering.eq_then]
  · rw [compare_gt_iff_gt.mpr greater]
    rcases (mono greater.le).lt_or_eq with apart | together
    · rw [compare_gt_iff_gt.mpr apart, Ordering.gt_then]
    · rw [compare_eq_iff_eq.mpr together.symm, Ordering.eq_then]

/-- The number that a number is as a float. -/
noncomputable def rounded? (value : Value) : Option EReal := value.asFloat?.bind RecordFlow.number?

theorem rounded?_int (i : Int64) : (int i).rounded? = some ((nearestInt i.toInt : ℝ) : EReal) := by
  refine number?_floatOfInt ?_
  have := Int64.le_toInt i
  have := Int64.toInt_lt i
  omega

/-- How integers compare; other values are not compared. -/
def compareInts : Value → Value → Ordering
  | .int i, .int j => compare i.toInt j.toInt
  | _, _ => .eq

/-- Numbers are compared as floats, and integers that are one float as integers. -/
theorem order_of_rounded? {x y : EReal} (ha : a.rounded? = some x) (hb : b.rounded? = some y) :
    a.order b = (compare x y).then (a.compareInts b) := by
  have floats (f g : Float) (hf : RecordFlow.number? f = some x)
      (hg : RecordFlow.number? g = some y) :
      (compareFloats? f g).getD .eq = (compare x y).then .eq := by
    rw [compareFloats?_eq, hf, hg, Ordering.then_eq]
    rfl
  cases a with
  | int i =>
    cases b with
    | int j =>
      rw [rounded?_int, Option.some_inj] at ha hb
      change compare i.toInt j.toInt = (compare x y).then (compare i.toInt j.toInt)
      rw [← ha, ← hb]
      have mono : Monotone fun i : ℤ => ((nearestInt i : ℝ) : EReal) := fun i j le =>
        EReal.coe_le_coe_iff.mpr (Int.cast_le.mpr (nearestInt_mono le))
      exact (compare_then_of_monotone mono i.toInt j.toInt).symm
    | float g => exact floats _ _ ha hb
    | _ => cases hb
  | float f =>
    cases b with
    | int j => exact floats _ _ ha hb
    | float g => exact floats _ _ ha hb
    | _ => cases hb
  | _ => cases ha

theorem order_of_rank_ne (ne : a.rank ≠ b.rank) : a.order b = compare a.rank b.rank := by
  cases a <;> cases b <;> first | exact absurd rfl ne | rfl

/-- Two values are compared by their kinds first. -/
theorem order_eq_then (a b : Value) : a.order b = (compare a.rank b.rank).then (a.order b) := by
  by_cases same : a.rank = b.rank
  · rw [compare_eq_iff_eq.mpr same, Ordering.eq_then]
  · rw [order_of_rank_ne same]
    cases compare a.rank b.rank <;> rfl

/-! ### The order read from the other side -/

theorem compareFloats?_swap (f g : Float) :
    (compareFloats? g f).getD .eq = ((compareFloats? f g).getD .eq).swap := by
  rw [compareFloats?_eq, compareFloats?_eq]
  cases RecordFlow.number? f <;> cases RecordFlow.number? g <;> try rfl
  exact Std.OrientedOrd.eq_swap

theorem orderItems_swap {xs ys : List Value} (each : ∀ x ∈ xs, ∀ y, y.order x = (x.order y).swap) :
    orderItems ys xs = (orderItems xs ys).swap := by
  induction xs generalizing ys with
  | nil => cases ys <;> rfl
  | cons x xs ih =>
    obtain ⟨first, rest⟩ := List.forall_mem_cons.mp each
    cases ys with
    | nil => rfl
    | cons y ys => rw [orderItems, orderItems, Ordering.swap_then, first, ih rest]

/-- The order of two values is turned around with the values. -/
theorem order_swap (a b : Value) : b.order a = (a.order b).swap := by
  induction a using inductionOnParts generalizing b with
  | null => cases b <;> rfl
  | bool c =>
    cases b with
    | bool d => cases c <;> cases d <;> rfl
    | _ => rfl
  | int i =>
    cases b with
    | int j => exact Std.OrientedOrd.eq_swap
    | float g => exact compareFloats?_swap ..
    | _ => rfl
  | float f =>
    cases b with
    | int j => exact compareFloats?_swap ..
    | float g => exact compareFloats?_swap ..
    | _ => rfl
  | text s =>
    cases b with
    | text t =>
      change compareTexts t s = (compareTexts s t).swap
      rw [compareTexts_eq, compareTexts_eq]
      exact Std.OrientedOrd.eq_swap
    | _ => rfl
  | list xs ih =>
    cases b with
    | list ys => exact orderItems_swap ih
    | _ => rfl
  | object _ _ => cases b <;> rfl

/-! ### Sets of values -/

/-- A value is another one, or an item of a list in it. -/
inductive IsPartOf (part : Value) : Value → Prop where
  | self : IsPartOf part part
  | item {items : List Value} {item : Value} (mem : item ∈ items) (isPart : IsPartOf part item) :
      IsPartOf part (.list items)

/-- The values that are compared when those of a set are. -/
def parts (values : Set Value) : Set Value := {part | ∃ value ∈ values, part.IsPartOf value}

/-- No two different integers equal one float when they are rounded. -/
def IntegersStayApart (values : Set Value) : Prop := ∀ (i j : Int64) (f : Float),
  int i ∈ parts values → int j ∈ parts values → float f ∈ parts values →
  (floatOfInt i.toInt == f) = true → (floatOfInt j.toInt == f) = true → i = j

/-- The order is a total preorder on a set of values. -/
structure IsTotallyPreordered (values : Set Value) : Prop where
  swap : ∀ a ∈ values, ∀ b ∈ values, b.order a = (a.order b).swap
  trans : ∀ a ∈ values, ∀ b ∈ values, ∀ c ∈ values, a.order b ≠ .gt →
    b.order c ≠ .gt → a.order c ≠ .gt
  congr : ∀ a ∈ values, ∀ b ∈ values, ∀ c ∈ values, a.order b = .eq →
    c.order a = c.order b ∧ a.order c = b.order c

section

variable {values : Set Value}

theorem IsPartOf.item_of_list {items : List Value} {item value : Value}
    (isPart : (list items).IsPartOf value) (mem : item ∈ items) : item.IsPartOf value := by
  induction isPart with
  | self => exact .item mem .self
  | item outer _ ih => exact .item outer ih

theorem IsPartOf.isNaNFree {part value : Value} (isPart : part.IsPartOf value)
    (free : value.IsNaNFree) : part.IsNaNFree := by
  induction isPart with
  | self => exact free
  | item mem _ ih =>
    cases free with
    | list each => exact ih (each _ mem)

theorem subset_parts (values : Set Value) : values ⊆ parts values :=
  fun value h => ⟨value, h, .self⟩

theorem item_mem_parts {items : List Value} (h : list items ∈ parts values) :
    ∀ item ∈ items, item ∈ parts values := by
  obtain ⟨value, hvalue, isPart⟩ := h
  exact fun item mem => ⟨value, hvalue, isPart.item_of_list mem⟩

/-- A number that is not NaN is a number as a float. -/
theorem exists_rounded? (number : a.isNumber = true) (free : a.IsNaNFree) :
    ∃ x, a.rounded? = some x := by
  cases free with
  | int i => exact ⟨_, rounded?_int i⟩
  | float notNaN => exact exists_number? notNaN
  | _ => cases number

/-- Integers that are one float, which is there too, are the same. -/
theorem IntegersStayApart.compareInts_eq (apart : IntegersStayApart values) {f : Float} {x : EReal}
    (hf : float f ∈ parts values) (number : RecordFlow.number? f = some x) (ha : a ∈ parts values)
    (hb : b ∈ parts values) (roundeda : a.rounded? = some x) (roundedb : b.rounded? = some x) :
    a.compareInts b = .eq := by
  cases a with
  | int i =>
    cases b with
    | int j =>
      have same := apart i j f ha hb hf (float_beq_iff.mpr ⟨x, roundeda, number⟩)
        (float_beq_iff.mpr ⟨x, roundedb, number⟩)
      exact compare_eq_iff_eq.mpr (congrArg Int64.toInt same)
    | _ => rfl
  | _ => rfl

/-- Three numbers are compared coherently. -/
theorem order_coherent_of_isNumber (free : ∀ value ∈ parts values, value.IsNaNFree)
    (apart : IntegersStayApart values) (ha : a ∈ parts values) (hb : b ∈ parts values)
    (hc : c ∈ parts values) (numbera : a.isNumber = true) (numberb : b.isNumber = true)
    (numberc : c.isNumber = true) : IsCoherent (a.order b) (b.order c) (a.order c) := by
  obtain ⟨x, hx⟩ := exists_rounded? numbera (free a ha)
  obtain ⟨y, hy⟩ := exists_rounded? numberb (free b hb)
  obtain ⟨z, hz⟩ := exists_rounded? numberc (free c hc)
  rw [order_of_rounded? hx hy, order_of_rounded? hy hz, order_of_rounded? hx hz]
  refine (IsCoherent.of_linearOrder x y z).lex fun xy yz => ?_
  obtain rfl := compare_eq_iff_eq.mp xy
  obtain rfl := compare_eq_iff_eq.mp yz
  -- A float among the three stands for all integers among them; without one the
  -- integers are compared exactly.
  have of_float {f : Float} (hf : float f ∈ parts values) (number : RecordFlow.number? f = some x) :
      IsCoherent (a.compareInts b) (b.compareInts c) (a.compareInts c) := by
    rw [apart.compareInts_eq hf number ha hb hx hy, apart.compareInts_eq hf number hb hc hy hz,
      apart.compareInts_eq hf number ha hc hx hz]
    exact .refl .eq
  cases a with
  | int i =>
    cases b with
    | int j =>
      cases c with
      | int k => exact .of_linearOrder i.toInt j.toInt k.toInt
      | float f => exact of_float hc hz
      | _ => cases numberc
    | float f => exact of_float hb hy
    | _ => cases numberb
  | float f => exact of_float ha hx
  | _ => cases numbera

/-- Lists are compared coherently if their items are. -/
theorem orderItems_coherent {xs ys zs : List Value}
    (each : ∀ x ∈ xs, ∀ y ∈ ys, ∀ z ∈ zs, IsCoherent (x.order y) (y.order z) (x.order z)) :
    IsCoherent (orderItems xs ys) (orderItems ys zs) (orderItems xs zs) := by
  induction xs generalizing ys zs with
  | nil =>
    cases ys with
    | nil => exact .refl _
    | cons y ys =>
      cases zs with
      | nil => exact ⟨nofun, nofun, nofun⟩
      | cons z zs => exact ⟨nofun, fun _ => rfl, fun _ => rfl⟩
  | cons x xs ih =>
    cases ys with
    | nil =>
      cases zs with
      | nil => exact ⟨nofun, fun _ => rfl, fun _ => rfl⟩
      | cons z zs => exact ⟨nofun, nofun, nofun⟩
    | cons y ys =>
      cases zs with
      | nil => exact ⟨fun _ => rfl, nofun, fun h => h.symm⟩
      | cons z zs =>
        rw [orderItems, orderItems, orderItems]
        exact (each x (by simp) y (by simp) z (by simp)).lex fun _ _ =>
          ih fun x hx y hy z hz => each x (by simp [hx]) y (by simp [hy]) z (by simp [hz])

theorem isNumber_of_rank (h : a.rank = 2) : a.isNumber = true := by
  cases a <;> first | rfl | cases h

theorem order_eq_of_rank (same : a.rank = b.rank) (unordered : a.rank = 0 ∨ a.rank = 5) :
    a.order b = .eq := by
  cases a <;> cases b <;> simp_all [rank, order, compare?, asFloat?]

/-- Values are compared coherently if they are whenever they are of one kind. -/
theorem coherent_of_rank_eq
    (h : a.rank = b.rank → b.rank = c.rank → IsCoherent (a.order b) (b.order c) (a.order c)) :
    IsCoherent (a.order b) (b.order c) (a.order c) := by
  have coherent := (IsCoherent.of_linearOrder a.rank b.rank c.rank).lex fun ab bc =>
    h (compare_eq_iff_eq.mp ab) (compare_eq_iff_eq.mp bc)
  rwa [← order_eq_then, ← order_eq_then, ← order_eq_then] at coherent

/-- Three values are compared coherently. -/
theorem order_coherent (free : ∀ value ∈ parts values, value.IsNaNFree)
    (apart : IntegersStayApart values) (ha : a ∈ parts values) (hb : b ∈ parts values)
    (hc : c ∈ parts values) : IsCoherent (a.order b) (b.order c) (a.order c) := by
  induction a using inductionOnParts generalizing b c with
  | null =>
    refine coherent_of_rank_eq fun ab bc => ?_
    rw [order_eq_of_rank ab (.inl rfl), order_eq_of_rank bc (.inl ab.symm),
      order_eq_of_rank (ab.trans bc) (.inl rfl)]
    exact .refl .eq
  | object _ _ =>
    refine coherent_of_rank_eq fun ab bc => ?_
    rw [order_eq_of_rank ab (.inr rfl), order_eq_of_rank bc (.inr ab.symm),
      order_eq_of_rank (ab.trans bc) (.inr rfl)]
    exact .refl .eq
  | bool p =>
    refine coherent_of_rank_eq fun ab bc => ?_
    cases b with
    | bool q =>
      cases c with
      | bool r =>
        change IsCoherent (compareBools p q) (compareBools q r) (compareBools p r)
        rw [compareBools_eq, compareBools_eq, compareBools_eq]
        exact .of_linearOrder p q r
      | _ => cases bc
    | _ => cases ab
  | text s =>
    refine coherent_of_rank_eq fun ab bc => ?_
    cases b with
    | text t =>
      cases c with
      | text u =>
        change IsCoherent (compareTexts s t) (compareTexts t u) (compareTexts s u)
        rw [compareTexts_eq, compareTexts_eq, compareTexts_eq]
        exact .of_linearOrder s t u
      | _ => cases bc
    | _ => cases ab
  | int i =>
    exact coherent_of_rank_eq fun ab bc => order_coherent_of_isNumber free apart ha hb hc rfl
      (isNumber_of_rank ab.symm) (isNumber_of_rank (ab.trans bc).symm)
  | float f =>
    exact coherent_of_rank_eq fun ab bc => order_coherent_of_isNumber free apart ha hb hc rfl
      (isNumber_of_rank ab.symm) (isNumber_of_rank (ab.trans bc).symm)
  | list xs ih =>
    refine coherent_of_rank_eq fun ab bc => ?_
    cases b with
    | list ys =>
      cases c with
      | list zs =>
        exact orderItems_coherent fun x hx y hy z hz =>
          ih x hx (item_mem_parts ha x hx) (item_mem_parts hb y hy) (item_mem_parts hc z hz)
      | _ => cases bc
    | _ => cases ab

/-- The order is a total preorder where integers stay apart. -/
theorem isTotallyPreordered_of_apart (free : ∀ value ∈ values, value.IsNaNFree)
    (apart : IntegersStayApart values) : IsTotallyPreordered values := by
  have free : ∀ part ∈ parts values, part.IsNaNFree := fun part ⟨value, hvalue, isPart⟩ =>
    isPart.isNaNFree (free value hvalue)
  have coherent (a) (ha : a ∈ values) (b) (hb : b ∈ values) (c) (hc : c ∈ values) :
      IsCoherent (a.order b) (b.order c) (a.order c) :=
    order_coherent free apart (subset_parts values ha)
      (subset_parts values hb) (subset_parts values hc)
  refine ⟨fun a _ b _ => order_swap a b, fun a ha b hb c hc ab bc => ?_,
    fun a ha b hb c hc ab => ?_⟩
  · exact Ordering.isLE_iff_ne_gt.mp ((coherent a ha b hb c hc).isLE_trans
      (Ordering.isLE_iff_ne_gt.mpr ab) (Ordering.isLE_iff_ne_gt.mpr bc))
  · have same := (coherent a ha b hb c hc).eq_left ab
    exact ⟨by rw [order_swap a c, order_swap b c, same], same⟩

/-- Integers stay apart if the order is a total preorder on numbers. -/
theorem IsTotallyPreordered.integersStayApart (ordered : IsTotallyPreordered values)
    (numbers : ∀ value ∈ values, value.isNumber = true) : IntegersStayApart values := by
  have mem {value : Value} (h : value ∈ parts values) : value ∈ values := by
    obtain ⟨whole, hwhole, isPart⟩ := h
    cases isPart with
    | self => exact hwhole
    | item _ _ => exact absurd (numbers _ hwhole) (by simp [isNumber])
  intro i j f hi hj hf samei samej
  obtain ⟨x, hx, numberx⟩ := float_beq_iff.mp samei
  obtain ⟨y, hy, numbery⟩ := float_beq_iff.mp samej
  obtain rfl := Option.some.inj (numberx.symm.trans numbery)
  have left : (int i).order (float f) = .eq := by
    rw [order_of_rounded? (a := int i) (b := float f) hx numberx, compare_eq_iff_eq.mpr rfl]
    rfl
  have right : (float f).order (int j) = .eq := by
    rw [order_of_rounded? (a := float f) (b := int j) numberx hy, compare_eq_iff_eq.mpr rfl]
    rfl
  have same := (ordered.congr _ (mem hi) _ (mem hf) _ (mem hj) left).2.trans right
  exact Int64.toInt_inj.mp (compare_eq_iff_eq.mp same)

/-- Integers that floats hold exactly stay apart. -/
theorem integersStayApart_of_natAbs_le
    (small : ∀ i, int i ∈ parts values → i.toInt.natAbs ≤ 2 ^ 53) : IntegersStayApart values := by
  intro i j f hi hj hf samei samej
  obtain ⟨x, hx, numberx⟩ := float_beq_iff.mp samei
  obtain ⟨y, hy, numbery⟩ := float_beq_iff.mp samej
  obtain rfl := Option.some.inj (numberx.symm.trans numbery)
  have roundedi := (rounded?_int i).symm.trans hx
  have roundedj := (rounded?_int j).symm.trans hy
  rw [nearestInt_of_natAbs_le (small _ ‹_›)] at roundedi roundedj
  have same := Option.some.inj (roundedi.trans roundedj.symm)
  exact Int64.toInt_inj.mp (by exact_mod_cast same)

end

/-- The order of sorting is turned around with the values, and it is a total preorder on a set of
values without NaN in which no two different integers equal one float. On numbers there is no other
such set. Integers that floats hold exactly never do so. -/
theorem order_isTotallyPreordered (values : Set Value) (free : ∀ value ∈ values, value.IsNaNFree) :
    (∀ a b : Value, b.order a = (a.order b).swap) ∧
    (IntegersStayApart values → IsTotallyPreordered values) ∧
    ((∀ value ∈ values, value.isNumber = true) →
      (IsTotallyPreordered values ↔ IntegersStayApart values)) ∧
    ((∀ i, int i ∈ parts values → i.toInt.natAbs ≤ 2 ^ 53) → IsTotallyPreordered values) := by
  refine ⟨order_swap, isTotallyPreordered_of_apart free, fun numbers => ?_, fun small => ?_⟩
  · exact ⟨fun ordered => ordered.integersStayApart numbers, isTotallyPreordered_of_apart free⟩
  · exact isTotallyPreordered_of_apart free (integersStayApart_of_natAbs_le small)

/-- Values of several kinds. -/
def someValues : Set Value := {null, int 2, float 2.5, text "b", list [int 3]}

theorem order_isTotallyPreordered_someValues : IsTotallyPreordered someValues := by
  have free : ∀ value ∈ someValues, value.IsNaNFree := by
    rintro value (rfl | rfl | rfl | rfl | rfl) <;> decide
  have small (i : Int64) (h : int i ∈ parts someValues) : i.toInt.natAbs ≤ 2 ^ 53 := by
    obtain ⟨value, rfl | rfl | rfl | rfl | rfl, isPart⟩ := h
    · cases isPart
    · cases isPart
      decide
    · cases isPart
    · cases isPart
    · cases isPart with
      | item mem isPart =>
        obtain rfl := List.mem_singleton.mp mem
        cases isPart
        decide
  exact (order_isTotallyPreordered someValues free).2.2.2 small

/-- Two integers that are one float are equal to it, and yet they differ. -/
theorem order_not_isTotallyPreordered :
    (int 9007199254740993).order (float 9007199254740992.0) = .eq ∧
    (float 9007199254740992.0).order (int 9007199254740992) = .eq ∧
    (int 9007199254740993).order (int 9007199254740992) = .gt ∧
    ¬IsTotallyPreordered {value | value.IsNaNFree} := by
  have left : (int 9007199254740993).order (float 9007199254740992.0) = .eq := by decide +kernel
  have right : (float 9007199254740992.0).order (int 9007199254740992) = .eq := by decide +kernel
  have both : (int 9007199254740993).order (int 9007199254740992) = .gt := by decide +kernel
  refine ⟨left, right, both, fun ordered => ?_⟩
  have number : (float 9007199254740992.0).IsNaNFree := by decide
  exact ordered.trans _ (.int _) _ number _ (.int _) (by rw [left]; decide)
    (by rw [right]; decide) both

end Value

end RecordFlow
