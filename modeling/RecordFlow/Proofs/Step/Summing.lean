import RecordFlow.Proofs.Expression.Arithmetic
import RecordFlow.Proofs.Step.Aggregating

/-!
# Sums of integers

The integers of a field are added as 64-bit integers, one after the other, as long as each total is
one. From the first total on that is none, floats are added, whatever comes behind. So it depends on
the order of the records whether their sum is exact, unless neither the positive nor the negative
integers among them can leave the range.

## Main definitions

* `integersAt` — the integers of a field
* `TotalsAreInt64` — each total on the way through a list of integers is one of 64 bits

## Main results

* `Value.sumFrom_append` — the sum goes on from an exact total
* `sum_le_of_sublist` — some of the integers add up to something between the sums of the
  negative and of the positive ones
* `AggregateFunction.sum_fold_integers` — when the sum of a field is exact,
  in one order and in all orders
-/

namespace RecordFlow

/-! ### Totals on the way -/

/-- The total of each beginning of a list is a 64-bit integer. -/
def TotalsAreInt64 (integers : List ℤ) : Prop := ∀ front, front <+: integers → IsInt64 front.sum

theorem totalsAreInt64_concat {integers : List ℤ} {i : ℤ} :
    TotalsAreInt64 (integers ++ [i]) ↔ TotalsAreInt64 integers ∧ IsInt64 (integers.sum + i) := by
  have last : integers.sum + i = (integers ++ [i]).sum := by
    rw [List.sum_append, List.sum_singleton]
  rw [last]
  refine ⟨fun totals => ⟨fun front h => totals front (h.trans (List.prefix_append ..)),
    totals _ List.prefix_rfl⟩, ?_⟩
  rintro ⟨totals, last⟩ front h
  rcases List.prefix_concat_iff.mp h with rfl | h
  · exact last
  · exact totals front h

/-- If not all totals are 64-bit integers, there is a first one that is none. -/
theorem exists_overflow {integers : List ℤ} (h : ¬TotalsAreInt64 integers) : ∃ front i rest,
    integers = front ++ i :: rest ∧ TotalsAreInt64 front ∧ ¬IsInt64 (front.sum + i) := by
  induction integers using List.reverseRecOn with
  | nil => exact absurd (fun front none => by
    rw [List.prefix_nil.mp none]; exact ⟨by decide, by decide⟩) h
  | append_singleton integers i ih =>
    by_cases before : TotalsAreInt64 integers
    · exact ⟨integers, i, [], rfl, before, fun last => h (totalsAreInt64_concat.mpr ⟨before, last⟩)⟩
    · obtain ⟨front, j, rest, rfl, totals, overflow⟩ := ih before
      exact ⟨front, j, rest ++ [i], by simp, totals, overflow⟩

/-- Some of the integers of a list add up to something between the sums of its
negative and of its positive ones. -/
theorem sum_le_of_sublist {part integers : List ℤ} (h : part.Sublist integers) :
    (integers.filter (· < 0)).sum ≤ part.sum ∧ part.sum ≤ (integers.filter (0 < ·)).sum := by
  induction h with
  | slnil => exact ⟨le_rfl, le_rfl⟩
  | cons i _ ih =>
    by_cases negative : i < 0 <;> by_cases positive : 0 < i <;> simp [negative, positive] <;> omega
  | cons_cons i _ ih =>
    by_cases negative : i < 0 <;> by_cases positive : 0 < i <;> simp [negative, positive] <;> omega

/-! ### Sums of values -/

namespace Value

/-- The sum goes on from the total of the integers in front, if it has been exact so far. -/
theorem sumFrom_append {front : List Int64} (total : Int64)
    (totals : ∀ part, part <+: front.map Int64.toInt → IsInt64 (total.toInt + part.sum)) :
    ∃ next : Int64, next.toInt = total.toInt + (front.map Int64.toInt).sum ∧
      ∀ rest, sumFrom total (front.map int ++ rest) = sumFrom next rest := by
  induction front generalizing total with
  | nil => exact ⟨total, by simp, fun rest => rfl⟩
  | cons i front ih =>
    -- The totals behind `i` are those that start with it.
    have first := totals [i.toInt] (List.cons_prefix_cons.mpr ⟨rfl, List.nil_prefix⟩)
    rw [List.sum_singleton] at first
    obtain ⟨sum, added, exact⟩ := int64?_of_isInt64 first
    obtain ⟨next, hnext, goes⟩ := ih sum fun part h => by
      have := totals (i.toInt :: part) (List.cons_prefix_cons.mpr ⟨rfl, h⟩)
      rwa [List.sum_cons, ← add_assoc, ← exact] at this
    refine ⟨next, by rw [hnext, exact, List.map_cons, List.sum_cons, add_assoc], fun rest => ?_⟩
    rw [List.map_cons, List.cons_append, sumFrom, added]
    exact goes rest

/-- The sum of 64-bit integers is exact if all totals are 64-bit integers. -/
theorem sumFrom_of_totalsAreInt64 {integers : List Int64}
    (totals : TotalsAreInt64 (integers.map Int64.toInt)) :
    ∃ total : Int64, sumFrom 0 (integers.map int) = .int total ∧
      total.toInt = (integers.map Int64.toInt).sum := by
  obtain ⟨total, htotal, goes⟩ := sumFrom_append 0 fun part h => by simpa using totals part h
  refine ⟨total, ?_, by simpa using htotal⟩
  rw [← List.append_nil (integers.map int), goes, sumFrom]

/-- The sum is one of floats from the first total on that is no 64-bit integer. -/
theorem sumFrom_of_overflow {front rest : List Int64} {i : Int64}
    (totals : TotalsAreInt64 (front.map Int64.toInt))
    (overflow : ¬IsInt64 ((front.map Int64.toInt).sum + i.toInt)) :
    sumFrom 0 ((front ++ i :: rest).map int) =
      .float (addFloats (floatOfInt (front.map Int64.toInt).sum)
        (((i :: rest).map Int64.toInt).map floatOfInt)) := by
  obtain ⟨total, htotal, goes⟩ := sumFrom_append 0 fun part h => by simpa using totals part h
  have htotal : total.toInt = (front.map Int64.toInt).sum := by simpa using htotal
  rw [List.map_append, goes, List.map_cons, sumFrom, htotal, int64?_of_not_isInt64 overflow]
  simp [List.filterMap_map, Function.comp_def, asFloat?]

end Value

/-! ### The integers of a field -/

/-- The integer that a record has at a path. -/
def intAt? (field : String) (record : Record) : Option Int64 :=
  match record.getPath? field with
  | some (.int i) => some i
  | _ => none

/-- The integers of a field. -/
def integersAt (field : String) (records : List Record) : List ℤ :=
  (records.filterMap (intAt? field)).map Int64.toInt

theorem numbers_eq_ints {field : String} {records : List Record}
    (integral : ∀ record ∈ records, ∀ f, record.getPath? field ≠ some (.float f)) :
    Value.numbers (records.map (·.getPath? field)) =
      (records.filterMap (intAt? field)).map .int := by
  induction records with
  | nil => rfl
  | cons record records ih =>
    obtain ⟨first, rest⟩ := List.forall_mem_cons.mp integral
    rw [List.map_cons, List.filterMap_cons, intAt?]
    cases found : record.getPath? field with
    | none => exact ih rest
    | some value =>
      rw [Value.numbers_some, ih rest]
      cases value with
      | float f => exact absurd found (first f)
      | _ => rfl

/-- The integers of the records whose integer passes a check are those that pass it. -/
theorem integersAt_filter (check : ℤ → Bool) (field : String) (records : List Record) :
    integersAt field (records.filter fun record => (intAt? field record).any (check ·.toInt)) =
      (integersAt field records).filter check := by
  rw [integersAt, integersAt, List.filter_map, List.filterMap_filter, List.filter_filterMap]
  refine congrArg _ (List.filterMap_congr fun record _ => ?_)
  cases intAt? field record with
  | none => rfl
  | some i => cases passes : check i.toInt <;> simp [Option.filter, passes]

theorem integersAt_append (field : String) (records others : List Record) :
    integersAt field (records ++ others) = integersAt field records ++ integersAt field others := by
  rw [integersAt, List.filterMap_append, List.map_append]
  rfl

theorem perm_integersAt {field : String} {records others : List Record} (h : others.Perm records) :
    (integersAt field others).Perm (integersAt field records) :=
  (h.filterMap _).map _

namespace AggregateFunction

variable {field : String} {records : List Record}

theorem sum_fold (integral : ∀ record ∈ records, ∀ f, record.getPath? field ≠ some (.float f)) :
    sum.fold field records = Value.sumFrom 0 ((records.filterMap (intAt? field)).map .int) := by
  rw [fold_eq_foldl, ← numbers_eq_ints integral]
  exact Accumulator.foldl_add_ints _ 0

/-- The sum is exact if all totals on the way are 64-bit integers. -/
theorem sum_fold_exact (integral : ∀ record ∈ records, ∀ f, record.getPath? field ≠ some (.float f))
    (totals : TotalsAreInt64 (integersAt field records)) :
    ∃ total : Int64, sum.fold field records = .int total ∧
      total.toInt = (integersAt field records).sum := by
  rw [sum_fold integral]
  exact Value.sumFrom_of_totalsAreInt64 totals

/-- The sum is a float if one of them is none. -/
theorem sum_fold_float (integral : ∀ record ∈ records, ∀ f, record.getPath? field ≠ some (.float f))
    (h : ¬TotalsAreInt64 (integersAt field records)) : ∃ front i rest,
      integersAt field records = front ++ i :: rest ∧ TotalsAreInt64 front ∧
        ¬IsInt64 (front.sum + i) ∧
      sum.fold field records =
        .float (Value.addFloats (floatOfInt front.sum) ((i :: rest).map floatOfInt)) := by
  obtain ⟨front, i, rest, split, totals, overflow⟩ := exists_overflow h
  obtain ⟨ints, others, hints, rfl, hothers⟩ := List.map_eq_append_iff.mp split
  obtain ⟨j, others, rfl, rfl, rfl⟩ := List.map_eq_cons_iff.mp hothers
  refine ⟨_, _, _, split, totals, overflow, ?_⟩
  rw [sum_fold integral, hints]
  exact Value.sumFrom_of_overflow totals overflow

/-- If the sum is an integer in every order, the integers that pass a check have a
total that is one of 64 bits. -/
theorem isInt64_sum_filter
    (integral : ∀ record ∈ records, ∀ f, record.getPath? field ≠ some (.float f))
    (always : ∀ others, others.Perm records → ∃ total : Int64, sum.fold field others = .int total)
    (check : ℤ → Bool) : IsInt64 ((integersAt field records).filter check).sum := by
  -- With the records of these integers in front, their total is one of those on the way.
  let passes (record : Record) : Bool := (intAt? field record).any (check ·.toInt)
  have perm := List.filter_append_perm passes records
  obtain ⟨total, integer⟩ := always _ perm
  by_contra beyond
  have overflow : ¬TotalsAreInt64
      (integersAt field (records.filter passes ++ records.filter (!passes ·))) := by
    intro totals
    rw [integersAt_append, integersAt_filter] at totals
    exact beyond (totals _ (List.prefix_append ..))
  obtain ⟨front, i, rest, -, -, -, float⟩ :=
    sum_fold_float (fun record hrecord => integral record (perm.mem_iff.mp hrecord)) overflow
  rw [float] at integer
  cases integer

/-- In every order all totals are 64-bit integers, if those of the positive and
of the negative integers are. -/
theorem totalsAreInt64_of_perm {others : List Record} (perm : others.Perm records)
    (gains : IsInt64 ((integersAt field records).filter (0 < ·)).sum)
    (losses : IsInt64 ((integersAt field records).filter (· < 0)).sum) :
    TotalsAreInt64 (integersAt field others) := by
  intro front h
  obtain ⟨low, high⟩ := sum_le_of_sublist h.sublist
  rw [((perm_integersAt perm).filter _).sum_eq] at low high
  exact ⟨losses.1.trans low, high.trans_lt gains.2⟩

/-- **The sum of integers is exact if each total on the way is a 64-bit integer.** From the
first total on that is none, floats are added instead, even if the total of all records is a
64-bit integer. Two orders of the records in which all totals are 64-bit integers have the same
sum, and the sum is exact in every order if and only if the positive integers and the negative
ones have totals of 64 bits. -/
theorem sum_fold_integers (field : String) (records : List Record)
    (integral : ∀ record ∈ records, ∀ f, record.getPath? field ≠ some (.float f)) :
    (TotalsAreInt64 (integersAt field records) →
      ∃ total : Int64, sum.fold field records = .int total ∧
        total.toInt = (integersAt field records).sum) ∧
    (¬TotalsAreInt64 (integersAt field records) → ∃ front i rest,
      integersAt field records = front ++ i :: rest ∧ TotalsAreInt64 front ∧
        ¬IsInt64 (front.sum + i) ∧
      sum.fold field records = .float (Value.addFloats (floatOfInt front.sum)
        ((i :: rest).map floatOfInt))) ∧
    (∀ others, others.Perm records → TotalsAreInt64 (integersAt field records) →
      TotalsAreInt64 (integersAt field others) → sum.fold field others = sum.fold field records) ∧
    ((∀ others, others.Perm records →
        ∃ total : Int64, sum.fold field others = .int total ∧
          total.toInt = (integersAt field records).sum) ↔
      IsInt64 ((integersAt field records).filter (0 < ·)).sum ∧
        IsInt64 ((integersAt field records).filter (· < 0)).sum) := by
  have exact_of_perm (others : List Record) (perm : others.Perm records)
      (totals : TotalsAreInt64 (integersAt field others)) :
      ∃ total : Int64, sum.fold field others = .int total ∧
      total.toInt = (integersAt field records).sum := by
    rw [← (perm_integersAt perm).sum_eq]
    exact sum_fold_exact (fun record hrecord => integral record (perm.mem_iff.mp hrecord)) totals
  -- Two exact sums of the same integers are equal, so the order does
  -- not matter where both are exact.
  refine ⟨sum_fold_exact integral, sum_fold_float integral, fun others perm totals totals' => ?_,
    fun always => ?_, fun ⟨gains, losses⟩ others perm => exact_of_perm others perm
    (totalsAreInt64_of_perm perm gains losses)⟩
  · obtain ⟨total, h, exact⟩ := sum_fold_exact integral totals
    obtain ⟨total', h', exact'⟩ := exact_of_perm others perm totals'
    rw [h, h', Int64.toInt_inj.mp (exact'.trans exact.symm)]
  · have always (others : List Record) (perm : others.Perm records) :
        ∃ total : Int64, sum.fold field others = .int total :=
          (always others perm).imp fun _ h => h.1
    exact ⟨isInt64_sum_filter integral always _, isInt64_sum_filter integral always _⟩

/-- Bookings of an account, with a remark among them. -/
def bookings : List Record :=
  [[("amount", .int 9223372036854775807)], [("amount", .int (-5))], [("note", .text "corrected")],
    [("amount", .text "none")], [("amount", .int (-2))]]

theorem sum_fold_integers_bookings :
    sum.fold "amount" bookings = .int 9223372036854775800 ∧
    ∀ others, others.Perm bookings → sum.fold "amount" others = .int 9223372036854775800 := by
  have integral : ∀ record ∈ bookings, ∀ f, record.getPath? "amount" ≠ some (.float f) := by
    intro record hrecord f
    simp only [bookings, List.mem_cons, List.not_mem_nil, or_false] at hrecord
    rcases hrecord with rfl | rfl | rfl | rfl | rfl <;> nofun
  have integers : integersAt "amount" bookings = [9223372036854775807, -5, -2] := rfl
  obtain ⟨-, -, -, always⟩ := sum_fold_integers "amount" bookings integral
  rw [integers] at always
  have exact := always.mpr ⟨⟨by decide, by decide⟩, ⟨by decide, by decide⟩⟩
  have each (others : List Record) (perm : others.Perm bookings) :
      sum.fold "amount" others = .int 9223372036854775800 := by
    obtain ⟨total, h, value⟩ := exact others perm
    rw [h, Int64.toInt_inj.mp (value.trans (by decide : _ = (9223372036854775800 : Int64).toInt))]
  exact ⟨each bookings (.refl _), each⟩

/-- Bookings that add up to a 64-bit integer, though the first two of them do not. -/
def reversedBooking : List Record :=
  [[("amount", .int 9223372036854775807)], [("amount", .int 1)], [("amount", .int (-1))]]

/-- The total of all records is a 64-bit integer, and yet the sum is a float, and
in another order an integer. -/
theorem sum_fold_reversedBooking :
    integersAt "amount" reversedBooking = [9223372036854775807, 1, -1] ∧
    sum.fold "amount" reversedBooking = .float 9223372036854775808.0 ∧
    sum.fold "amount" reversedBooking.reverse = .int 9223372036854775807 ∧
    (¬∀ (field : String) (records : List Record),
      (∀ record ∈ records, ∀ f, record.getPath? field ≠ some (.float f)) →
      IsInt64 (integersAt field records).sum →
      ∃ total : Int64, sum.fold field records = .int total ∧
        total.toInt = (integersAt field records).sum) ∧
    ¬∀ (field : String) (records others : List Record),
      (∀ record ∈ records, ∀ f, record.getPath? field ≠ some (.float f)) →
      IsInt64 (integersAt field records).sum → others.Perm records →
      sum.fold field others = sum.fold field records := by
  have integers : integersAt "amount" reversedBooking = [9223372036854775807, 1, -1] := rfl
  have float : sum.fold "amount" reversedBooking = .float 9223372036854775808.0 := by rfl
  have int : sum.fold "amount" reversedBooking.reverse = .int 9223372036854775807 := by rfl
  have integral : ∀ record ∈ reversedBooking, ∀ f, record.getPath? "amount" ≠ some (.float f) := by
    intro record hrecord f
    simp only [reversedBooking, List.mem_cons, List.not_mem_nil, or_false] at hrecord
    rcases hrecord with rfl | rfl | rfl <;> nofun
  have inRange : IsInt64 (integersAt "amount" reversedBooking).sum := by
    rw [integers]
    exact ⟨by decide, by decide⟩
  refine ⟨integers, float, int, fun exact => ?_, fun orderless => ?_⟩
  · obtain ⟨total, h, -⟩ := exact "amount" reversedBooking integral inRange
    rw [float] at h
    cases h
  · have same := orderless "amount" reversedBooking _ integral inRange (List.reverse_perm _)
    rw [float, int] at same
    cases same

end AggregateFunction

end RecordFlow
