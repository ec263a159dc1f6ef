import RecordFlow.Proofs.Expression.Texts

/-!
# Slices of lists and texts

Indexes are integers of any size and sign. A negative one counts from the end, and what is beyond
an end is that end, so every index stands for a place and no slice leaves its list. A slice has
the items between two places, none if they are crossed, and it does not matter where a list is
cut: the parts are the list. A single item is the first one of the slice from its index on, and an
index beyond an end has no item.

## Main definitions

* `placeOf`, `stopPlace` — the places that an index and the end of a slice stand for
* `IsSlicedBy` — how the slices of a list lie in it

## Main results

* `coe_clampIndex`, `sliceBounds_le` — the bounds of a slice are these
  places, in order and inside the list
* `slices_lieInPlace` — lists and texts in a record are sliced like that
-/

namespace RecordFlow

variable {α : Type}

/-! ### Places -/

/-- The place among `length` items that an index stands for. -/
def placeOf (length : Nat) (i : Int) : Int := if i < 0 then max 0 (length + i) else min i length

/-- The place in front of which a slice stops; without an end this is behind the last item. -/
def stopPlace (length : Nat) (stop : Option Int) : Int := (stop.map (placeOf length)).getD length

theorem coe_clampIndex (length : Nat) (i : Int) :
    (clampIndex length i : Int) = placeOf length i := by
  rw [clampIndex, placeOf]
  split <;> omega

theorem clampIndex_le (length : Nat) (i : Int) : clampIndex length i ≤ length := by
  rw [clampIndex]
  split <;> omega

theorem clampIndex_zero (length : Nat) : clampIndex length 0 = 0 := by simp [clampIndex]

/-- An index of an item stands for the place of that item, and for no place behind it. -/
theorem clampIndex_lt_iff {length : Nat} {i : Int} (low : -(length : Int) ≤ i) :
    clampIndex length i < length ↔ i < length := by
  rw [clampIndex]
  split <;> omega

/-- The bounds of a slice are in order, and they are bounds of places. -/
theorem sliceBounds_le (start : Int) (stop : Option Int) (length : Nat) :
    (sliceBounds start stop length).1 ≤ (sliceBounds start stop length).2 ∧
      (sliceBounds start stop length).2 ≤ length := by
  have high : (stop.map (clampIndex length)).getD length ≤ length := by
    cases stop with
    | none => exact Nat.le_refl length
    | some stop => exact clampIndex_le length stop
  exact ⟨Nat.le_max_left _ _, Nat.max_le.mpr ⟨clampIndex_le length start, high⟩⟩

theorem coe_sliceBounds (start : Int) (stop : Option Int) (length : Nat) :
    ((sliceBounds start stop length).1 : Int) = placeOf length start ∧
      ((sliceBounds start stop length).2 : Int) = max (placeOf length start)
      (stopPlace length stop) := by
  have high : (((stop.map (clampIndex length)).getD length : Nat) : Int) =
      stopPlace length stop := by
    cases stop with
    | none => rfl
    | some stop => exact coe_clampIndex length stop
  refine ⟨coe_clampIndex length start, ?_⟩
  rw [← high, ← coe_clampIndex, sliceBounds]
  omega

/-! ### Items between two places -/

/-- The items at the places from `low` to in front of `high`. -/
def itemsBetween (low high : Int) (items : List α) : List α :=
  (items.zipIdx.filter fun (_, place) => low ≤ place ∧ place < high).map Prod.fst

/-- The items between two places, when counting starts at any number. -/
theorem map_fst_filter_zipIdx (items : List α) (low high k : Nat) :
    ((items.zipIdx k).filter fun (_, place) => low ≤ place ∧ place < high).map Prod.fst =
      (items.take (high - k)).drop (low - k) := by
  induction items generalizing k with
  | nil => simp
  | cons item items ih =>
    rw [List.zipIdx_cons, List.filter_cons]
    -- The first item is in front of both places, between them, or behind them.
    by_cases stopped : high ≤ k
    · have none : high - k = 0 := by omega
      have later : high - (k + 1) = 0 := by omega
      rw [if_neg (by simp [stopped]), ih, none, later]
      simp
    · have stop : high - k = high - (k + 1) + 1 := by omega
      rw [stop, List.take_succ_cons]
      by_cases started : low ≤ k
      · have start : low - k = 0 := by omega
        have later : low - (k + 1) = 0 := by omega
        rw [if_pos (by simpa using ⟨started, Nat.lt_of_not_le stopped⟩),
          List.map_cons, ih, start, later]
        rfl
      · have start : low - k = low - (k + 1) + 1 := by omega
        rw [if_neg (by simp [started]), ih, start, List.drop_succ_cons]

theorem sliceOf_eq_itemsBetween (start : Int) (stop : Option Int) (items : List α) :
    sliceOf start stop items =
      itemsBetween (placeOf items.length start) (stopPlace items.length stop) items := by
  obtain ⟨low, high⟩ := coe_sliceBounds start stop items.length
  have bounds := map_fst_filter_zipIdx items (sliceBounds start stop items.length).1
    (sliceBounds start stop items.length).2 0
  rw [Nat.sub_zero, Nat.sub_zero] at bounds
  refine bounds.symm.trans (congrArg (List.map Prod.fst) (List.filter_congr fun (_, place) _ => ?_))
  -- A crossed end is put where the slice starts, and then no place is between the two.
  exact decide_eq_decide.mpr (by omega)

theorem sliceOf_none (k : Int) (items : List α) :
    sliceOf k none items = items.drop (clampIndex items.length k) := by
  simp [sliceOf, sliceBounds, clampIndex_le]

/-- The items up to an index and from it on are all items. -/
theorem sliceOf_append (k : Int) (items : List α) :
    sliceOf 0 (some k) items ++ sliceOf k none items = items := by
  have front : sliceOf 0 (some k) items = items.take (clampIndex items.length k) := by
    simp [sliceOf, sliceBounds, clampIndex_zero]
  rw [front, sliceOf_none, List.take_append_drop]

/-- The item at an index that is not in front of all items is the one at its place. -/
theorem itemAt?_eq_getElem? {items : List α} {i : Int} (low : -(items.length : Int) ≤ i) :
    itemAt? items i = items[clampIndex items.length i]? := by
  rw [itemAt?, clampIndex]
  by_cases negative : i < 0
  · rw [if_neg (by omega), if_pos (by omega), if_pos negative]
  · rw [if_pos (by omega), if_neg negative]
    by_cases inside : i.toNat ≤ items.length
    · rw [Nat.min_eq_left inside]
    · rw [List.getElem?_eq_none (by omega), List.getElem?_eq_none (by omega)]

theorem itemAt?_eq_none {items : List α} {i : Int} (beyond : i < -items.length ∨ items.length ≤ i) :
    itemAt? items i = none := by
  rw [itemAt?]
  rcases beyond with inFront | behind
  · rw [if_neg (by omega), if_neg (by omega)]
  · rw [if_pos (by omega), List.getElem?_eq_none (by omega)]

/-! ### Slices of fields -/

/-- How the slices of a list lie in it, where `yields start stop` tells what the
one from `start` to `stop` is. -/
structure IsSlicedBy (items : List α) (yields : Int → Option Int → List α → Prop) : Prop where
  inBounds : ∀ start stop, (sliceBounds start stop items.length).1 ≤
    (sliceBounds start stop items.length).2 ∧ (sliceBounds start stop items.length).2 ≤ items.length
  between : ∀ start stop, yields start stop
    (itemsBetween (placeOf items.length start) (stopPlace items.length stop) items)
  cut : ∀ k, ∃ front back, yields 0 (some k) front ∧ yields k none back ∧ front ++ back = items

theorem isSlicedBy_of_sliceOf {items : List α} {yields : Int → Option Int → List α → Prop}
    (h : ∀ start stop, yields start stop (sliceOf start stop items)) : IsSlicedBy items yields where
  inBounds start stop := sliceBounds_le start stop items.length
  between start stop := sliceOf_eq_itemsBetween start stop items ▸ h start stop
  cut k := ⟨_, _, h 0 (some k), h k none, sliceOf_append k items⟩

/-- **Slices lie in place.** A list in a record, and a text likewise by its characters, is sliced
inside its bounds into the items between two places and can be cut at every index. An index of an
item yields the first item of the slice from there on, and any other index yields nothing. -/
theorem slices_lieInPlace (record : Record) (path : String) :
    (∀ items, record.getPath? path = some (.list items) →
      IsSlicedBy items (fun start stop part =>
        (ListOp.slice start stop).evaluate path record = some (.list part)) ∧
      ∀ i : Int, (-(items.length : Int) ≤ i ∧ i < items.length → ∃ item rest,
          (ListOp.at i).evaluate path record = some item ∧
          (ListOp.slice i none).evaluate path record = some (.list (item :: rest))) ∧
        (¬ (-(items.length : Int) ≤ i ∧ i < items.length) →
          (ListOp.at i).evaluate path record = none)) ∧
    ∀ text, record.getPath? path = some (.text text) →
      IsSlicedBy text.toList fun start stop part =>
        (TextOp.substring start stop).evaluate path record = some (.text (String.ofList part)) := by
  refine ⟨fun items holds => ⟨isSlicedBy_of_sliceOf fun start stop => ?_,
    fun i => ⟨?_, fun beyond => ?_⟩⟩, fun text holds => isSlicedBy_of_sliceOf fun start stop => ?_⟩
  · exact ListOp.evaluate_eq _ holds
  · rintro ⟨low, high⟩
    have inside := (clampIndex_lt_iff low).mpr high
    refine ⟨items[clampIndex items.length i], items.drop (clampIndex items.length i + 1), ?_, ?_⟩
    · rw [ListOp.evaluate_eq _ holds, ListOp.apply, itemAt?_eq_getElem? low,
        List.getElem?_eq_getElem inside]
    · rw [ListOp.evaluate_eq _ holds, ListOp.apply, sliceOf_none, List.drop_eq_getElem_cons inside]
  · rw [ListOp.evaluate_eq _ holds]
    exact itemAt?_eq_none (by omega)
  · exact TextOp.evaluate_eq _ holds

/-- Three tags and a name of three characters, whose last one has two bytes. -/
def taggedRecord : Record :=
  [("tags", .list [.text "a", .text "b", .text "c"]), ("name", .text "Zoë")]

/-- The greatest index is behind all items and the least one in front of them; crossed
places have nothing between. -/
theorem slices_lieInPlace_extremes :
    (ListOp.slice (-2) (some 9223372036854775807)).evaluate "tags" taggedRecord = some
    (.list [.text "b", .text "c"]) ∧
      (∃ item rest, (ListOp.at (-3)).evaluate "tags" taggedRecord = some item ∧
        (ListOp.slice (-3) none).evaluate "tags" taggedRecord = some (.list (item :: rest))) ∧
    (ListOp.at (-9223372036854775808)).evaluate "tags" taggedRecord = none ∧
    (TextOp.substring 2 none).evaluate "name" taggedRecord = some (.text "ë") ∧
    (TextOp.substring 2 (some (-2))).evaluate "name" taggedRecord = some (.text "") := by
  obtain ⟨sliced, item⟩ := (slices_lieInPlace taggedRecord "tags").1 _ rfl
  have characters := (slices_lieInPlace taggedRecord "name").2 _ rfl
  exact ⟨sliced.between (-2) (some 9223372036854775807), (item (-3)).1 (by decide),
    (item (-9223372036854775808)).2 (by decide), characters.between 2 none,
    characters.between 2 (some (-2))⟩

end RecordFlow
