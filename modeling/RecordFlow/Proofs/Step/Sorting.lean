import RecordFlow.Proofs.Value.Order
import RecordFlow.Step.Process

/-!
# Sorting by several keys

Records are compared key by key. On records whose values are in order, the comparison is a total
preorder, and the records are sorted stably by it: there is one list in which none comes before one
that it has to follow and in which those that are equal are where they were. Records without a value
for the first key are at one end.

## Main definitions

* `IsPreorderOn` — a comparison is a total preorder on the items of a list
* `IsStableSort` — a list is sorted stably
* `OrderBy.present?`, `OrderBy.place` — the value that a record has for a
  key, and where it is put for it
* `valuesAt` — the values by which records are sorted

## Main results

* `IsPreorderOn.isStableSort_mergeSort`, `IsStableSort.unique` — there is one stable sort
* `OrderBy.compare_eq_then` — records are compared by their places first
* `isPreorderOn_compareRecords` — the comparison of records is a total preorder
* `process_sort` — a step that sorts
-/

namespace RecordFlow

/-! ### Stable sorts -/

section

variable {α : Type} {cmp : α → α → Ordering} {items sorted other : List α}

/-- A comparison is a total preorder on the items of a list. -/
structure IsPreorderOn (cmp : α → α → Ordering) (items : List α) : Prop where
  swap : ∀ a ∈ items, ∀ b ∈ items, cmp b a = (cmp a b).swap
  coherent : ∀ a ∈ items, ∀ b ∈ items, ∀ c ∈ items, IsCoherent (cmp a b) (cmp b c) (cmp a c)

/-- A list holds some items in order, and those that are equal are in it as they were before. -/
structure IsStableSort (cmp : α → α → Ordering) (items sorted : List α) : Prop where
  perm : sorted.Perm items
  ordered : sorted.Pairwise fun a b => cmp a b ≠ .gt
  stable : ∀ item ∈ items, sorted.filter (cmp item · == .eq) = items.filter (cmp item · == .eq)

/-- To sort items is to sort them as items of their list. -/
theorem mergeSort_eq_map_attach (le : α → α → Bool) (items : List α) :
    items.mergeSort le = (items.attach.mergeSort fun a b => le a b).map Subtype.val := by
  have mapped : (items.attach.mergeSort fun a b => le a b).map Subtype.val =
      (items.attach.map Subtype.val).mergeSort le := List.map_mergeSort fun _ _ _ _ => rfl
  rw [mapped, List.attach_map_subtype_val]

namespace IsPreorderOn

variable (preorder : IsPreorderOn cmp items)

include preorder

theorem refl {a : α} (ha : a ∈ items) : cmp a a = .eq := by
  have same := preorder.swap a ha a ha
  cases h : cmp a a <;> simp_all

theorem isLE_trans (a b c : {item // item ∈ items}) (ab : (cmp a b).isLE = true)
    (bc : (cmp b c).isLE = true) : (cmp a c).isLE = true :=
  (preorder.coherent a a.2 b b.2 c c.2).isLE_trans ab bc

theorem isLE_total (a b : {item // item ∈ items}) : ((cmp a b).isLE || (cmp b a).isLE) = true := by
  rw [preorder.swap a a.2 b b.2]
  cases cmp a b <;> rfl

/-- Two items that are equal to a third one are equal. -/
theorem eq_of_eq {a b c : α} (ha : a ∈ items) (hb : b ∈ items) (hc : c ∈ items) (ab : cmp a b = .eq)
    (ac : cmp a c = .eq) : cmp b c = .eq := by
  have ba : cmp b a = .eq := by rw [preorder.swap a ha b hb, ab]; rfl
  exact ((preorder.coherent b hb a ha c hc).eq_left ba).trans ac

/-- Items that are in order stay in this order. -/
theorem sublist_mergeSort {part : List α} (within : part.Sublist items)
    (ordered : part.Pairwise fun a b => (cmp a b).isLE = true) :
    part.Sublist (items.mergeSort fun a b => (cmp a b).isLE) := by
  -- The comparison is a preorder on the items only, so it is their list with proofs that is sorted.
  have within : part.Sublist (items.attach.map Subtype.val) := by rwa [List.attach_map_subtype_val]
  obtain ⟨marked, hmarked, rfl⟩ := List.sublist_map_iff.mp within
  rw [mergeSort_eq_map_attach]
  exact (List.sublist_mergeSort preorder.isLE_trans preorder.isLE_total
    (List.pairwise_map.mp ordered) hmarked).map _

/-- A merge sort is stable. -/
theorem isStableSort_mergeSort :
    IsStableSort cmp items (items.mergeSort fun a b => (cmp a b).isLE) where
  perm := List.mergeSort_perm ..
  ordered := by
    rw [mergeSort_eq_map_attach, List.pairwise_map]
    refine (List.pairwise_mergeSort preorder.isLE_trans preorder.isLE_total items.attach).imp ?_
    exact fun le => Ordering.isLE_iff_ne_gt.mp le
  stable item hitem := by
    have equal : (items.filter (cmp item · == .eq)).Pairwise fun a b => (cmp a b).isLE = true := by
      refine List.pairwise_of_forall_mem_list fun a ha b hb => ?_
      obtain ⟨ha, ia⟩ := List.mem_filter.mp ha
      obtain ⟨hb, ib⟩ := List.mem_filter.mp hb
      rw [preorder.eq_of_eq hitem ha hb (by simpa using ia) (by simpa using ib)]
      rfl
    -- They are found in their order in what is sorted, and there are as many of them as before.
    have kept := (preorder.sublist_mergeSort List.filter_sublist equal).filter (cmp item · == .eq)
    rw [List.filter_filter] at kept
    simp only [Bool.and_self] at kept
    have perm := (List.mergeSort_perm items fun a b => (cmp a b).isLE).filter (cmp item · == .eq)
    exact (kept.eq_of_length perm.length_eq.symm).symm

theorem subset {others : List α} (within : others ⊆ items) : IsPreorderOn cmp others where
  swap a ha b hb := preorder.swap a (within ha) b (within hb)
  coherent a ha b hb c hc := preorder.coherent a (within ha) b (within hb) c (within hc)

end IsPreorderOn

/-- Of two lists of the same items in order, in which equal items follow each other in the same way,
the first items are the same. -/
theorem cmp_eq_of_cons_perm_cons {a b : α} {as bs : List α} (preorder : IsPreorderOn cmp (a :: as))
    (perm : (b :: bs).Perm (a :: as)) (ha : (a :: as).Pairwise fun a b => cmp a b ≠ .gt)
    (hb : (b :: bs).Pairwise fun a b => cmp a b ≠ .gt) : cmp a b = .eq := by
  have self : cmp a a = .eq := preorder.refl (List.mem_cons_self ..)
  rcases List.mem_cons.mp (perm.mem_iff.mp (List.mem_cons_self ..)) with rfl | behind
  · exact self
  rcases List.mem_cons.mp (perm.mem_iff.mpr (List.mem_cons_self ..)) with rfl | before
  · exact self
  have notgt := List.rel_of_pairwise_cons ha behind
  have notlt := List.rel_of_pairwise_cons hb before
  rw [preorder.swap a (List.mem_cons_self ..) b (List.mem_cons_of_mem _ behind)] at notlt
  cases h : cmp a b with
  | eq => rfl
  | lt => exact absurd (by rw [h]; rfl) notlt
  | gt => exact absurd h notgt

namespace IsStableSort

variable (preorder : IsPreorderOn cmp items) (h : IsStableSort cmp items sorted)

include preorder h

/-- What is sorted stably is determined by the items. -/
theorem unique (h' : IsStableSort cmp items other) : other = sorted := by
  have preorder := preorder.subset h.perm.subset
  have perm : other.Perm sorted := h'.perm.trans h.perm.symm
  have same (item : α) (hitem : item ∈ sorted) :
      other.filter (cmp item · == .eq) = sorted.filter (cmp item · == .eq) :=
    have hitem := h.perm.mem_iff.mp hitem
    (h'.stable item hitem).trans (h.stable item hitem).symm
  have ordered := h.ordered
  have ordered' := h'.ordered
  clear h h'
  -- The tails are no stable sorts of `items`, so only what they keep of
  -- being one goes into the induction.
  induction sorted generalizing other with
  | nil => exact perm.eq_nil
  | cons a as ih =>
    obtain ⟨b, bs, rfl⟩ :=
      List.exists_cons_of_ne_nil fun none : other = [] => by simp [none] at perm
    -- The first items are equal, so each is the first one of those that equal the first one.
    have equal := cmp_eq_of_cons_perm_cons preorder perm ordered ordered'
    have first := same a (List.mem_cons_self ..)
    rw [List.filter_cons_of_pos (by simp [equal]),
      List.filter_cons_of_pos (by simp [preorder.refl (List.mem_cons_self ..)])] at first
    obtain ⟨rfl, -⟩ := List.cons.inj first
    refine congrArg (b :: ·) (ih (preorder.subset (List.subset_cons_self ..)) perm.cons_inv
      (fun item hitem => ?_) (List.pairwise_cons.mp ordered).2 (List.pairwise_cons.mp ordered').2)
    have rest := same item (List.mem_cons_of_mem _ hitem)
    rw [List.filter_cons, List.filter_cons] at rest
    split at rest
    · exact (List.cons.inj rest).2
    · exact rest

end IsStableSort

/-- A list in which what passes a check stays behind what does not is put together from both. -/
theorem eq_filter_append_filter {check : α → Bool}
    (behind : items.Pairwise fun a b => check a = true → check b = true) :
    items = items.filter (!check ·) ++ items.filter check := by
  induction items with
  | nil => rfl
  | cons item items ih =>
    obtain ⟨first, behind⟩ := List.pairwise_cons.mp behind
    cases passes : check item with
    | false =>
      rw [List.filter_cons_of_pos (by simp [passes]), List.filter_cons_of_neg (by simp [passes]),
        List.cons_append, ← ih behind]
    | true =>
      have none : items.filter (!check ·) = [] :=
        List.filter_eq_nil_iff.mpr fun b hb => by simp [first b hb passes]
      have all : items.filter check = items := List.filter_eq_self.mpr fun b hb => first b hb passes
      rw [List.filter_cons_of_neg (by simp [passes]), List.filter_cons_of_pos passes,
        none, all, List.nil_append]

end

/-! ### The comparison by one key -/

namespace OrderBy

/-- The value that a record has for a key, none if it is null. -/
def present? (key : OrderBy) (record : Record) : Option Value :=
  (record.getPath? key.field).filter (!·.isNull)

/-- Whether a record has no value for a key. -/
def misses (key : OrderBy) (record : Record) : Bool := (key.present? record).isNone

/-- The place of a record: records without a value come before those with one, or behind them. -/
def place (key : OrderBy) (record : Record) : ℕ :=
  if key.misses record then if key.nulls = .first then 0 else 2 else 1

/-- The order of the values that two records have for a key. -/
def compareValues (key : OrderBy) : Option Value → Option Value → Ordering
  | some x, some y => if key.direction = .ascending then x.order y else (x.order y).swap
  | _, _ => .eq

/-- Records are compared by their places first, and then by their values. -/
theorem compare_eq_then (key : OrderBy) (a b : Record) : key.compare a b =
    (Ord.compare (key.place a) (key.place b)).then
      (key.compareValues (key.present? a) (key.present? b)) := by
  rw [place, place, misses, misses]
  cases ha : key.present? a <;> cases hb : key.present? b <;> rw [present?] at ha hb <;>
    simp only [OrderBy.compare, ha, hb] <;> cases key.nulls <;> rfl

theorem compareValues_swap (key : OrderBy) (x y : Option Value) :
    key.compareValues y x = (key.compareValues x y).swap := by
  cases x with
  | none => cases y <;> rfl
  | some x =>
    cases y with
    | none => rfl
    | some y =>
      rw [compareValues, compareValues, Value.order_swap x y]
      split <;> rfl

theorem compare_swap (key : OrderBy) (a b : Record) : key.compare b a = (key.compare a b).swap := by
  rw [compare_eq_then, compare_eq_then, Ordering.swap_then,
    ← compareValues_swap, ← Nat.compare_swap]

/-- Records at one place all have a value, or none of them has one. -/
theorem misses_eq_of_place_eq {key : OrderBy} {a b : Record} (same : key.place a = key.place b) :
    key.misses a = key.misses b := by
  rw [place, place] at same
  cases ma : key.misses a <;> cases mb : key.misses b <;> cases nulls : key.nulls <;> simp_all

/-- Records are compared coherently by a key if the values that they have for it are. -/
theorem compare_coherent {key : OrderBy} {a b c : Record}
    (values : ∀ x ∈ key.present? a, ∀ y ∈ key.present? b, ∀ z ∈ key.present? c,
      IsCoherent (x.order y) (y.order z) (x.order z)) :
    IsCoherent (key.compare a b) (key.compare b c) (key.compare a c) := by
  -- Where the places are equal, all three records have a value or none has one.
  rw [compare_eq_then, compare_eq_then, compare_eq_then]
  refine (IsCoherent.of_linearOrder (key.place a) (key.place b) (key.place c)).lex fun ab bc => ?_
  have ab := misses_eq_of_place_eq (compare_eq_iff_eq.mp ab)
  have bc := misses_eq_of_place_eq (compare_eq_iff_eq.mp bc)
  cases ha : key.present? a with
  | none =>
    have hb : key.present? b = none := by simpa [misses, ha] using ab.symm
    have hc : key.present? c = none := by simpa [misses, hb] using bc.symm
    rw [hb, hc]
    exact .refl .eq
  | some x =>
    obtain ⟨y, hb⟩ := Option.isSome_iff_exists.mp (by simpa [misses, ha] using ab)
    obtain ⟨z, hc⟩ := Option.isSome_iff_exists.mp (by simpa [misses, hb] using bc)
    have coherent := values x ha y hb z hc
    rw [hb, hc, compareValues, compareValues, compareValues]
    split
    · exact coherent
    · exact coherent.swap

/-- A record that stands in front of another one does not have a place behind it. -/
theorem place_le {key : OrderBy} {a b : Record} (notgt : key.compare a b ≠ .gt) :
    key.place a ≤ key.place b := by
  refine not_lt.mp fun behind => notgt ?_
  rw [compare_eq_then, compare_gt_iff_gt.mpr behind, Ordering.gt_then]

end OrderBy

/-! ### The comparison by several keys -/

theorem compareRecords_swap (keys : List OrderBy) (a b : Record) :
    compareRecords keys b a = (compareRecords keys a b).swap := by
  induction keys with
  | nil => rfl
  | cons key keys ih =>
    rw [compareRecords, compareRecords, Ordering.swap_then, ← key.compare_swap, ih]

theorem compareRecords_coherent {keys : List OrderBy} {a b c : Record}
    (each : ∀ key ∈ keys, IsCoherent (key.compare a b) (key.compare b c) (key.compare a c)) :
    IsCoherent (compareRecords keys a b) (compareRecords keys b c) (compareRecords keys a c) := by
  induction keys with
  | nil => exact .refl .eq
  | cons key keys ih =>
    obtain ⟨first, rest⟩ := List.forall_mem_cons.mp each
    exact first.lex fun _ _ => ih rest

/-- The values by which records are sorted. -/
def valuesAt (keys : List OrderBy) (records : List Record) : Set Value :=
  {value | ∃ key ∈ keys, ∃ record ∈ records, record.getPath? key.field = some value}

/-- Records are in a total preorder if their values hold no NaN, and no two
integers that one float equals. -/
theorem isPreorderOn_compareRecords {keys : List OrderBy} {records : List Record}
    (free : ∀ value ∈ valuesAt keys records, value.IsNaNFree)
    (apart : Value.IntegersStayApart (valuesAt keys records)) :
    IsPreorderOn (compareRecords keys) records where
  swap a _ b _ := compareRecords_swap keys a b
  coherent a ha b hb c hc := by
    have free : ∀ part ∈ Value.parts (valuesAt keys records), part.IsNaNFree :=
      fun part ⟨value, hvalue, isPart⟩ => isPart.isNaNFree (free value hvalue)
    refine compareRecords_coherent fun key hkey => OrderBy.compare_coherent fun x hx y hy z hz => ?_
    have mem {record : Record} (hrecord : record ∈ records) {value : Value}
        (h : key.present? record = some value) : value ∈ Value.parts (valuesAt keys records) :=
      Value.subset_parts _ ⟨key, hkey, record, hrecord, (Option.filter_eq_some_iff.mp h).1⟩
    exact Value.order_coherent free apart (mem ha hx) (mem hb hy) (mem hc hz)

/-! ### Sorted records -/

/-- In sorted records, those without a value for the first key are at one end. -/
theorem eq_blocks {key : OrderBy} {keys : List OrderBy} {sorted : List Record}
    (ordered : sorted.Pairwise fun a b => compareRecords (key :: keys) a b ≠ .gt) :
    sorted = if key.nulls = .first then sorted.filter key.misses ++ sorted.filter (!key.misses ·)
      else sorted.filter (!key.misses ·) ++ sorted.filter key.misses := by
  have places : sorted.Pairwise fun a b => key.place a ≤ key.place b :=
    ordered.imp fun {a b} notgt =>
      OrderBy.place_le fun gt => notgt (by rw [compareRecords, gt, Ordering.gt_then])
  split
  next first =>
    have behind : sorted.Pairwise fun a b => (!key.misses a) = true → (!key.misses b) = true := by
      refine places.imp fun {a b} le ha => ?_
      by_contra hb
      simp_all [OrderBy.place]
    simpa only [Bool.not_not] using eq_filter_append_filter behind
  next last =>
    refine eq_filter_append_filter (places.imp fun {a b} le ha => ?_)
    by_contra hb
    simp_all [OrderBy.place]

/-- **Sorting is the stable sort by several keys.** On records whose values hold no NaN and no
integer beyond `2 ^ 53`, a step that sorts gives the one list of these records in which no record
comes before one that it has to follow, and in which equal records are in the order in which they
came in, whatever the directions. The records that have no value for the first key, or null, are at
the end that the key gives, and what is sorted stays as it is. -/
theorem process_sort (now : Timestamp) (config : SortConfig) (records : List Record)
    (free : ∀ value ∈ valuesAt config.orderBy records, value.IsNaNFree)
    (small : ∀ i, .int i ∈ Value.parts (valuesAt config.orderBy records) →
      i.toInt.natAbs ≤ 2 ^ 53) :
    ∃ sorted, StepConfig.process now [records] (.sort config) = .ok ⟨sorted, records.length⟩ ∧
      IsStableSort (compareRecords config.orderBy) records sorted ∧
      (∀ other, IsStableSort (compareRecords config.orderBy) records other → other = sorted) ∧
      (∀ key keys, config.orderBy = key :: keys →
        sorted = if key.nulls =
          .first then sorted.filter key.misses ++ sorted.filter (!key.misses ·)
          else sorted.filter (!key.misses ·) ++ sorted.filter key.misses) ∧
      StepConfig.process now [sorted] (.sort config) = .ok ⟨sorted, sorted.length⟩ := by
  have preorder := isPreorderOn_compareRecords free (Value.integersStayApart_of_natAbs_le small)
  have stable : IsStableSort (compareRecords config.orderBy) records
      (sortRecords config.orderBy records) :=
    preorder.isStableSort_mergeSort
  refine ⟨_, rfl, stable, fun other => stable.unique preorder, fun key keys first => ?_, ?_⟩
  · have ordered := stable.ordered
    generalize sortRecords config.orderBy records = sorted at ordered ⊢
    rw [first] at ordered
    exact eq_blocks ordered
  · have again : sortRecords config.orderBy (sortRecords config.orderBy records) =
        sortRecords config.orderBy records :=
      List.mergeSort_of_pairwise (stable.ordered.imp fun notgt => Ordering.isLE_iff_ne_gt.mpr notgt)
    rw [StepConfig.process, StepConfig.onOne, again]

/-- Players by their points, the best ones first and those without points in front
of them, and by their names. -/
def byPoints : SortConfig where
  source := "players"
  output := "sorted"
  orderBy := [⟨"points", .descending, .first⟩, ⟨"name", .ascending, .last⟩]

def players : List Record :=
  [[("name", .text "Ann"), ("points", .int 3)], [("name", .text "Bob"), ("points", .float 3.5)],
    [("points", .null), ("id", .int 1)],
    [("points", .int 3), ("name", .text "Ann"), ("id", .int 2)],
    [("name", .text "Eve")], [("points", .float 3.0)]]

def sortedPlayers : List Record :=
  [[("name", .text "Eve")], [("points", .null), ("id", .int 1)],
    [("name", .text "Bob"), ("points", .float 3.5)], [("name", .text "Ann"), ("points", .int 3)],
    [("points", .int 3), ("name", .text "Ann"), ("id", .int 2)], [("points", .float 3.0)]]

theorem isStableSort_sortedPlayers :
    IsStableSort (compareRecords byPoints.orderBy) players sortedPlayers where
  perm := (by decide : [4, 2, 1, 0, 3, 5].Perm [0, 1, 2, 3, 4, 5]).map (players.getD · [])
  ordered := by decide +kernel
  stable item hitem := by
    simp only [players, List.mem_cons, List.not_mem_nil, or_false] at hitem
    rcases hitem with rfl | rfl | rfl | rfl | rfl | rfl <;> rfl

theorem process_sort_players :
    StepConfig.process .epoch [players] (.sort byPoints) = .ok ⟨sortedPlayers, 6⟩ ∧
    StepConfig.process .epoch [sortedPlayers] (.sort byPoints) = .ok ⟨sortedPlayers, 6⟩ := by
  have values : valuesAt byPoints.orderBy players ⊆
      {.text "Ann", .int 3, .text "Bob", .float 3.5, .null, .text "Eve", .float 3.0} := by
    rintro value ⟨key, hkey, record, hrecord, found⟩
    simp only [byPoints, players, List.mem_cons, List.not_mem_nil, or_false] at hkey hrecord
    rcases hkey with rfl | rfl <;> rcases hrecord with rfl | rfl | rfl | rfl | rfl | rfl <;>
      cases found <;> simp
  have free : ∀ value ∈ valuesAt byPoints.orderBy players, value.IsNaNFree := by
    intro value hvalue
    rcases values hvalue with rfl | rfl | rfl | rfl | rfl | rfl | rfl <;> decide
  have small (i : Int64) (h : .int i ∈ Value.parts (valuesAt byPoints.orderBy players)) :
      i.toInt.natAbs ≤ 2 ^ 53 := by
    obtain ⟨value, hvalue, isPart⟩ := h
    rcases values hvalue with rfl | rfl | rfl | rfl | rfl | rfl | rfl <;> cases isPart
    decide
  obtain ⟨sorted, sorts, -, unique, -, again⟩ := process_sort .epoch byPoints players free small
  obtain rfl := unique _ isStableSort_sortedPlayers
  exact ⟨sorts, again⟩

end RecordFlow
