import RecordFlow.Proofs.Document.Fields
import RecordFlow.Proofs.Step.Aggregating
import RecordFlow.Proofs.Step.Sorting

/-!
# One record for each identity

A step that removes repetitions gathers the records by their identities, sorts each group and takes
one of its ends. On records whose values are in order, the first one of a sorted group is the
earliest of its least records, and the last one is the latest of its greatest records, so that what
is kept can be said without sorting.

## Main definitions

* `leastOf`, `greatestOf` — the items that none of the others comes before, or behind
* `DeduplicateConfig.identities`, `DeduplicateConfig.sharing` — the different
  identities, and the records that have one
* `DeduplicateConfig.pick?` — the record that is to be kept of those with one identity

## Main results

* `IsStableSort.head?_eq`, `IsStableSort.getLast?_eq` — the ends of what is sorted
* `DeduplicateConfig.forall₂_rows` — one record of each group is kept
* `DeduplicateConfig.rows_of_pairwise` — records with different identities are all kept
* `DeduplicateConfig.process_deduplicate` — a step that removes repetitions
-/

namespace RecordFlow

/-! ### Least and greatest items -/

section

variable {α : Type} {cmp : α → α → Ordering} {items sorted : List α} {item : α}

/-- The items that none of the others comes before. -/
def leastOf (cmp : α → α → Ordering) (items : List α) : List α :=
  items.filter fun item => items.all fun other => (cmp item other).isLE

/-- The items that none of the others comes behind. -/
def greatestOf (cmp : α → α → Ordering) (items : List α) : List α :=
  items.filter fun item => items.all fun other => (cmp item other).isGE

namespace IsPreorderOn

variable (preorder : IsPreorderOn cmp items)

include preorder

theorem swap_isLE {a b : α} (ha : a ∈ items) (hb : b ∈ items) :
    (cmp b a).isLE = (cmp a b).isGE := by
  rw [preorder.swap a ha b hb]
  cases cmp a b <;> rfl

/-- An item that equals another one compares with all others as it does. -/
theorem congr_left {a b c : α} (ha : a ∈ items) (hb : b ∈ items)
    (hc : c ∈ items) (same : cmp a b = .eq) : cmp b c = cmp a c :=
  ((preorder.coherent a ha b hb c hc).eq_left same).symm

/-- The items that compare with all in one direction are those that equal one of them. -/
theorem filter_all_eq {holds : Ordering → Bool}
    (antisymm : ∀ o, holds o = true → holds o.swap = true → o = .eq) (hitem : item ∈ items)
    (each : ∀ other ∈ items, holds (cmp item other) = true) :
    items.filter (fun other => items.all fun third => holds (cmp other third)) =
      items.filter (cmp item · == .eq) := by
  refine List.filter_congr fun other hother => ?_
  rw [Bool.eq_iff_iff, List.all_eq_true, beq_iff_eq]
  refine ⟨fun all => ?_, fun same third hthird => ?_⟩
  · have back := all item hitem
    rw [preorder.swap item hitem other hother] at back
    exact antisymm _ (each other hother) back
  · rw [preorder.congr_left hitem hother hthird same]
    exact each third hthird

/-- The least items are those that equal one of them. -/
theorem leastOf_eq (hitem : item ∈ items) (least : ∀ other ∈ items, (cmp item other).isLE = true) :
    leastOf cmp items = items.filter (cmp item · == .eq) :=
  preorder.filter_all_eq (fun o => by cases o <;> decide) hitem least

/-- The greatest items are those that equal one of them. -/
theorem greatestOf_eq (hitem : item ∈ items)
    (greatest : ∀ other ∈ items, (cmp item other).isGE = true) :
    greatestOf cmp items = items.filter (cmp item · == .eq) :=
  preorder.filter_all_eq (fun o => by cases o <;> decide) hitem greatest

end IsPreorderOn

namespace IsStableSort

variable (preorder : IsPreorderOn cmp items) (h : IsStableSort cmp items sorted)

include preorder h

/-- The first one of sorted items is the earliest of the least ones. -/
theorem head?_eq : sorted.head? = (leastOf cmp items).head? := by
  cases sorted with
  | nil => rw [h.perm.nil_eq.symm]; rfl
  | cons first rest =>
    have hfirst : first ∈ items := h.perm.mem_iff.mp (List.mem_cons_self ..)
    have self := preorder.refl hfirst
    have least : ∀ other ∈ items, (cmp first other).isLE = true := by
      intro other hother
      rcases List.mem_cons.mp (h.perm.mem_iff.mpr hother) with rfl | behind
      · rw [self]; rfl
      · exact Ordering.isLE_iff_ne_gt.mpr (List.rel_of_pairwise_cons h.ordered behind)
    rw [preorder.leastOf_eq hfirst least, ← h.stable first hfirst,
      List.filter_cons_of_pos (by simp [self])]
    rfl

/-- The last one of sorted items is the latest of the greatest ones. -/
theorem getLast?_eq : sorted.getLast? = (greatestOf cmp items).getLast? := by
  rcases List.eq_nil_or_concat sorted with rfl | ⟨front, last, rfl⟩
  · rw [h.perm.nil_eq.symm]; rfl
  · rw [List.concat_eq_append] at h ⊢
    have hlast : last ∈ items := h.perm.mem_iff.mp (by simp)
    have self := preorder.refl hlast
    have greatest : ∀ other ∈ items, (cmp last other).isGE = true := by
      intro other hother
      rw [← preorder.swap_isLE hlast hother]
      rcases List.mem_append.mp (h.perm.mem_iff.mpr hother) with before | here
      · have notgt :=
          (List.pairwise_append.mp h.ordered).2.2 other before last (List.mem_singleton_self _)
        exact Ordering.isLE_iff_ne_gt.mpr notgt
      · rw [List.mem_singleton.mp here, self]; rfl
    rw [preorder.greatestOf_eq hlast greatest, ← h.stable last hlast, List.filter_append,
      List.filter_cons_of_pos (by simp [self]), List.filter_nil,
      List.getLast?_concat, List.getLast?_concat]

end IsStableSort

end

/-- What holds between items in order holds between those that they are related to. -/
theorem pairwise_of_forall₂ {α β : Type} {R : α → β → Prop} {as : List α}
    {bs : List β} {S : α → α → Prop} {T : β → β → Prop} (related : List.Forall₂ R as bs)
    (pairwise : as.Pairwise S)
    (carry : ∀ a ∈ as, ∀ b, R a b → ∀ a' ∈ as, ∀ b', R a' b' → S a a' → T b b') :
    bs.Pairwise T := by
  obtain ⟨length, each⟩ := List.forall₂_iff_get.mp related
  rw [List.pairwise_iff_getElem] at pairwise ⊢
  intro i j hi hj lt
  have hi' := length ▸ hi
  have hj' := length ▸ hj
  exact carry _ (List.getElem_mem hi') _ (each i hi' hi) _ (List.getElem_mem hj') _ (each j hj' hj)
    (pairwise i j _ _ lt)

/-! ### Records with one identity -/

theorem hasDistinctNames_identity (keys : List String) {record : Record}
    (distinct : (Value.object record).HasDistinctNames) :
    (identity keys record).HasDistinctNames := by
  cases keys with
  | nil => exact distinct
  | cons key keys => exact AggregateConfig.hasDistinctNames_groupKey (key :: keys) distinct

theorem isKeyComparison_identity (keys : List String) {records : List Record}
    (distinct : ∀ record ∈ records, (Value.object record).HasDistinctNames) :
    IsKeyComparison (records.map (identity keys)) :=
  Value.isKeyComparison <| List.forall_mem_map.mpr fun record hrecord =>
    hasDistinctNames_identity keys (distinct record hrecord)

theorem sortRecords_perm (keys : List OrderBy) (records : List Record) :
    (sortRecords keys records).Perm records :=
  List.mergeSort_perm ..

/-- Without keys all records are equal, and stay where they are. -/
theorem sortRecords_nil (records : List Record) : sortRecords [] records = records :=
  List.mergeSort_of_pairwise (List.pairwise_of_forall fun _ _ => rfl)

namespace DeduplicateConfig

variable {config : DeduplicateConfig} {records members : List Record}

/-- The different identities, in the order in which they come up. -/
def identities (config : DeduplicateConfig) (records : List Record) : List Value :=
  (records.map (identity config.keys)).eraseDups

/-- The records with an identity. -/
def sharing (config : DeduplicateConfig) (records : List Record) (key : Value) : List Record :=
  records.filter fun record => identity config.keys record == key

/-- The record that is to be kept: the earliest of the least ones, or the
latest of the greatest ones. -/
def pick? (config : DeduplicateConfig) (members : List Record) : Option Record :=
  match config.keep with
  | .first => (leastOf (compareRecords config.orderBy) members).head?
  | .last => (greatestOf (compareRecords config.orderBy) members).getLast?

theorem chosen?_eq (config : DeduplicateConfig) (members : List Record) : config.chosen? members =
    match config.keep with
    | .first => (sortRecords config.orderBy members).head?
    | .last => (sortRecords config.orderBy members).getLast? := by
  rw [chosen?]
  cases config.orderBy with
  | nil => rw [sortRecords_nil]; rfl
  | cons key keys => rfl

/-- The end of a sorted group is the record that is to be kept of it. -/
theorem chosen?_eq_pick? (preorder : IsPreorderOn (compareRecords config.orderBy) members) :
    config.chosen? members = config.pick? members := by
  have stable : IsStableSort (compareRecords config.orderBy) members
      (sortRecords config.orderBy members) :=
    preorder.isStableSort_mergeSort
  rw [chosen?_eq, pick?]
  cases config.keep with
  | first => exact stable.head?_eq preorder
  | last => exact stable.getLast?_eq preorder

/-- Without an order the record that is to be kept is the first or the last one. -/
theorem pick?_of_unordered (unordered : config.orderBy = []) (members : List Record) :
    config.pick? members = match config.keep with
    | .first => members.head?
    | .last => members.getLast? := by
  have all (item : Record) : members.all (fun other => (compareRecords [] item other).isLE) = true ∧
      members.all (fun other => (compareRecords [] item other).isGE) = true := by
    simp [compareRecords]
  rw [pick?, unordered, leastOf, greatestOf, List.filter_eq_self.mpr fun item _ => (all item).1,
    List.filter_eq_self.mpr fun item _ => (all item).2]

/-- One of the records of a group is kept. -/
theorem exists_chosen? (config : DeduplicateConfig) (nonempty : members ≠ []) :
    ∃ record ∈ members, config.chosen? members = some record := by
  have perm := sortRecords_perm config.orderBy members
  have nonempty : sortRecords config.orderBy members ≠ [] :=
    fun empty => nonempty (perm.symm.trans (.of_eq empty)).eq_nil
  rw [chosen?_eq]
  cases config.keep with
  | first => exact ⟨_, perm.mem_iff.mp (List.head_mem nonempty), List.head?_eq_some_head nonempty⟩
  | last => exact ⟨_, perm.mem_iff.mp (List.getLast_mem nonempty),
    List.getLast?_eq_some_getLast nonempty⟩

theorem rows_eq (config : DeduplicateConfig) (records : List Record) :
    config.rows records = (gather (identity config.keys) records).filterMap fun group =>
      config.chosen? group.2 := rfl

/-- One record of each group is kept. -/
theorem forall₂_rows (config : DeduplicateConfig) (records : List Record) :
    List.Forall₂ (fun group record => record ∈ group.2 ∧ config.chosen? group.2 = some record)
      (gather (identity config.keys) records) (config.rows records) := by
  have nonempty : ∀ group ∈ gather (identity config.keys) records, group.2 ≠ [] := by
    intro group hgroup
    obtain ⟨first, others, rfl, -⟩ := eq_cons_of_mem_gather hgroup
    exact List.cons_ne_nil first others
  rw [rows_eq]
  generalize gather (identity config.keys) records = groups at nonempty ⊢
  induction groups with
  | nil => exact .nil
  | cons group groups ih =>
    obtain ⟨first, rest⟩ := List.forall_mem_cons.mp nonempty
    obtain ⟨record, hrecord, chosen⟩ := config.exists_chosen? first
    rw [List.filterMap_cons, chosen]
    exact .cons ⟨hrecord, chosen⟩ (ih rest)

/-- Records with different identities are all kept. -/
theorem rows_of_pairwise (apart : records.Pairwise fun record other =>
    (identity config.keys record == identity config.keys other) = false) : config.rows records =
      records := by
  rw [rows_eq, gather_of_pairwise apart, List.filterMap_map]
  refine (List.filterMap_congr fun record _ => ?_).trans List.filterMap_some
  rw [Function.comp_apply, chosen?_eq, sortRecords, List.mergeSort_singleton]
  cases config.keep <;> rfl

section

variable (distinct : ∀ record ∈ records, (Value.object record).HasDistinctNames)
  (known : ∀ record ∈ records, (identity config.keys record).IsNaNFree)

include distinct known

/-- The groups are those of the different identities. -/
theorem gather_identity : gather (identity config.keys) records =
    (config.identities records).map fun key => (key, config.sharing records key) :=
  gather_eq_byKey (isKeyComparison_identity config.keys distinct) <|
    List.forall_mem_map.mpr fun record hrecord =>
    Value.same_refl (known record hrecord)
      (hasDistinctNames_identity config.keys (distinct record hrecord))

/-- One record of each identity is kept. -/
theorem forall₂_identities : List.Forall₂ (fun key record => record ∈ config.sharing records key ∧
      config.chosen? (config.sharing records key) = some record)
    (config.identities records) (config.rows records) := by
  have kept := config.forall₂_rows records
  rwa [gather_identity distinct known, List.forall₂_map_left_iff] at kept

theorem pairwise_identities :
    (config.identities records).Pairwise fun key later => (key == later) = false := by
  have apart := pairwise_gather (identity config.keys) records
  rwa [gather_identity distinct known, List.pairwise_map] at apart

/-- The records that are kept have different identities. -/
theorem pairwise_rows : (config.rows records).Pairwise fun record other =>
    (identity config.keys record == identity config.keys other) = false := by
  have comparison := isKeyComparison_identity config.keys distinct
  refine pairwise_of_forall₂ (forall₂_identities distinct known)
    (pairwise_identities distinct known) ?_
  intro key hkey record kept later hlater other kept' apart
  obtain ⟨hrecord, same⟩ := List.mem_filter.mp kept.1
  obtain ⟨hother, same'⟩ := List.mem_filter.mp kept'.1
  have own {record : Record} (h : record ∈ records) :=
    List.mem_map_of_mem (f := identity config.keys) h
  obtain ⟨first, hfirst, rfl⟩ := exists_of_mem_eraseDups comparison hkey
  obtain ⟨first', hfirst', rfl⟩ := exists_of_mem_eraseDups comparison hlater
  rw [← apart, comparison.congr_left (own hrecord) (own hfirst) (own hother) same,
    comparison.congr_right (own hfirst) (own hother) (own hfirst') same']

/-- Each identity is that of a record that is kept. -/
theorem exists_same_identity {record : Record} (hrecord : record ∈ records) :
    ∃ other ∈ config.rows records, (identity config.keys other == identity config.keys record) =
      true := by
  have comparison := isKeyComparison_identity config.keys distinct
  have own {record : Record} (h : record ∈ records) :=
    List.mem_map_of_mem (f := identity config.keys) h
  -- The record is in the group of an identity, of which another record is kept.
  obtain ⟨group, hgroup, member⟩ :=
    List.mem_flatMap.mp ((flatMap_gather (identity config.keys) records).mem_iff.mpr hrecord)
  rw [gather_identity distinct known] at hgroup
  obtain ⟨key, hkey, rfl⟩ := List.mem_map.mp hgroup
  obtain ⟨first, hfirst, rfl⟩ := exists_of_mem_eraseDups comparison hkey
  obtain ⟨other, hother, kept, -⟩ := exists_of_forall₂ (forall₂_identities distinct known).flip hkey
  obtain ⟨inside, same⟩ := List.mem_filter.mp kept
  exact ⟨other, hother,
    comparison.of_same_right (own inside) (own hrecord) (own hfirst) same
    (List.mem_filter.mp member).2⟩

end

/-- **One right record is kept for each identity.** On records whose identities hold no NaN,
and whose values for the keys of the order hold no NaN and no integer beyond `2 ^ 53`, a
step that removes repetitions keeps one record for each of the different identities, in the
order in which they come up: of the records with this identity the earliest of the least
ones, or the latest of the greatest ones, which without an order are the first and the last
one. What is kept stays as it is. -/
theorem process_deduplicate (now : Timestamp) (config : DeduplicateConfig) (records : List Record)
    (distinct : ∀ record ∈ records, (Value.object record).HasDistinctNames)
    (known : ∀ record ∈ records, (identity config.keys record).IsNaNFree)
    (free : ∀ value ∈ valuesAt config.orderBy records, value.IsNaNFree)
    (small : ∀ i, .int i ∈ Value.parts (valuesAt config.orderBy records) →
      i.toInt.natAbs ≤ 2 ^ 53) :
    ∃ kept, StepConfig.process now [records] (.deduplicate config) = .ok ⟨kept, records.length⟩ ∧
      List.Forall₂ (fun key record => (identity config.keys record == key) = true ∧
          config.pick? (config.sharing records key) = some record)
            (config.identities records) kept ∧
      kept.Pairwise (fun record other =>
        (identity config.keys record == identity config.keys other) = false) ∧
      (∀ record ∈ records, ∃ other ∈ kept,
        (identity config.keys other == identity config.keys record) = true) ∧
      (config.orderBy = [] → ∀ members, config.pick? members = match config.keep with
        | .first => members.head?
        | .last => members.getLast?) ∧
      StepConfig.process now [kept] (.deduplicate config) = .ok ⟨kept, kept.length⟩ := by
  have preorder := isPreorderOn_compareRecords free (Value.integersStayApart_of_natAbs_le small)
  have apart := pairwise_rows distinct known
  have picked (key : Value) (record : Record) (kept : record ∈ config.sharing records key ∧
      config.chosen? (config.sharing records key) = some record) :
      (identity config.keys record == key) = true ∧
      config.pick? (config.sharing records key) = some record := by
    have within : config.sharing records key ⊆ records := List.filter_subset_self _
    exact ⟨(List.mem_filter.mp kept.1).2,
      (chosen?_eq_pick? (preorder.subset within)).symm.trans kept.2⟩
  refine ⟨_, rfl, (forall₂_identities distinct known).imp picked, apart,
    fun record => exists_same_identity distinct known, fun unordered =>
      pick?_of_unordered unordered, ?_⟩
  rw [StepConfig.process, StepConfig.onOne, rows_of_pairwise apart]

/-- The contacts with the latest visit of each person. -/
def latestContacts : DeduplicateConfig where
  source := "contacts"
  output := "latest"
  keys := ["person"]
  keep := .last
  orderBy := [⟨"visit", .ascending, .first⟩]

def contacts : List Record :=
  [[("person", .int 1), ("visit", .int 3), ("name", .text "Ann")], [("visit", .float 2.5)],
    [("person", .int 2), ("visit", .int 1)], [("visit", .int 3), ("person", .float 1.0)],
    [("person", .int 1), ("visit", .int 2)], [("person", .null), ("visit", .null)]]

def keptContacts : List Record :=
  [[("visit", .int 3), ("person", .float 1.0)], [("visit", .float 2.5)],
    [("person", .int 2), ("visit", .int 1)]]

theorem process_deduplicate_contacts :
    StepConfig.process .epoch [contacts] (.deduplicate latestContacts) = .ok ⟨keptContacts, 6⟩ ∧
    StepConfig.process .epoch [keptContacts] (.deduplicate latestContacts) =
      .ok ⟨keptContacts, 3⟩ := by
  have values : valuesAt latestContacts.orderBy contacts ⊆
      {.int 3, .float 2.5, .int 1, .int 2, .null} := by
    rintro value ⟨key, hkey, record, hrecord, found⟩
    simp only [latestContacts, contacts, List.mem_cons, List.not_mem_nil, or_false] at hkey hrecord
    rcases hkey with rfl
    rcases hrecord with rfl | rfl | rfl | rfl | rfl | rfl <;> cases found <;> simp
  have free : ∀ value ∈ valuesAt latestContacts.orderBy contacts, value.IsNaNFree := by
    intro value hvalue
    rcases values hvalue with rfl | rfl | rfl | rfl | rfl <;> decide
  have small (i : Int64) (h : .int i ∈ Value.parts (valuesAt latestContacts.orderBy contacts)) :
      i.toInt.natAbs ≤ 2 ^ 53 := by
    obtain ⟨value, hvalue, isPart⟩ := h
    rcases values hvalue with rfl | rfl | rfl | rfl | rfl <;> cases isPart <;> decide
  obtain ⟨kept, keeps, picked, -, -, -, again⟩ :=
    process_deduplicate .epoch latestContacts contacts (by decide) (by decide) free small
  have same : List.Forall₂ (· = ·)
      ((latestContacts.identities contacts).map fun key => latestContacts.pick?
        (latestContacts.sharing contacts key))
      (kept.map some) :=
    List.forall₂_map_left_iff.mpr (List.forall₂_map_right_iff.mpr (picked.imp fun _ _ h => h.2))
  rw [List.forall₂_eq_eq_eq] at same
  obtain rfl : keptContacts = kept :=
    List.map_injective_iff.mpr (Option.some_injective _) (Eq.trans rfl same)
  exact ⟨keeps, again⟩

end DeduplicateConfig

end RecordFlow
