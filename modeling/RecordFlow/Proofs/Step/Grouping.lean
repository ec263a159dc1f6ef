import RecordFlow.Proofs.Value.Equality
import RecordFlow.Step.Reshaping

/-!
# Groups of equal keys

Each item is in one group, the group of a key holds the items of that key in their order, and no two
groups have equal keys. A hash table, which compares only keys of the same hash, makes the same
groups, because equal values have the same hash.

## Main definitions

* `IsKeyComparison` — keys are compared by an equivalence
* `byKey` — the different keys of items, each with the items that have it
* `HashedKey` — a key of a hash table

## Main results

* `gather_flatMap` — runs of items with one key each are gathered again
* `flatMap_gather`, `eq_cons_of_mem_gather`, `pairwise_gather` — the groups and their keys
* `groupOf?_gather` — the group of a key
* `keepFirst_cons`, `map_head?_gather` — what is kept of items, and that the groups start with it
* `gather_eq_byKey` — the groups are those of the different keys
* `gather_view`, `groupOf?_view`, `keepFirst_view` — other keys that compare alike
* `same_isLawfulKeyComparison` — equality of values can be used for keys
-/

namespace RecordFlow

section

variable {α κ : Type} [BEq κ] {key : α → κ} {items : List α}

theorem gather_concat (key : α → κ) (items : List α) (item : α) :
    gather key (items ++ [item]) = addToGroup (key item) item (gather key items) := by
  rw [gather, List.foldl_append]
  rfl

/-- What holds of no groups, and of all groups after another item if it holds
before, holds of the groups. -/
@[elab_as_elim]
theorem gather_induction (key : α → κ) {motive : List α → List (κ × List α) → Prop}
    (none : motive [] []) (add : ∀ items item groups, motive items groups →
      motive (items ++ [item]) (addToGroup (key item) item groups))
    (items : List α) : motive items (gather key items) := by
  induction items using List.reverseRecOn with
  | nil => exact none
  | append_singleton items item ih =>
    rw [gather_concat]
    exact add items item _ ih

/-! ### Adding an item -/

theorem flatMap_addToGroup (k : κ) (item : α) (groups : List (κ × List α)) :
    ((addToGroup k item groups).flatMap Prod.snd).Perm (item :: groups.flatMap Prod.snd) := by
  induction groups with
  | nil => simp [addToGroup]
  | cons group groups ih =>
    rw [addToGroup]
    split
    · rw [List.flatMap_cons, List.flatMap_cons, List.append_assoc]
      exact List.perm_middle
    · rw [List.flatMap_cons, List.flatMap_cons]
      exact (ih.append_left _).trans List.perm_middle

/-- A group is there before an item is added, or it ends with the item. -/
theorem mem_addToGroup {k : κ} {item : α} {groups : List (κ × List α)} {group : κ × List α}
    (h : group ∈ addToGroup k item groups) : group ∈ groups ∨ group = (k, [item]) ∨
      ∃ members, (group.1, members) ∈ groups ∧ (group.1 == k) = true ∧
        group.2 = members ++ [item] := by
  induction groups with
  | nil => exact .inr (.inl (List.mem_singleton.mp h))
  | cons first groups ih =>
    rw [addToGroup] at h
    split at h
    · rename_i same
      rcases List.mem_cons.mp h with rfl | h
      · exact .inr (.inr ⟨_, List.mem_cons_self .., same, rfl⟩)
      · exact .inl (List.mem_cons_of_mem _ h)
    · rcases List.mem_cons.mp h with rfl | h
      · exact .inl (List.mem_cons_self ..)
      · rcases ih h with h | h | ⟨members, h, same⟩
        · exact .inl (List.mem_cons_of_mem _ h)
        · exact .inr (.inl h)
        · exact .inr (.inr ⟨members, List.mem_cons_of_mem _ h, same⟩)

/-! ### The groups -/

/-- Items are added to the first group if they have its key, and to the
groups behind it otherwise. -/
theorem foldl_addToGroup_cons (key : α → κ) (k : κ) (members : List α) (groups : List (κ × List α))
    (items : List α) :
    items.foldl (fun groups item => addToGroup (key item) item groups) ((k, members) :: groups) =
      (k, members ++ items.filter fun item => k == key item) ::
        (items.filter fun item => !(k == key item)).foldl
          (fun groups item => addToGroup (key item) item groups) groups := by
  induction items generalizing members groups with
  | nil => simp
  | cons item items ih =>
    rw [List.foldl_cons, addToGroup]
    by_cases same : (k == key item) = true
    · rw [if_pos same, ih]
      simp [same]
    · rw [if_neg same, ih]
      simp [same]

/-- The first group has the items with the key of the first item, and the
others are gathered behind it. -/
theorem gather_cons (key : α → κ) (item : α) (items : List α) : gather key (item :: items) =
    (key item, item :: items.filter fun other => key item == key other) ::
      gather key (items.filter fun other => !(key item == key other)) :=
  foldl_addToGroup_cons key (key item) [item] [] items

/-- Items with different keys are each in a group of their own. -/
theorem gather_of_pairwise
    (apart : items.Pairwise fun item other => (key item == key other) = false) :
    gather key items = items.map fun item => (key item, [item]) := by
  induction items with
  | nil => rfl
  | cons item items ih =>
    obtain ⟨first, apart⟩ := List.pairwise_cons.mp apart
    have none : items.filter (fun other => key item == key other) = [] :=
      List.filter_eq_nil_iff.mpr fun other hother => by simp [first other hother]
    have all : items.filter (fun other => !(key item == key other)) = items :=
      List.filter_eq_self.mpr fun other hother => by simp [first other hother]
    rw [gather_cons, none, all, ih apart]
    rfl

/-- Runs of items with one key each are gathered again if no key equals that of an earlier run. -/
theorem gather_flatMap {β : Type} {rows : β → List α} {runKey : β → κ} {runs : List β}
    (nonempty : ∀ run ∈ runs, rows run ≠ [])
    (same : ∀ run ∈ runs, ∀ row ∈ rows run, key row = runKey run)
    (refl : ∀ run ∈ runs, (runKey run == runKey run) = true)
    (apart : runs.Pairwise fun run later => (runKey run == runKey later) = false) :
    gather key (runs.flatMap rows) = runs.map fun run => (runKey run, rows run) := by
  induction runs with
  | nil => rfl
  | cons run runs ih =>
    obtain ⟨some, nonempty⟩ := List.forall_mem_cons.mp nonempty
    obtain ⟨own, same⟩ := List.forall_mem_cons.mp same
    obtain ⟨self, refl⟩ := List.forall_mem_cons.mp refl
    obtain ⟨first, apart⟩ := List.pairwise_cons.mp apart
    obtain ⟨head, tail, rowsEq⟩ := List.exists_cons_of_ne_nil some
    obtain ⟨hhead, htail⟩ := List.forall_mem_cons.mp (rowsEq ▸ own)
    have behind : ∀ row ∈ runs.flatMap rows, (runKey run == key row) = false := by
      intro row hrow
      obtain ⟨later, hlater, hrow⟩ := List.mem_flatMap.mp hrow
      rw [same later hlater row hrow, first later hlater]
    -- The rest of the first run is gathered with its first item, and all that is behind it is not.
    have together : (tail ++ runs.flatMap rows).filter (fun row => runKey run == key row) =
        tail := by
      rw [List.filter_append, List.filter_eq_self.mpr fun row hrow => by rw [htail row hrow, self],
        List.filter_eq_nil_iff.mpr fun row hrow => by simp [behind row hrow], List.append_nil]
    have others : (tail ++ runs.flatMap rows).filter (fun row => !(runKey run == key row)) =
        runs.flatMap rows := by
      rw [List.filter_append,
        List.filter_eq_nil_iff.mpr fun row hrow => by simp [htail row hrow, self],
        List.filter_eq_self.mpr fun row hrow => by simp [behind row hrow], List.nil_append]
    rw [List.flatMap_cons, rowsEq, List.cons_append, gather_cons, hhead, together, others,
      ih nonempty same refl apart, List.map_cons, rowsEq]

/-- The groups hold the items. -/
theorem flatMap_gather (key : α → κ) (items : List α) :
    ((gather key items).flatMap Prod.snd).Perm items := by
  induction items using gather_induction key with
  | none => exact .refl _
  | add items item groups ih =>
    refine (flatMap_addToGroup ..).trans ?_
    exact (ih.cons item).trans (List.perm_append_singleton ..).symm

/-- A group has the key of its first item, and that key equals the keys of the others. -/
theorem eq_cons_of_mem_gather {group : κ × List α} (h : group ∈ gather key items) :
    ∃ first others, group = (key first, first :: others) ∧
      ∀ item ∈ others, (key first == key item) = true := by
  induction items using gather_induction key generalizing group with
  | none => cases h
  | add items item groups ih =>
    rcases mem_addToGroup h with h | rfl | ⟨members, h, same, hmembers⟩
    · exact ih h
    · exact ⟨item, [], rfl, by simp⟩
    · obtain ⟨first, others, hgroup, each⟩ := ih h
      obtain ⟨hkey, rfl⟩ := Prod.mk.inj hgroup
      refine ⟨first, others ++ [item], Prod.ext hkey hmembers,
        List.forall_mem_append.mpr ⟨each, ?_⟩⟩
      simpa using hkey ▸ same

theorem keys_gather_subset (key : α → κ) (items : List α) :
    (gather key items).map Prod.fst ⊆ items.map key := by
  rintro _ hkey
  obtain ⟨group, hgroup, rfl⟩ := List.mem_map.mp hkey
  obtain ⟨first, others, rfl, -⟩ := eq_cons_of_mem_gather hgroup
  have held : first ∈ (gather key items).flatMap Prod.snd :=
    List.mem_flatMap.mpr ⟨_, hgroup, List.mem_cons_self ..⟩
  exact List.mem_map_of_mem ((flatMap_gather key items).mem_iff.mp held)

/-- A group is not that of an earlier key. -/
theorem pairwise_gather (key : α → κ) (items : List α) :
    (gather key items).Pairwise fun group later => (group.1 == later.1) = false := by
  induction items using gather_induction key with
  | none => exact .nil
  | add items item groups ih =>
    induction groups with
    | nil => exact List.pairwise_singleton ..
    | cons group groups ihgroups =>
      rw [List.pairwise_cons] at ih
      rw [addToGroup]
      split
      · exact List.pairwise_cons.mpr ih
      · rename_i different
        refine List.pairwise_cons.mpr ⟨fun later hlater => ?_, ihgroups ih.2⟩
        rcases mem_addToGroup hlater with h | rfl | ⟨members, h, -⟩
        · exact ih.1 later h
        · simpa using different
        · exact ih.1 (later.1, members) h

/-! ### The group of a key -/

/-- Keys are compared by an equivalence, except that a key may differ from itself. -/
structure IsKeyComparison (keys : List κ) : Prop where
  symm : ∀ k ∈ keys, ∀ l ∈ keys, (k == l) = true → (l == k) = true
  trans : ∀ k ∈ keys, ∀ l ∈ keys, ∀ m ∈ keys, (k == l) = true → (l == m) = true → (k == m) = true

namespace IsKeyComparison

variable {keys : List κ} {k l m : κ}

theorem subset (h : IsKeyComparison keys) {others : List κ} (within : others ⊆ keys) :
    IsKeyComparison others where
  symm k hk l hl := h.symm k (within hk) l (within hl)
  trans k hk l hl m hm := h.trans k (within hk) l (within hl) m (within hm)

theorem comm (h : IsKeyComparison keys) (hk : k ∈ keys) (hl : l ∈ keys) : (k == l) = (l == k) :=
  Bool.eq_iff_iff.mpr ⟨h.symm k hk l hl, h.symm l hl k hk⟩

theorem congr_left (h : IsKeyComparison keys) (hk : k ∈ keys) (hl : l ∈ keys) (hm : m ∈ keys)
    (same : (k == l) = true) : (k == m) = (l == m) :=
  Bool.eq_iff_iff.mpr
    ⟨h.trans l hl k hk m hm (h.symm k hk l hl same), h.trans k hk l hl m hm same⟩

theorem congr_right (h : IsKeyComparison keys) (hk : k ∈ keys) (hl : l ∈ keys) (hm : m ∈ keys)
    (same : (l == m) = true) : (k == l) = (k == m) :=
  Bool.eq_iff_iff.mpr
    ⟨fun left => h.trans k hk l hl m hm left same,
      fun left => h.trans k hk m hm l hl left (h.symm l hl m hm same)⟩

theorem of_same_right (h : IsKeyComparison keys) (hk : k ∈ keys) (hl : l ∈ keys) (hm : m ∈ keys)
    (left : (k == m) = true) (right : (l == m) = true) : (k == l) = true :=
  h.trans k hk m hm l hl left (h.symm l hl m hm right)

end IsKeyComparison

/-- An item is added to the group of its key, and to no other. -/
theorem groupOf?_addToGroup {k l : κ} {item : α} {groups : List (κ × List α)}
    (comparison : IsKeyComparison (k :: l :: groups.map Prod.fst)) :
    (groupOf? k (addToGroup l item groups)).getD [] =
      (groupOf? k groups).getD [] ++ if l == k then [item] else [] := by
  induction groups with
  | nil => by_cases same : (l == k) = true <;> simp [addToGroup, groupOf?, same]
  | cons group groups ih =>
    have ih :=
      ih (comparison.subset
        (List.cons_subset_cons _ (List.cons_subset_cons _ (List.subset_cons_self ..))))
    have hk : k ∈ k :: l :: (group :: groups).map Prod.fst := by simp
    have hl : l ∈ k :: l :: (group :: groups).map Prod.fst := by simp
    have hgroup : group.1 ∈ k :: l :: (group :: groups).map Prod.fst := by simp
    rw [groupOf?, groupOf?] at ih
    rw [addToGroup]
    by_cases into : (group.1 == l) = true
    · -- The group of the item is the wanted one if their keys are equal.
      have wanted := comparison.congr_left hgroup hl hk into
      rw [if_pos into, ← wanted]
      by_cases found : (group.1 == k) = true <;> simp [groupOf?, found]
    · by_cases found : (group.1 == k) = true
      · have other : ¬(l == k) = true :=
          fun same => into (comparison.of_same_right hgroup hl hk found same)
        simp [groupOf?, into, found, other]
      · simpa [groupOf?, into, found] using ih

/-- The group of a key holds the items of that key in their order. -/
theorem groupOf?_gather {k : κ} (comparison : IsKeyComparison (k :: items.map key)) :
    (groupOf? k (gather key items)).getD [] = items.filter fun item => key item == k := by
  induction items using List.reverseRecOn with
  | nil => rfl
  | append_singleton items item ih =>
    have ih := ih (comparison.subset (by simp))
    have keys := keys_gather_subset key items
    rw [gather_concat, groupOf?_addToGroup (comparison.subset ?_), ih, List.filter_append]
    · by_cases same : (key item == k) = true <;> simp [same]
    · grind

theorem groupOf?_map {β : Type} (f : List α → List β) (k : κ) (groups : List (κ × List α)) :
    groupOf? k (groups.map fun (key, members) => (key, f members)) = (groupOf? k groups).map f := by
  rw [groupOf?, groupOf?, List.find?_map, Option.map_map, Option.map_map]
  rfl

/-- A table of values of items, by the keys of those that have one. What is found for a key are the
values of the items with that key. -/
theorem groupOf?_keyed {β : Type} {key? : α → Option κ} (value : α → β) {k : κ}
    (comparison : IsKeyComparison (k :: items.filterMap key?)) :
    (groupOf? k ((gather Prod.fst (items.filterMap fun item => (key? item).map (·, value item))).map
      fun (key, members) => (key, members.map Prod.snd))).getD [] =
      (items.filter fun item => (key? item).any (· == k)).map value := by
  have keys : (items.filterMap fun item => (key? item).map (·, value item)).map Prod.fst =
      items.filterMap key? := by
    rw [List.map_filterMap]
    exact List.filterMap_congr fun item _ => by cases key? item <;> rfl
  have getD_map (found : Option (List (κ × β))) : (found.map (List.map Prod.snd)).getD [] =
      (found.getD []).map Prod.snd := by cases found <;> rfl
  rw [groupOf?_map, getD_map, groupOf?_gather (keys ▸ comparison)]
  clear comparison keys
  induction items with
  | nil => rfl
  | cons item items ih =>
    cases found : key? item with
    | none => simpa [found] using ih
    | some key => by_cases same : (key == k) = true <;> simpa [found, same] using ih

/-! ### The first items of equal keys -/

/-- What holds of no items, and of items if it holds of those behind the first one that differ from
it in their keys, holds of all items. -/
@[elab_as_elim]
theorem firstKey_induction (key : α → κ) {motive : List α → Prop} (none : motive [])
    (first : ∀ item items, motive (items.filter fun other => !(key item == key other)) →
      motive (item :: items)) (items : List α) : motive items := by
  induction h : items.length using Nat.strongRecOn generalizing items with
  | _ n ih =>
    cases items with
    | nil => exact none
    | cons item items =>
      have fewer := List.length_filter_le (fun other => !(key item == key other)) items
      refine first item items (ih _ ?_ _ rfl)
      rw [← h, List.length_cons]
      omega

/-- Items with a key that has been seen are left out. -/
theorem keepFirst_append_seen (key : α → κ) (items : List α) (front seen : List κ) :
    keepFirst key items (front ++ seen) =
      keepFirst key (items.filter fun item => !seen.any (· == key item)) front := by
  induction items generalizing front with
  | nil => rfl
  | cons item items ih =>
    rw [keepFirst, List.any_append]
    cases known : seen.any (· == key item) with
    | true => rw [Bool.or_true, if_pos rfl, ih, List.filter_cons_of_neg (by simp [known])]
    | false =>
      rw [Bool.or_false, List.filter_cons_of_pos (by simp [known]), keepFirst,
        ih, ← List.cons_append, ih]

/-- The first item is kept, and what is kept behind it differs from it. -/
theorem keepFirst_cons (key : α → κ) (item : α) (items : List α) :
    keepFirst key (item :: items) [] =
    item :: keepFirst key (items.filter fun other => !(key item == key other)) [] := by
  have behind := keepFirst_append_seen key items [] [key item]
  simp only [List.nil_append, List.any_cons, List.any_nil, Bool.or_false] at behind
  rw [keepFirst, behind]
  rfl

/-- To keep items by their keys is to keep their keys. -/
theorem map_keepFirst (key : α → κ) (items : List α) (seen : List κ) :
    (keepFirst key items seen).map key = keepFirst id (items.map key) seen := by
  induction items generalizing seen with
  | nil => rfl
  | cons item items ih =>
    rw [List.map_cons, keepFirst, keepFirst, id]
    split
    · exact ih seen
    · rw [List.map_cons, ih]

/-- The keys that are kept are the different ones. -/
theorem keepFirst_id_eq_eraseDups {keys : List κ} (comparison : IsKeyComparison keys) :
    keepFirst id keys [] = keys.eraseDups := by
  induction keys using firstKey_induction (id : κ → κ) with
  | none => simp [keepFirst]
  | first k keys ih =>
    have others : keys.filter (fun other => !(id k == id other)) =
        keys.filter fun other => !(other == k) :=
      List.filter_congr fun other hother =>
        congrArg _ (comparison.comm (List.mem_cons_self ..) (List.mem_cons_of_mem _ hother))
    have within : keys.filter (fun other => !(id k == id other)) ⊆ k :: keys :=
      List.subset_cons_of_subset _ (List.filter_subset_self _)
    rw [keepFirst_cons, ih (comparison.subset within), List.eraseDups_cons, others]

/-- The groups have the keys of the items that are kept, and each one starts
with the item that is kept. -/
theorem map_head?_gather (key : α → κ) (items : List α) :
    (gather key items).map (Prod.map id List.head?) = (keepFirst key items []).map fun item =>
      (key item, some item) := by
  induction items using firstKey_induction key with
  | none => rfl
  | first item items ih => rw [gather_cons, keepFirst_cons, List.map_cons, List.map_cons, ih]; rfl

theorem map_fst_gather_eq_keepFirst (key : α → κ) (items : List α) :
    (gather key items).map Prod.fst = keepFirst id (items.map key) [] := by
  have keys := congrArg (List.map Prod.fst) (map_head?_gather key items)
  rw [List.map_map, List.map_map] at keys
  exact keys.trans (map_keepFirst key items [])

/-! ### The groups of the different keys -/

/-- The keys of the groups are the different keys, in the order in which they come up. -/
theorem map_fst_gather (comparison : IsKeyComparison (items.map key)) :
    (gather key items).map Prod.fst = (items.map key).eraseDups := by
  rw [map_fst_gather_eq_keepFirst, keepFirst_id_eq_eraseDups comparison]

/-- Each of the different keys is that of an item. -/
theorem exists_of_mem_eraseDups (comparison : IsKeyComparison (items.map key)) {k : κ}
    (hk : k ∈ (items.map key).eraseDups) : ∃ item ∈ items, key item = k := by
  rw [← map_fst_gather comparison] at hk
  exact List.mem_map.mp (keys_gather_subset key items hk)

/-- Equal keys of groups are the same key. -/
theorem eq_of_same_of_mem_keys (comparison : IsKeyComparison (items.map key)) {k l : κ}
    (hk : k ∈ (gather key items).map Prod.fst) (hl : l ∈ (gather key items).map Prod.fst)
    (same : (k == l) = true) : k = l := by
  have back : (l == k) = true :=
    comparison.symm k (keys_gather_subset key items hk) l (keys_gather_subset key items hl) same
  have apart : ((gather key items).map Prod.fst).Pairwise fun k l => (k == l) = true →
      (l == k) = true → k = l :=
    List.pairwise_map.mpr ((pairwise_gather key items).imp fun different same => by
      simp [different] at same)
  have : Std.Symm fun k l : κ => (k == l) = true → (l == k) = true → k = l :=
    ⟨fun _ _ h left right => (h right left).symm⟩
  exact apart.forall_of_forall (fun _ _ _ _ => rfl) hk hl same back

/-- A group is found by its key, if that key equals itself. -/
theorem groupOf?_of_mem {groups : List (κ × List α)} {group : κ × List α} (hgroup : group ∈ groups)
    (apart : groups.Pairwise fun group later => (group.1 == later.1) = false)
    (self : (group.1 == group.1) = true) : groupOf? group.1 groups = some group.2 := by
  obtain ⟨front, back, rfl⟩ := List.append_of_mem hgroup
  have before : front.find? (fun other => other.1 == group.1) = none :=
    List.find?_eq_none.mpr fun other hother => by
      simpa using (List.pairwise_append.mp apart).2.2 other hother group (List.mem_cons_self ..)
  have here : (group :: back).find? (fun other => other.1 == group.1) = some group :=
    List.find?_cons_of_pos self
  rw [groupOf?, List.find?_append, before, Option.none_or, here, Option.map_some]

/-- The different keys of items in the order in which they come up, each
with the items that have it. -/
def byKey (key : α → κ) (items : List α) : List (κ × List α) :=
  (items.map key).eraseDups.map fun k => (k, items.filter fun item => key item == k)

/-- Items are gathered by their different keys, if each key equals itself. -/
theorem gather_eq_byKey (comparison : IsKeyComparison (items.map key))
    (refl : ∀ k ∈ items.map key, (k == k) = true) : gather key items = byKey key items := by
  have group (group : κ × List α) (hgroup : group ∈ gather key items) :
      (group.1, items.filter fun item => key item == group.1) = group := by
    have hkey := keys_gather_subset key items (List.mem_map_of_mem hgroup)
    have found :=
      groupOf?_gather (comparison.subset (List.cons_subset.mpr ⟨hkey, List.Subset.refl _⟩))
    rw [groupOf?_of_mem hgroup (pairwise_gather key items) (refl _ hkey)] at found
    exact Prod.ext rfl found.symm
  rw [byKey, ← map_fst_gather comparison, List.map_map]
  exact ((List.map_congr_left group).trans (List.map_id _)).symm

/-! ### Other keys that compare alike -/

section

variable {ν : Type} [BEq ν] {view : κ → ν}

theorem addToGroup_view {k : κ} {item : α} {groups : List (κ × List α)}
    (alike : ∀ group ∈ groups, (view group.1 == view k) = (group.1 == k)) :
    addToGroup (view k) item (groups.map (Prod.map view id)) =
      (addToGroup k item groups).map (Prod.map view id) := by
  induction groups with
  | nil => rfl
  | cons group groups ih =>
    obtain ⟨first, rest⟩ := List.forall_mem_cons.mp alike
    rw [List.map_cons, Prod.map, addToGroup, addToGroup, ih rest, first]
    split <;> rfl

/-- Items are gathered in the same way by other keys that compare alike. -/
theorem gather_view
    (alike : ∀ k ∈ items.map key, ∀ l ∈ items.map key, (view k == view l) = (k == l)) :
    gather (fun item => view (key item)) items = (gather key items).map (Prod.map view id) := by
  induction items using List.reverseRecOn with
  | nil => rfl
  | append_singleton items item ih =>
    rw [gather_concat, gather_concat, ih fun k hk l hl => alike k (by grind) l (by grind)]
    refine addToGroup_view fun group hgroup => ?_
    have hkey := keys_gather_subset key items (List.mem_map_of_mem hgroup)
    exact alike _ (by grind) _ (by grind)

theorem groupOf?_view {k : κ} {groups : List (κ × List α)}
    (alike : ∀ group ∈ groups, (view group.1 == view k) = (group.1 == k)) :
    groupOf? (view k) (groups.map (Prod.map view id)) = groupOf? k groups := by
  rw [groupOf?, groupOf?, List.find?_map, Option.map_map]
  exact congrArg (Option.map Prod.snd) (List.find?_congr alike)

theorem keepFirst_view {seen : List κ}
    (alike : ∀ k ∈ seen ++ items.map key, ∀ l ∈ items.map key, (view k == view l) = (k == l)) :
    keepFirst (fun item => view (key item)) items (seen.map view) = keepFirst key items seen := by
  induction items generalizing seen with
  | nil => rfl
  | cons item items ih =>
    have before : (seen.map view).any (· == view (key item)) = seen.any (· == key item) := by
      rw [List.any_map, Bool.eq_iff_iff, List.any_eq_true, List.any_eq_true]
      refine exists_congr fun k => and_congr_right fun hk => ?_
      rw [Function.comp_apply, alike k (by grind) _ (by grind)]
    rw [keepFirst, keepFirst, before, ih fun k hk l hl => alike k (by grind) l (by grind),
      ← List.map_cons, ih fun k hk l hl => alike k (by grind) l (by grind)]

end

end

/-! ### Keys that are values -/

/-- Lists of values are compared as one value is with another. -/
theorem beq_eq_list_same (xs ys : List Value) : (xs == ys) = (Value.list xs == Value.list ys) := by
  change xs.beq ys = Value.sameItems xs ys
  induction xs generalizing ys with
  | nil => cases ys <;> rfl
  | cons x xs ih =>
    cases ys with
    | nil => rfl
    | cons y ys =>
      rw [List.beq, Value.sameItems, ih]
      rfl

/-- Lists are equal if what is in front of their last values is, and these are. -/
theorem concat_beq_concat (xs ys : List Value) (x y : Value) :
    (xs ++ [x] == ys ++ [y]) = ((xs == ys) && (x == y)) := by
  induction xs generalizing ys with
  | nil =>
    cases ys with
    | nil => exact (Bool.and_true _).trans (Bool.true_and _).symm
    | cons z ys => cases ys <;> exact Bool.and_false _
  | cons z xs ih =>
    cases ys with
    | nil => cases xs <;> exact Bool.and_false _
    | cons w ys =>
      have cons (z w : Value) (xs ys : List Value) :
          (z :: xs == w :: ys) = ((z == w) && (xs == ys)) := rfl
      rw [List.cons_append, List.cons_append, cons, cons, ih, Bool.and_assoc]

/-- Values with distinct names are compared by an equivalence. -/
theorem Value.isKeyComparison {keys : List Value} (distinct : ∀ key ∈ keys, key.HasDistinctNames) :
    IsKeyComparison keys where
  symm k hk l hl := same_symm (distinct k hk) (distinct l hl)
  trans _ _ _ _ _ _ := same_trans

/-- Lists of such values are compared by an equivalence. -/
theorem isKeyComparison_of_hasDistinctNames {keys : List (List Value)}
    (distinct : ∀ key ∈ keys, (Value.list key).HasDistinctNames) : IsKeyComparison keys where
  symm k hk l hl same := by
    rw [beq_eq_list_same] at same ⊢
    exact Value.same_symm (distinct k hk) (distinct l hl) same
  trans k _ l _ m _ left right := by
    rw [beq_eq_list_same] at left right ⊢
    exact Value.same_trans left right

/-- A key of a hash table. Two keys are compared only if they have the same hash. -/
structure HashedKey where
  hash : UInt64
  value : Value

namespace HashedKey

instance : BEq HashedKey := ⟨fun k l => k.hash == l.hash && k.value == l.value⟩

/-- The key of a value, under a hash function. -/
def of (hash : List KeyItem → UInt64) (value : Value) : HashedKey := ⟨hash value.keyItems, value⟩

/-- To compare the hashes first makes no difference. -/
theorem of_beq_of (hash : List KeyItem → UInt64) {a b : Value} (ha : a.HasDistinctNames)
    (hb : b.HasDistinctNames) : (of hash a == of hash b) = (a == b) := by
  change (hash a.keyItems == hash b.keyItems && a == b) = (a == b)
  by_cases same : (a == b) = true
  · rw [Value.keyItems_eq_of_same ha hb same, beq_self_eq_true, Bool.true_and]
  · rw [Bool.eq_false_iff.mpr same, Bool.and_false]

/-- The key of a list of values, under a hash function. -/
def ofList (hash : List KeyItem → UInt64) (values : List Value) :
    HashedKey := of hash (.list values)

theorem ofList_beq_ofList (hash : List KeyItem → UInt64) {k l : List Value}
    (hk : (Value.list k).HasDistinctNames) (hl : (Value.list l).HasDistinctNames) :
    (ofList hash k == ofList hash l) = (k == l) := by
  rw [ofList, ofList, of_beq_of hash hk hl, beq_eq_list_same]

end HashedKey

open Value HashedKey in
/-- Equality of values is a lawful comparison of keys. It is an equivalence on the values
without NaN, an integer and a float are equal if they are the same number, and the order of the
fields of an object does not count. Equal values feed the same items to a hash function, so that
a hash table has the same groups as a comparison of all keys, finds the same group for a key,
and keeps the same items of a set. -/
theorem same_isLawfulKeyComparison :
    (∀ a : Value, a.IsNaNFree → a.HasDistinctNames → (a == a) = true) ∧
    (∀ a b : Value, a.HasDistinctNames → b.HasDistinctNames → (a == b) = true → (b == a) = true) ∧
    (∀ a b c : Value, (a == b) = true → (b == c) = true → (a == c) = true) ∧
    (∀ (i : Int64) (f : Float), (int i == float f) = true ↔
      RecordFlow.number? f = some ((i.toInt : ℝ) : EReal)) ∧
      (∀ xs ys : Record, (object xs).IsNaNFree → (object xs).HasDistinctNames → xs.Perm ys →
        (object xs == object ys) = true) ∧
    (∀ a b : Value, a.HasDistinctNames → b.HasDistinctNames → (a == b) = true →
      a.keyItems = b.keyItems) ∧
      (∀ (hash : List KeyItem → UInt64) (α : Type) (items : List α) (key : α → List Value),
      (∀ item ∈ items, (list (key item)).HasDistinctNames) →
      let groups := gather key items
      let hashed := gather (fun item => ofList hash (key item)) items
      hashed = groups.map (Prod.map (ofList hash) id) ∧
      groups.Pairwise (fun group later => (group.1 == later.1) = false) ∧
      ∀ k, (list k).HasDistinctNames → groupOf? (ofList hash k) hashed = groupOf? k groups) ∧
    (∀ (hash : List KeyItem → UInt64) (α : Type) (items : List α) (key : α → Value),
      (∀ item ∈ items, (key item).HasDistinctNames) →
      keepFirst (fun item => of hash (key item)) items [] = keepFirst key items []) := by
  refine ⟨fun a => same_refl, fun a b => same_symm, fun a b c => same_trans, ?_, ?_,
    fun a b => keyItems_eq_of_same, ?_, ?_⟩
  · intro i f
    rw [number_same_iff rfl]
    refine ⟨?_, fun same => ⟨_, rfl, same⟩⟩
    rintro ⟨x, hi, hf⟩
    exact hf.trans hi.symm
  · intro xs ys free distinct perm
    obtain ⟨nodup, each⟩ := hasDistinctNames_object_iff.mp distinct
    have nodupys : ys.names.Nodup := (perm.map Prod.fst).nodup_iff.mp nodup
    refine object_same_iff.mpr ⟨ys, rfl, perm.length_eq, fun field hfield => ⟨field.2, ?_, ?_⟩⟩
    · exact (lookup_eq_some_iff_mem nodupys).mpr (perm.mem_iff.mp hfield)
    · cases free with
      | object free => exact same_refl (free field hfield) (each field hfield)
  · intro hash α items key distinct groups hashed
    have distinct : ∀ k ∈ items.map key, (list k).HasDistinctNames := by simpa using distinct
    have same : hashed = groups.map (Prod.map (ofList hash) id) :=
      gather_view fun k hk l hl => ofList_beq_ofList hash (distinct k hk) (distinct l hl)
    refine ⟨same, pairwise_gather key items, fun k hk => ?_⟩
    rw [same]
    refine groupOf?_view fun group hgroup => ofList_beq_ofList hash (distinct _ ?_) hk
    exact keys_gather_subset key items (List.mem_map_of_mem hgroup)
  · intro hash α items key distinct
    have distinct : ∀ k ∈ items.map key, k.HasDistinctNames := by simpa using distinct
    exact keepFirst_view fun k (hk : k ∈ [] ++ items.map key) l hl =>
      of_beq_of hash (distinct k hk) (distinct l hl)

/-- A point with its fields in one order, with integers. -/
def Value.integerPoint : Value := .object [("x", .int 1), ("y", .list [.int 0, .float 0.5])]

/-- The same point with its fields in the other order, with floats. -/
def Value.floatPoint : Value :=
  .object [("y", .list [.float (-0.0), .float 0.5]), ("x", .float 1.0)]

theorem same_isLawfulKeyComparison_points :
    (Value.integerPoint == Value.integerPoint) = true ∧
      (Value.floatPoint == Value.integerPoint) = true ∧
      Value.integerPoint.keyItems = Value.floatPoint.keyItems ∧
      ∀ hash, gather (fun point => HashedKey.ofList hash [point])
      [Value.integerPoint, Value.floatPoint] =
        [(HashedKey.ofList hash [Value.integerPoint], [Value.integerPoint, Value.floatPoint])] := by
  have same : (Value.integerPoint == Value.floatPoint) = true := by decide +kernel
  have free : Value.integerPoint.IsNaNFree := by decide
  have integers : Value.integerPoint.HasDistinctNames := by decide
  have floats : Value.floatPoint.HasDistinctNames := by decide
  have keys : ∀ point ∈ [Value.integerPoint, Value.floatPoint],
    (Value.list [point]).HasDistinctNames := by decide
  obtain ⟨refl, symm, -, -, -, items, grouped, -⟩ := same_isLawfulKeyComparison
  refine ⟨refl _ free integers, symm _ _ integers floats same, items _ _ integers floats same,
    fun hash => ?_⟩
  refine (grouped hash Value _ (fun point => [point]) keys).1.trans ?_
  have together : ([Value.integerPoint] == [Value.floatPoint]) = true := by decide +kernel
  simp [gather, addToGroup, together]

end RecordFlow
