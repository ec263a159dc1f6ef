import RecordFlow.Store.Memory

/-!
# Collections by name

What it does to a collection to set or remove one, under the same name or under another.

## Main results

* `Collections.mem_put_iff`, `Collections.records?_put` — the names and the records behind a set
* `Collections.put_put`, `Collections.put_eq_self` — of two sets of one name the second one counts,
  and a set of what is there changes nothing
* `Collections.records?_removeAll_of_mem`, `Collections.records?_removeAll_of_not_mem` — what is
  found when some names are removed
* `Collections.nodup_put`, `Collections.nodup_remove` — no name occurs twice
-/

namespace RecordFlow

/-! ### Lists that are looked up -/

section

variable {α β : Type} [BEq α] [LawfulBEq α]

theorem lookup_eq_some_iff_mem {entries : List (α × β)} {key : α} {b : β}
    (nodup : (entries.map Prod.fst).Nodup) : entries.lookup key = some b ↔ (key, b) ∈ entries := by
  rw [List.lookup_eq_some_iff]
  constructor
  · rintro ⟨front, rest, rfl, -⟩
    exact List.mem_append_right _ (List.mem_cons_self ..)
  · intro hmem
    obtain ⟨front, rest, rfl⟩ := List.append_of_mem hmem
    rw [List.map_append, List.nodup_append] at nodup
    refine ⟨front, rest, rfl, fun other hother => ?_⟩
    have different := nodup.2.2 other.1 (List.mem_map_of_mem hother) key (List.mem_cons_self ..)
    simpa using different.symm

variable [DecidableEq α] (entries : List (α × β))

theorem lookup_cons_eq_ite (key : α) (b : β) (other : α) :
    ((key, b) :: entries).lookup other = if other = key then some b else entries.lookup other := by
  rw [List.lookup_cons]
  by_cases same : other = key
  · simp [same]
  · rw [if_neg same, beq_false_of_ne same]

theorem lookup_filter_ne (key other : α) :
    (entries.filter (·.1 != key)).lookup other = if other =
      key then none else entries.lookup other := by
  induction entries with
  | nil => simp
  | cons entry entries ih =>
    obtain ⟨first, b⟩ := entry
    rw [lookup_cons_eq_ite]
    by_cases removed : first = key
    · rw [List.filter_cons_of_neg (by simpa using removed), ih, removed]
      split <;> rfl
    · rw [List.filter_cons_of_pos (by simpa using removed), lookup_cons_eq_ite, ih]
      by_cases same : other = first
      · rw [if_pos same, if_pos same, if_neg (same ▸ removed)]
      · rw [if_neg same, if_neg same]

end

namespace Collections

variable {collections : Collections} {name other : String} {records : List Record}

theorem records?_cons (other : String) (records : List Record)
    (rest : Collections) (name : String) :
    records? ((other, records) :: rest) name = if name =
      other then some records else rest.records? name :=
  lookup_cons_eq_ite rest other records name

theorem mem_put_iff : other ∈ (collections.put name records).map Prod.fst ↔
    other ∈ collections.map Prod.fst ∨ other = name := by
  induction collections with
  | nil => simp [put]
  | cons entry rest ih =>
    rw [put]
    by_cases h : entry.1 = name
    · rw [if_pos h, ← h]
      simp only [List.map_cons, List.mem_cons]
      exact ⟨.inl, fun hmem => hmem.elim id .inl⟩
    · rw [if_neg h]
      simp only [List.map_cons, List.mem_cons, ih, or_assoc]

theorem records?_put : (collections.put name records).records? other =
    if other = name then some records else collections.records? other := by
  induction collections with
  | nil => rw [put, records?_cons]
  | cons entry rest ih =>
    rw [put]
    by_cases h : entry.1 = name
    · rw [if_pos h, records?_cons, records?_cons, h]
      by_cases hother : other = name
      · simp only [hother, if_true]
      · simp only [hother, if_false]
    · rw [if_neg h, records?_cons, records?_cons, ih]
      by_cases hother : other = entry.1
      · rw [if_pos hother, if_pos hother, if_neg (hother ▸ h)]
      · rw [if_neg hother, if_neg hother]

theorem records?_put_self (collections : Collections) (name : String) (records : List Record) :
    (collections.put name records).records? name = some records := by
  rw [records?_put, if_pos rfl]

theorem records?_put_of_ne (h : other ≠ name) :
    (collections.put name records).records? other = collections.records? other := by
  rw [records?_put, if_neg h]

/-- Of two sets of one name the second one counts. -/
theorem put_put (old : List Record) :
    (collections.put name old).put name records = collections.put name records := by
  induction collections with
  | nil => simp [put]
  | cons entry rest ih => by_cases h : entry.1 = name <;> simp [put, h, ih]

/-- A set of what is there changes nothing. -/
theorem put_eq_self (h : collections.records? name = some records) :
    collections.put name records = collections := by
  induction collections with
  | nil => cases h
  | cons entry rest ih =>
    obtain ⟨other, kept⟩ := entry
    -- Both walks stop at the first collection of the name.
    rw [records?_cons] at h
    rw [put]
    by_cases same : name = other
    · rw [if_pos same, Option.some.injEq] at h
      rw [if_pos same.symm, h]
    · rw [if_neg same] at h
      rw [if_neg (Ne.symm same), ih h]

/-- Removes several collections. -/
def removeAll (collections : Collections) (names : List String) : Collections :=
  collections.filter (!names.contains ·.1)

@[simp] theorem removeAll_nil (collections : Collections) :
    collections.removeAll [] = collections :=
  List.filter_eq_self.mpr fun _ _ => rfl

theorem removeAll_cons (collections : Collections) (name : String) (names : List String) :
    collections.removeAll (name :: names) = (collections.remove name).removeAll names := by
  rw [removeAll, removeAll, remove, List.filter_filter]
  refine List.filter_congr fun entry _ => ?_
  by_cases h : entry.1 = name <;> simp [h]

theorem records?_eq_none_iff :
    collections.records? name = none ↔ ∀ entry ∈ collections, entry.1 ≠ name := by
  rw [records?, List.lookup_eq_none_iff]
  simp only [bne_iff_ne, ne_comm]

theorem records?_eq_none_iff_not_mem :
    collections.records? name = none ↔ name ∉ collections.map Prod.fst := by
  rw [records?_eq_none_iff, List.mem_map]
  exact ⟨fun absent ⟨entry, hentry, same⟩ => absent entry hentry same,
    fun absent entry hentry same => absent ⟨entry, hentry, same⟩⟩

/-- Names that no collection has are removed without effect. -/
theorem removeAll_eq_self {names : List String}
    (h : ∀ name ∈ names, collections.records? name = none) :
    collections.removeAll names = collections := by
  refine List.filter_eq_self.mpr fun entry hentry => ?_
  have : entry.1 ∉ names := fun hmem => records?_eq_none_iff.mp (h entry.1 hmem) entry hentry rfl
  simpa using this

theorem remove_eq_self (h : collections.records? name = none) :
    collections.remove name = collections := by
  have := removeAll_eq_self (List.forall_mem_singleton.mpr h)
  rwa [removeAll_cons, removeAll_nil] at this

theorem records?_removeAll_of_mem {names : List String} (h : name ∈ names) :
    (collections.removeAll names).records? name = none := by
  refine records?_eq_none_iff.mpr ?_
  rintro entry hentry rfl
  have kept := (List.mem_filter.mp hentry).2
  simp [h] at kept

theorem records?_removeAll_of_not_mem {names : List String} (h : name ∉ names) :
    (collections.removeAll names).records? name = collections.records? name := by
  induction collections with
  | nil => rfl
  | cons entry rest ih =>
    obtain ⟨other, records⟩ := entry
    rw [removeAll, List.filter_cons, records?_cons]
    by_cases hother : other ∈ names
    · have different : name ≠ other := fun same => h (same ▸ hother)
      rw [if_neg (by simpa using hother), if_neg different, ← ih, removeAll]
    · rw [if_pos (by simpa using hother), records?_cons, ← removeAll, ih]

theorem records?_remove : (collections.remove name).records? other =
    if other = name then none else collections.records? other :=
  lookup_filter_ne collections name other

/-! ### Names that occur once -/

theorem nodup_put (nodup : (collections.map Prod.fst).Nodup) :
    ((collections.put name records).map Prod.fst).Nodup := by
  induction collections with
  | nil => exact List.pairwise_singleton _ _
  | cons entry rest ih =>
    rw [List.map_cons, List.nodup_cons] at nodup
    obtain ⟨new, others⟩ := nodup
    rw [put]
    by_cases h : entry.1 = name
    · rw [if_pos h, List.map_cons, List.nodup_cons]
      exact ⟨new, others⟩
    · rw [if_neg h, List.map_cons, List.nodup_cons, mem_put_iff]
      exact ⟨not_or.mpr ⟨new, h⟩, ih others⟩

theorem nodup_remove (nodup : (collections.map Prod.fst).Nodup) :
    ((collections.remove name).map Prod.fst).Nodup :=
  nodup.sublist (List.filter_sublist.map Prod.fst)

end Collections

end RecordFlow
