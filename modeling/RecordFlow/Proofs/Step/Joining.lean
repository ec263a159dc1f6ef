import RecordFlow.Proofs.Step.Grouping
import RecordFlow.Proofs.Value.Path
import RecordFlow.Step.Process

/-!
# Joins as nested loops

A join looks up the records of the right side by their keys. It has the rows that a comparison of
each record of the left side with each one of the right side has, in the same order.

## Main definitions

* `JoinConfig.agree` — a record of the left side matches one of the right side
* `JoinConfig.nestedRows` — the rows of two nested loops

## Main results

* `JoinConfig.matchesOf_index` — what is found by a key is what matches
* `JoinConfig.rows_eq_nestedRows` — a join has the rows of the nested loops
-/

namespace RecordFlow

/-- Whether the fields of a pair are there in two records, not null, and equal. -/
def JoinKey.agree (key : JoinKey) (left right : Record) : Bool :=
  match left.getPath? key.left, right.getPath? key.right with
  | some l, some r => !l.isNull && !r.isNull && l == r
  | _, _ => false

namespace JoinConfig

/-- Whether a record of the left side matches one of the right side. -/
def agree (config : JoinConfig) (left right : Record) : Bool := config.on.all (·.agree left right)

/-- The fields of a record under the names that they have in a row. -/
def named (front : Option String) (record : Record) : List (String × Value) :=
  record.map fun (name, value) => (front.getD "" ++ name, value)

/-- The rows of two nested loops. A later field of a row replaces an
earlier one of the same name. -/
def nestedRows (config : JoinConfig) (left right : List Record) : List Record :=
  let takenLeft := project config.select.left
  let takenRight := project config.select.right
  let prefixes := config.effectivePrefixes (left.map takenLeft) (right.map takenRight)
  let leftRows := left.flatMap fun l =>
    match right.filter (config.agree l) with
    | [] => if config.keepsLeft then [Record.ofFields (named prefixes.1 (takenLeft l))] else []
    | found => found.map fun r =>
      Record.ofFields (named prefixes.1 (takenLeft l) ++ named prefixes.2 (takenRight r))
  let unmatched := right.filter fun r => !left.any (config.agree · r)
  let rightRows := unmatched.map fun r => Record.ofFields (named prefixes.2 (takenRight r))
  leftRows ++ if config.keepsRight then rightRows else []

end JoinConfig

/-! ### Keys -/

section

variable {record left right : Record} {fields : List String} {key : List Value}

theorem fullKey?_cons (field : String) (fields : List String) (record : Record) :
    fullKey? (field :: fields) record =
      ((record.getPath? field).filter (!·.isNull)).bind fun value =>
      (fullKey? fields record).map (value :: ·) := by
  rw [fullKey?, List.mapM_cons, fullKey?]
  cases (record.getPath? field).filter (!·.isNull) with
  | none => rfl
  | some value => exact Option.map_eq_bind.symm

theorem hasDistinctNames_of_fullKey? (distinct : (Value.object record).HasDistinctNames)
    (h : fullKey? fields record = some key) : (Value.list key).HasDistinctNames := by
  induction fields generalizing key with
  | nil =>
    obtain rfl : [] = key := Option.some.inj h
    exact .list (by simp)
  | cons field fields ih =>
    rw [fullKey?_cons] at h
    obtain ⟨value, hvalue, h⟩ := Option.bind_eq_some_iff.mp h
    obtain ⟨rest, hrest, rfl⟩ := Option.map_eq_some_iff.mp h
    have first :=
      record.hasDistinctNames_of_getPath? distinct (Option.filter_eq_some_iff.mp hvalue).1
    exact .list (List.forall_mem_cons.mpr ⟨first, Value.hasDistinctNames_list_iff.mp (ih hrest)⟩)

theorem JoinKey.agree_iff {key : JoinKey} : key.agree left right = true ↔
    ∃ l r, (left.getPath? key.left).filter (!·.isNull) = some l ∧
      (right.getPath? key.right).filter (!·.isNull) = some r ∧ (l == r) = true := by
  rw [agree]
  cases left.getPath? key.left <;> cases right.getPath? key.right <;>
    simp [Option.filter_eq_some_iff, and_assoc]

/-- Records match if they have equal keys. -/
theorem all_agree_iff {on : List JoinKey} : on.all (·.agree left right) = true ↔
    ∃ k l, fullKey? (on.map JoinKey.left) left = some k ∧
      fullKey? (on.map JoinKey.right) right = some l ∧ (k == l) = true := by
  induction on with
  | nil => exact ⟨fun _ => ⟨[], [], rfl, rfl, rfl⟩, fun _ => rfl⟩
  | cons key on ih =>
    rw [List.all_cons, Bool.and_eq_true, ih, JoinKey.agree_iff, List.map_cons,
      List.map_cons, fullKey?_cons, fullKey?_cons]
    constructor
    · rintro ⟨⟨x, y, hx, hy, same⟩, k, l, hk, hl, rest⟩
      refine ⟨x :: k, y :: l, by rw [hx, hk]; rfl, by rw [hy, hl]; rfl, ?_⟩
      rw [List.cons_beq_cons, same, rest]
      rfl
    · rintro ⟨k, l, hk, hl, same⟩
      obtain ⟨x, hx, hk⟩ := Option.bind_eq_some_iff.mp hk
      obtain ⟨ks, hks, rfl⟩ := Option.map_eq_some_iff.mp hk
      obtain ⟨y, hy, hl⟩ := Option.bind_eq_some_iff.mp hl
      obtain ⟨ls, hls, rfl⟩ := Option.map_eq_some_iff.mp hl
      rw [List.cons_beq_cons, Bool.and_eq_true] at same
      exact ⟨⟨x, y, hx, hy, same.1⟩, ks, ls, hks, hls, same.2⟩

end

namespace JoinConfig

variable {config : JoinConfig} {left right : List Record}

/-! ### What is found by a key -/

/-- A record matches those that have its key. -/
theorem agree_eq {l r : Record} {k : List Value}
    (key : fullKey? (config.on.map JoinKey.left) l = some k)
    (hl : (Value.object l).HasDistinctNames) (hr : (Value.object r).HasDistinctNames) :
    config.agree l r = (fullKey? (config.on.map JoinKey.right) r).any (· == k) := by
  rw [Bool.eq_iff_iff, agree, all_agree_iff, key, Option.any_eq_true]
  refine ⟨?_, fun ⟨m, hm, same⟩ => ⟨k, m, rfl, hm, ?_⟩⟩
  · rintro ⟨_, m, h, hm, same⟩
    obtain rfl := Option.some.inj h
    refine ⟨m, hm, ?_⟩
    rw [beq_eq_list_same] at same ⊢
    exact Value.same_symm (hasDistinctNames_of_fullKey? hl key)
      (hasDistinctNames_of_fullKey? hr hm) same
  · rw [beq_eq_list_same] at same ⊢
    exact Value.same_symm (hasDistinctNames_of_fullKey? hr hm)
      (hasDistinctNames_of_fullKey? hl key) same

theorem agree_eq_false {l : Record} (key : fullKey? (config.on.map JoinKey.left) l = none)
    (r : Record) : config.agree l r = false := by
  rw [Bool.eq_false_iff]
  intro agree
  obtain ⟨k, -, hk, -⟩ := all_agree_iff.mp agree
  exact Option.some_ne_none k (hk.symm.trans key)

/-- The places that are found for a record are those of the records that match it. -/
theorem matchesOf_index (distinct : ∀ record ∈ right, (Value.object record).HasDistinctNames)
    {l : Record} (hl : (Value.object l).HasDistinctNames) :
    config.matchesOf (config.index right) l =
      (right.zipIdx.filter fun (r, _) => config.agree l r).map Prod.snd := by
  rw [matchesOf]
  cases key : fullKey? (config.on.map JoinKey.left) l with
  | none => simp [agree_eq_false key]
  | some k =>
    refine (groupOf?_keyed Prod.snd (isKeyComparison_of_hasDistinctNames ?_)).trans ?_
    · -- The keys are values of records, in which names are distinct.
      refine List.forall_mem_cons.mpr ⟨hasDistinctNames_of_fullKey? hl key, fun m hm => ?_⟩
      obtain ⟨entry, hentry, h⟩ := List.mem_filterMap.mp hm
      exact hasDistinctNames_of_fullKey? (distinct entry.1 (List.fst_mem_of_mem_zipIdx hentry)) h
    · refine congrArg _ (List.filter_congr fun entry hentry => ?_)
      exact (agree_eq key hl (distinct _ (List.fst_mem_of_mem_zipIdx hentry))).symm

/-! ### The rows -/

theorem addFields_eq (front : Option String) (row fields : Record) : addFields front row fields =
    (named front fields).foldl (fun row (name, value) => row.insert name value) row := by
  rw [addFields, named, List.foldl_map]

section

variable (prefixes : Option String × Option String) (l r : Record)

theorem merge_both : merge prefixes (some l) (some r) =
    Record.ofFields (named prefixes.1 l ++ named prefixes.2 r) := by
  rw [merge, addFields_eq, addFields_eq, Record.ofFields, List.foldl_append]
  rfl

theorem merge_left : merge prefixes (some l) none = Record.ofFields (named prefixes.1 l) := by
  rw [merge, addFields_eq, addFields_eq]
  rfl

theorem merge_right : merge prefixes none (some r) = Record.ofFields (named prefixes.2 r) := by
  rw [merge, addFields_eq, addFields_eq]
  rfl

end

theorem filter_eq_map_zipIdx (records : List Record) (select : Record → Bool) :
    records.filter select =
      (records.zipIdx.filter fun (record, _) => select record).map Prod.fst := by
  conv_lhs => rw [← List.zipIdx_map_fst 0 records, List.filter_map]
  rfl

/-- The rows of a record with what is found for it. -/
theorem leftRows_eq {found : List (Record × ℕ)} (h : found ⊆ right.zipIdx) (take : Record → Record)
    (row : Option Record → Record) (alone : List Record) :
    (match found.map Prod.snd with
      | [] => alone
      | places => places.map fun place => row (right.map take)[place]?) =
    match found.map Prod.fst with
      | [] => alone
      | records => records.map fun r => row (some (take r)) := by
  have each (entry : Record × ℕ) (hentry : entry ∈ found) :
      (right.map take)[entry.2]? = some (take entry.1) := by
    rw [List.getElem?_map, List.mk_mem_zipIdx_iff_getElem?.mp (h hentry)]
    rfl
  cases found with
  | nil => rfl
  | cons entry found =>
    simp only [List.map_cons, List.map_map]
    rw [each entry (List.mem_cons_self ..)]
    refine congrArg _ (List.map_congr_left fun other hother => ?_)
    rw [Function.comp_apply, Function.comp_apply, each other (List.mem_cons_of_mem _ hother)]

/-- A place is found if its record matches one of the left side. -/
theorem contains_matches (distinctLeft : ∀ record ∈ left, (Value.object record).HasDistinctNames)
    (distinctRight : ∀ record ∈ right, (Value.object record).HasDistinctNames)
    {r : Record} {place : ℕ} (h : (r, place) ∈ right.zipIdx) :
    (left.map (config.matchesOf (config.index right))).flatten.contains place =
      left.any (config.agree · r) := by
  rw [Bool.eq_iff_iff, List.contains_iff_mem, List.mem_flatten, List.any_eq_true]
  constructor
  · rintro ⟨_, hplaces, hplace⟩
    obtain ⟨l, hl, rfl⟩ := List.mem_map.mp hplaces
    rw [matchesOf_index distinctRight (distinctLeft l hl)] at hplace
    obtain ⟨⟨r', _⟩, hr', rfl⟩ := List.mem_map.mp hplace
    obtain ⟨hr', agree⟩ := List.mem_filter.mp hr'
    have same :=
      (List.mk_mem_zipIdx_iff_getElem?.mp hr').symm.trans (List.mk_mem_zipIdx_iff_getElem?.mp h)
    exact ⟨l, hl, Option.some.inj same ▸ agree⟩
  · rintro ⟨l, hl, agree⟩
    refine ⟨_, List.mem_map_of_mem hl, ?_⟩
    rw [matchesOf_index distinctRight (distinctLeft l hl)]
    exact List.mem_map.mpr ⟨(r, place), List.mem_filter.mpr ⟨h, agree⟩, rfl⟩

/-- A join has the rows of two nested loops. -/
theorem rows_eq_nestedRows (distinctLeft : ∀ record ∈ left, (Value.object record).HasDistinctNames)
    (distinctRight : ∀ record ∈ right, (Value.object record).HasDistinctNames) :
    config.rows left right = config.nestedRows left right := by
  simp only [rows, nestedRows]
  generalize config.effectivePrefixes _ _ = prefixes
  congr 1
  · rw [List.zip_map', List.flatMap_map]
    refine List.flatMap_congr fun l hl => ?_
    simp only [matchesOf_index distinctRight (distinctLeft l hl), ← merge_left, ← merge_both]
    refine (leftRows_eq (fun entry h => (List.mem_filter.mp h).1)
      _ (merge prefixes (some _)) _).trans ?_
    rw [← filter_eq_map_zipIdx]
  · split
    · rw [List.zipIdx_map, List.filterMap_map]
      conv_rhs => rw [filter_eq_map_zipIdx, List.map_map,
        ← List.filterMap_eq_map, List.filterMap_filter]
      refine List.filterMap_congr fun ⟨r, place⟩ hr => ?_
      simp only [Function.comp_apply, Prod.map, id, contains_matches distinctLeft distinctRight hr,
        merge_right]
      cases left.any (config.agree · r) <;> rfl
    · rfl

/-- A join on fields has the rows of two nested loops: in the order of the left side one row for
each record of the right side that it matches, in their order, or a row of its own if there is none
and such records are kept, and behind them the records of the right side that match nothing, if
those are kept. In a row the fields of the right side replace those of the left side. -/
theorem process_join (now : Timestamp) (config : JoinConfig) (on : config.on ≠ [])
    (left right : List Record)
    (distinctLeft : ∀ record ∈ left, (Value.object record).HasDistinctNames)
    (distinctRight : ∀ record ∈ right, (Value.object record).HasDistinctNames) :
    StepConfig.process now [left, right] (.join config) =
      .ok ⟨config.nestedRows left right, left.length + right.length⟩ ∧
    ∀ (front back : Option String) (l r : Record) (name : String),
      (Record.ofFields (named front l ++ named back r)).get? name =
        ((named back r).reverse.lookup name).or ((named front l).reverse.lookup name) := by
  constructor
  · rw [StepConfig.process, if_neg (by simpa using on),
      rows_eq_nestedRows distinctLeft distinctRight]
  · intro front back l r name
    rw [Record.get?_ofFields, List.reverse_append, List.lookup_append]

/-- A full join on two fields, with a prefix for the right side. -/
def ordersOfUsers : JoinConfig where
  left := "users"
  right := "orders"
  output := "joined"
  on := [⟨"id", "user"⟩, ⟨"site", "site"⟩]
  kind := .full
  select := ⟨some ["name"], some ["name"]⟩
  prefixes := ⟨none, some "order."⟩

def users : List Record :=
  [[("id", .int 1), ("site", .text "a"), ("name", .text "Alice")],
    [("id", .null), ("site", .text "a"), ("name", .text "Bob")]]

def orders : List Record :=
  [[("user", .null), ("site", .text "a"), ("name", .text "none")],
    [("user", .float 1.0), ("site", .text "a"), ("name", .text "first")],
    [("user", .int 1), ("site", .text "a"), ("name", .text "second")]]

theorem process_join_orders : StepConfig.process .epoch [users, orders] (.join ordersOfUsers) =
    .ok ⟨[[("name", .text "Alice"), ("order.name", .text "first")],
      [("name", .text "Alice"), ("order.name", .text "second")], [("name", .text "Bob")],
      [("order.name", .text "none")]], 5⟩ := by
  refine (process_join _ ordersOfUsers (by decide) users orders (by decide) (by decide)).1.trans ?_
  rfl

end JoinConfig

end RecordFlow
