import RecordFlow.Proofs.Step.Joining

/-!
# Joins with prefixes

Prefixes keep the fields of both sides of a join apart where names of the two sides are the same.
They are put in front of all names of a side, which may make a name that the other side has. A row
then has a single field for both.

## Main definitions

* `Record.clashing` — the fields of a record whose names another one has too
* `Record.LosesNoField` — a record has all fields of two others
* `JoinConfig.leftFields`, `JoinConfig.rightFields` — the fields of a
  record under their names in a row
* `JoinConfig.matchedRow`, `JoinConfig.matchedRows` — the rows of records that match

## Main results

* `Record.losesNoField_overwrite_iff` — no field is lost where no name is the same
* `JoinConfig.disjoint_of_not_isPrefix` — prefixes that are no beginnings of
  each other keep all names apart
* `JoinConfig.process_join_prefixes` — what the matched rows of a join lose
-/

namespace RecordFlow

/-! ### Records that overwrite others -/

namespace Record

/-- The fields of a record whose names another one has too. -/
def clashing (record other : Record) : List (String × Value) := record.filter (·.1 ∈ other.names)

/-- A row has all fields of two records, and no others. -/
structure LosesNoField (row left right : Record) : Prop where
  length : row.length = left.length + right.length
  ofLeft : ∀ field ∈ left, row.get? field.1 = some field.2
  ofRight : ∀ field ∈ right, row.get? field.1 = some field.2

variable {record other : Record}

theorem clashing_eq_nil_iff : record.clashing other = [] ↔ other.names.Disjoint record.names := by
  have each : record.names.Disjoint other.names ↔ ∀ field ∈ record, field.1 ∉ other.names :=
    List.disjoint_left.trans List.forall_mem_map
  rw [clashing, List.filter_eq_nil_iff, List.disjoint_comm, each]
  simp only [decide_eq_true_eq]

/-- Fields that take the place of others add none. -/
theorem length_overwrite (record : Record) (nodup : other.names.Nodup) :
    (record.overwrite other).length + (other.clashing record).length =
      record.length + other.length := by
  have new : (other.names.filter (· ∉ record.names)).length =
      (other.filter fun field => !decide (field.1 ∈ record.names)).length := by
    change ((other.map Prod.fst).filter _).length = _
    simp [List.filter_map, Function.comp_def]
  have length : (record.overwrite other).length =
      record.length + (other.names.filter (· ∉ record.names)).length := by
    simpa [names] using congrArg List.length (names_overwrite record nodup)
  rw [clashing, length, new,
    List.length_eq_length_filter_add (l := other) fun field => field.1 ∈ record.names]
  omega

/-- The fields of the overwriting record are there. -/
theorem get?_overwrite_of_mem (record : Record) (nodup : other.names.Nodup) {field : String × Value}
    (h : field ∈ other) : (record.overwrite other).get? field.1 = some field.2 := by
  have found : other.get? field.1 = some field.2 := (lookup_eq_some_iff_mem nodup).mpr h
  rw [get?_overwrite record nodup, found, Option.some_or]

/-- A field that is not overwritten is still there. -/
theorem get?_overwrite_of_notMem (nodup : record.names.Nodup) (nodupOther : other.names.Nodup)
    {field : String × Value} (h : field ∈ record) (kept : field.1 ∉ other.names) :
    (record.overwrite other).get? field.1 = some field.2 := by
  have found : record.get? field.1 = some field.2 := (lookup_eq_some_iff_mem nodup).mpr h
  rw [get?_overwrite record nodupOther, get?_eq_none_iff.mpr kept, Option.none_or, found]

/-- No field is lost where no name is the same. -/
theorem losesNoField_overwrite_iff (nodup : record.names.Nodup) (nodupOther : other.names.Nodup) :
    LosesNoField (record.overwrite other) record other ↔ record.names.Disjoint other.names := by
  have length := length_overwrite record nodupOther
  constructor
  · intro all
    have none : (other.clashing record).length = 0 := by have := all.length; omega
    exact clashing_eq_nil_iff.mp (List.eq_nil_of_length_eq_zero none)
  · intro disjoint
    rw [clashing_eq_nil_iff.mpr disjoint] at length
    refine ⟨length, fun field h => ?_, fun field h => get?_overwrite_of_mem record nodupOther h⟩
    exact get?_overwrite_of_notMem nodup nodupOther h (disjoint (List.mem_map_of_mem h))

end Record

namespace JoinConfig

/-! ### Names in a row -/

theorem names_named (front : Option String) (record : Record) :
    Record.names (named front record) = record.names.map (front.getD "" ++ ·) := by
  simp [named, Record.names]

theorem nodup_names_named {record : Record} (nodup : record.names.Nodup) (front : Option String) :
    (Record.names (named front record)).Nodup := by
  rw [names_named]
  exact nodup.map fun _ _ => (String.append_right_inj _).mp

theorem nodup_names_project {record : Record} (nodup : record.names.Nodup)
    (selection : Option (List String)) : (project selection record).names.Nodup := by
  cases selection with
  | none => exact nodup
  | some fields =>
    rw [project]
    split
    next => exact nodup
    next =>
      -- Each field that is taken is set in the row, which keeps its names distinct.
      refine List.foldlRecOn (motive := fun row => (Record.names row).Nodup) fields _ List.nodup_nil
        fun row hrow field _ => ?_
      cases record.getPath? field with
      | none => exact hrow
      | some value => exact Record.nodup_names_insert hrow field value

variable (config : JoinConfig) (left right : List Record)

/-- What is put in front of the names of either side. -/
def fronts : Option String × Option String :=
  config.effectivePrefixes (left.map (project config.select.left))
    (right.map (project config.select.right))

/-- The fields of a record of the left side under their names in a row. -/
def leftFields (l : Record) : Record :=
  named (config.fronts left right).1 (project config.select.left l)

/-- The fields of a record of the right side under their names in a row. -/
def rightFields (r : Record) : Record :=
  named (config.fronts left right).2 (project config.select.right r)

/-- The row of two records that match. -/
def matchedRow (l r : Record) : Record :=
  Record.ofFields (config.leftFields left right l ++ config.rightFields left right r)

/-- The rows of all records that match. -/
def matchedRows : List Record :=
  left.flatMap fun l => (right.filter (config.agree l)).map (config.matchedRow left right l)

theorem matchedRows_sublist :
    (config.matchedRows left right).Sublist (config.nestedRows left right) := by
  refine List.Sublist.trans ?_ (List.sublist_append_left _ _)
  refine List.Sublist.flatMap_right _ fun l _ => ?_
  cases found : right.filter (config.agree l) with
  | nil => exact List.nil_sublist _
  | cons r rest => exact List.Sublist.refl _

variable {config left right} {l r : Record}

/-! ### Names that stay apart -/

/-- Prefixes that are no beginnings of each other keep all names apart. -/
theorem disjoint_of_not_isPrefix {front back : String}
    (both : config.prefixes = ⟨some front, some back⟩)
    (apart : ¬front.toList <+: back.toList ∧ ¬back.toList <+: front.toList) (l r : Record) :
    (config.leftFields left right l).names.Disjoint (config.rightFields left right r).names := by
  have fronts : config.fronts left right = (some front, some back) := by
    rw [JoinConfig.fronts, effectivePrefixes, both]
  rw [leftFields, rightFields, names_named, names_named, fronts, List.disjoint_left]
  rintro _ hleft hright
  obtain ⟨name, -, rfl⟩ := List.mem_map.mp hleft
  obtain ⟨other, -, same⟩ := List.mem_map.mp hright
  have same : back ++ other = front ++ name := same
  -- Both prefixes begin the name that is the same, so that one of them begins the other.
  have frontFirst : front.toList <+: (front ++ name).toList :=
    String.toList_append ▸ List.prefix_append ..
  have backFirst : back.toList <+: (front ++ name).toList := by
    rw [← same]
    exact String.toList_append ▸ List.prefix_append ..
  exact (List.prefix_or_prefix_of_prefix frontFirst backFirst).elim apart.1 apart.2

/-- With one prefix, names of both sides that are not the same stay as they are. -/
theorem disjoint_of_unshared (one : config.prefixes.left = none ∨ config.prefixes.right = none)
    (unshared : ∀ l ∈ left, ∀ r ∈ right,
      (project config.select.left l).names.Disjoint (project config.select.right r).names)
    (hl : l ∈ left) (hr : r ∈ right) :
    (config.leftFields left right l).names.Disjoint (config.rightFields left right r).names := by
  have apart : collides (left.map (project config.select.left))
      (right.map (project config.select.right)) = false := by
    rw [Bool.eq_false_iff]
    intro shared
    obtain ⟨_, hright, shared⟩ := List.any_eq_true.mp shared
    obtain ⟨name, hname, shared⟩ := List.any_eq_true.mp shared
    obtain ⟨_, hleft, hname'⟩ := List.any_eq_true.mp shared
    obtain ⟨r, hr, rfl⟩ := List.mem_map.mp hright
    obtain ⟨l, hl, rfl⟩ := List.mem_map.mp hleft
    exact unshared l hl r hr (List.contains_iff_mem.mp hname') hname
  have fronts : config.fronts left right = (none, none) := by
    rw [JoinConfig.fronts, effectivePrefixes, apart]
    rcases one with one | one
    · rw [one]
      cases config.prefixes.right <;> rfl
    · rw [one]
      cases config.prefixes.left <;> rfl
  rw [leftFields, rightFields, names_named, names_named, fronts]
  simpa using unshared l hl r hr

/-! ### The rows -/

section

variable (hl : l.names.Nodup) (hr : r.names.Nodup)

include hl in
theorem nodup_names_leftFields : (config.leftFields left right l).names.Nodup :=
  nodup_names_named (nodup_names_project hl config.select.left) _

include hr in
theorem nodup_names_rightFields : (config.rightFields left right r).names.Nodup :=
  nodup_names_named (nodup_names_project hr config.select.right) _

include hl in
/-- In the row of two records the right one overwrites the left one. -/
theorem matchedRow_eq_overwrite : config.matchedRow left right l r =
    (config.leftFields left right l).overwrite (config.rightFields left right r) := by
  rw [matchedRow, Record.ofFields_append, Record.ofFields_of_nodup (nodup_names_leftFields hl)]

include hl hr

theorem get?_matchedRow_of_mem_right {field : String × Value}
    (h : field ∈ config.rightFields left right r) :
    (config.matchedRow left right l r).get? field.1 = some field.2 := by
  rw [matchedRow_eq_overwrite hl]
  exact Record.get?_overwrite_of_mem _ (nodup_names_rightFields hr) h

theorem get?_matchedRow_of_mem_left {field : String × Value}
    (h : field ∈ config.leftFields left right l)
    (kept : field.1 ∉ (config.rightFields left right r).names) :
    (config.matchedRow left right l r).get? field.1 = some field.2 := by
  rw [matchedRow_eq_overwrite hl]
  exact Record.get?_overwrite_of_notMem (nodup_names_leftFields hl)
    (nodup_names_rightFields hr) h kept

theorem length_matchedRow : (config.matchedRow left right l r).length +
    ((config.rightFields left right r).clashing (config.leftFields left right l)).length =
      (project config.select.left l).length + (project config.select.right r).length := by
  have lengthLeft : (config.leftFields left right l).length =
      (project config.select.left l).length :=
    List.length_map ..
  have lengthRight :
      (config.rightFields left right r).length = (project config.select.right r).length :=
    List.length_map ..
  rw [matchedRow_eq_overwrite hl, Record.length_overwrite _ (nodup_names_rightFields hr),
    lengthLeft, lengthRight]

theorem losesNoField_iff : (config.matchedRow left right l r).LosesNoField
    (config.leftFields left right l) (config.rightFields left right r) ↔
      (config.leftFields left right l).names.Disjoint (config.rightFields left right r).names := by
  rw [matchedRow_eq_overwrite hl]
  exact Record.losesNoField_overwrite_iff (nodup_names_leftFields hl) (nodup_names_rightFields hr)

end

/-- **What the matched rows of a join lose.** A matched row has the fields of its right record,
and those of its left record whose names in the row are not names of the right one. So it has
as many fields as both, less those of the right one that take the place of another, and it
loses no field where no name in the row is the same. It never does where both sides have
prefixes, none of which is the beginning of the other, or where at most one side has a prefix
and no name occurs on both sides. -/
theorem process_join_prefixes (now : Timestamp) (config : JoinConfig) (on : config.on ≠ [])
    (left right : List Record)
    (distinctLeft : ∀ record ∈ left, (Value.object record).HasDistinctNames)
    (distinctRight : ∀ record ∈ right, (Value.object record).HasDistinctNames) :
    StepConfig.process now [left, right] (.join config) =
      .ok ⟨config.nestedRows left right, left.length + right.length⟩ ∧
    (config.matchedRows left right).Sublist (config.nestedRows left right) ∧
    (∀ l ∈ left, ∀ r ∈ right,
      (∀ field ∈ config.rightFields left right r,
        (config.matchedRow left right l r).get? field.1 = some field.2) ∧
      (∀ field ∈ config.leftFields left right l, field.1 ∉ (config.rightFields left right r).names →
        (config.matchedRow left right l r).get? field.1 = some field.2) ∧
      (config.matchedRow left right l r).length +
          ((config.rightFields left right r).clashing (config.leftFields left right l)).length =
        (project config.select.left l).length + (project config.select.right r).length ∧
      ((config.matchedRow left right l r).LosesNoField (config.leftFields left right l)
          (config.rightFields left right r) ↔
        (config.leftFields left right l).names.Disjoint (config.rightFields left right r).names)) ∧
    (∀ front back : String, config.prefixes = ⟨some front, some back⟩ →
      ¬front.toList <+: back.toList ∧ ¬back.toList <+: front.toList → ∀ l ∈ left, ∀ r ∈ right,
      (config.matchedRow left right l r).LosesNoField (config.leftFields left right l)
        (config.rightFields left right r)) ∧
    (config.prefixes.left = none ∨ config.prefixes.right = none →
      (∀ l ∈ left, ∀ r ∈ right,
        (project config.select.left l).names.Disjoint (project config.select.right r).names) →
      ∀ l ∈ left, ∀ r ∈ right, (config.matchedRow left right l r).LosesNoField
        (config.leftFields left right l) (config.rightFields left right r)) := by
  have nodupLeft (l : Record) (hl : l ∈ left) :=
    (Value.hasDistinctNames_object_iff.mp (distinctLeft l hl)).1
  have nodupRight (r : Record) (hr : r ∈ right) :=
    (Value.hasDistinctNames_object_iff.mp (distinctRight r hr)).1
  refine ⟨?_, config.matchedRows_sublist left right, fun l hl r hr => ⟨fun field h => ?_,
    fun field h kept => ?_, ?_, losesNoField_iff (nodupLeft l hl) (nodupRight r hr)⟩,
      fun front back both apart l hl r hr => ?_,
    fun one unshared l hl r hr => ?_⟩
  · rw [StepConfig.process, if_neg (by simpa using on),
      rows_eq_nestedRows distinctLeft distinctRight]
  · exact get?_matchedRow_of_mem_right (nodupLeft l hl) (nodupRight r hr) h
  · exact get?_matchedRow_of_mem_left (nodupLeft l hl) (nodupRight r hr) h kept
  · exact length_matchedRow (nodupLeft l hl) (nodupRight r hr)
  · exact (losesNoField_iff (nodupLeft l hl) (nodupRight r hr)).mpr
      (disjoint_of_not_isPrefix both apart l r)
  · exact (losesNoField_iff (nodupLeft l hl) (nodupRight r hr)).mpr
      (disjoint_of_unshared one unshared hl hr)

/-- Bills with those who pay them, with a prefix for each side. -/
def billsOfPayers : JoinConfig where
  left := "payers"
  right := "bills"
  output := "joined"
  on := [⟨"id", "payer"⟩]
  kind := .inner
  select := ⟨none, some ["id", "total"]⟩
  prefixes := ⟨some "payer.", some "bill."⟩

def payer : Record := [("id", .int 1), ("name", .text "Alice")]

def bill : Record := [("id", .int 7), ("payer", .float 1.0), ("total", .int 30)]

theorem process_join_prefixes_bills :
    StepConfig.process .epoch [[payer], [bill]] (.join billsOfPayers) =
      .ok ⟨[[("payer.id", .int 1), ("payer.name", .text "Alice"), ("bill.id", .int 7),
        ("bill.total", .int 30)]], 2⟩ ∧
    (billsOfPayers.matchedRow [payer] [bill] payer bill).LosesNoField
      [("payer.id", .int 1), ("payer.name", .text "Alice")]
      [("bill.id", .int 7), ("bill.total", .int 30)] := by
  obtain ⟨rows, -, -, both, -⟩ :=
    process_join_prefixes .epoch billsOfPayers (by decide) [payer] [bill] (by decide) (by decide)
  have lossless := both "payer." "bill." rfl (by decide) payer (List.mem_singleton_self _) bill
    (List.mem_singleton_self _)
  exact ⟨rows.trans rfl, lossless⟩

/-- A prefix for the left side, with which one of its names is a name of the right side. -/
def clashingPrefix : JoinConfig where
  left := "users"
  right := "names"
  output := "joined"
  on := [⟨"id", "id"⟩]
  kind := .inner
  select := {}
  prefixes := ⟨some "u_", none⟩

/-- A join with a prefix loses the name of a user where the other side has a
field of the name that is made. -/
theorem process_join_clashingPrefix :
    StepConfig.process .epoch
      [[[("id", .int 1), ("name", .text "Alice")]], [[("id", .int 1), ("u_name", .text "Bob")]]]
      (.join clashingPrefix) =
        .ok ⟨[[("u_id", .int 1), ("u_name", .text "Bob"), ("id", .int 1)]], 2⟩ ∧
    ¬∀ (config : JoinConfig) (left right : List Record), config.on ≠ [] →
      config.prefixes.left ≠ config.prefixes.right →
        (∀ record ∈ left, (Value.object record).HasDistinctNames) →
      (∀ record ∈ right, (Value.object record).HasDistinctNames) →
      ∀ l ∈ left, ∀ r ∈ right, config.agree l r = true → (config.matchedRow left right l r).length =
        (project config.select.left l).length + (project config.select.right r).length := by
  refine ⟨rfl, fun all => ?_⟩
  have length := all clashingPrefix [[("id", .int 1), ("name", .text "Alice")]]
    [[("id", .int 1), ("u_name", .text "Bob")]] (by decide) (by decide) (by decide) (by decide)
    _ (List.mem_singleton_self _) _ (List.mem_singleton_self _) (by decide +kernel)
  exact absurd length (by decide +kernel)

end JoinConfig

end RecordFlow
