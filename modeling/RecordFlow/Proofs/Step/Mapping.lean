import RecordFlow.Proofs.Value.Rearrangement
import RecordFlow.Step.Process

/-!
# Computed fields

A step that computes fields sets each of its targets to a value, or removes it if its expression has
none, one target after the other. If the targets lie apart and the step starts from nothing, no
target is in the way of another one: each has the value of its expression, and their order shows
only in the order of fields. On a record that has fields already a target without a value is absent
afterwards if it leads to one place.

## Main definitions

* `Record.assign`, `Record.assignAll` — what becomes of a record if targets get values, or none
* `Record.IsFreeAt` — a path leads nowhere, and nothing stands on its way

## Main results

* `Record.getPath?_assignAll`, `Record.assignAll_eq_setPaths` — targets that are free and lie apart
* `MapConfig.process_map_apart` — a step whose targets lie apart
* `Record.getPath?_removePath_iff` — what is removed at a path and by a target without a value
-/

namespace RecordFlow

namespace Record

variable {record : Record} {path other : String} {value? : Option Value}
    {assignments : List (String × Option Value)}

/-! ### Targets and their values -/

/-- Sets a value at a path, or removes what is there if there is no value. -/
def assign (record : Record) (path : String) (value? : Option Value) : Record :=
  match value? with
  | some value => record.setPath path value
  | none => (record.removePath path).2

/-- Assigns values to paths, one after the other. -/
def assignAll (record : Record) (assignments : List (String × Option Value)) : Record :=
  assignments.foldl (fun record (path, value?) => record.assign path value?) record

theorem assignAll_cons (record : Record) (assignment : String × Option Value)
    (assignments : List (String × Option Value)) :
    record.assignAll (assignment :: assignments) =
      (record.assign assignment.1 assignment.2).assignAll assignments :=
  rfl

theorem assignAll_append (record : Record) (front back : List (String × Option Value)) :
    record.assignAll (front ++ back) = (record.assignAll front).assignAll back :=
  List.foldl_append ..

/-! ### Free paths -/

/-- A path leads nowhere, and no value that is no object stands on its way. -/
structure IsFreeAt (record : Record) (path : String) : Prop where
  unnamed : record.get? path = none
  untrodden : record.descend? (pathSegments path) = none
  clear : record.obstacle? (pathSegments path) = none

theorem obstacle?_nil (qs : List String) : obstacle? [] qs = none := by
  rcases qs with _ | ⟨q, _ | ⟨next, qs⟩⟩ <;> rfl

theorem isFreeAt_nil (path : String) : IsFreeAt [] path where
  unnamed := rfl
  untrodden := by cases pathSegments path <;> rfl
  clear := obstacle?_nil _

/-- What has been set at the end of a way does not stand on ways that lie apart. -/
theorem obstacle?_setSegments {ps qs : List String} (clear : record.obstacle? qs = none)
    (apart : LieApart ps qs) (value : Value) :
    (record.setSegments ps value).obstacle? qs = none := by
  induction ps generalizing record qs with
  | nil => exact absurd List.nil_prefix apart.1
  | cons p ps ih =>
    rcases qs with _ | ⟨q, _ | ⟨next, qs⟩⟩
    · rfl
    · rfl
    · by_cases same : p = q
      · -- The ways part further on, so what is now in the common field is an object.
        subst same
        have apart := lieApart_cons_iff.mp apart rfl
        have nonempty : ps ≠ [] := fun empty => apart.1 (empty ▸ List.nil_prefix)
        rw [setSegments_cons nonempty, obstacle?, get?_insert, if_pos rfl]
        refine Option.map_eq_none_iff.mpr (ih ?_ apart)
        rw [obstacle?] at clear
        cases found : record.get? p with
        | none => exact obstacle?_nil _
        | some there =>
          rw [found] at clear
          cases there with
          | object fields => exact Option.map_eq_none_iff.mp clear
          | _ => cases clear
      · obtain ⟨inner, set⟩ := record.exists_setSegments_eq p ps value
        rw [set, obstacle?, get?_insert, if_neg (Ne.symm same)]
        exact clear

namespace IsFreeAt

theorem getPath?_eq_none (free : record.IsFreeAt path) : record.getPath? path = none := by
  rw [getPath?, free.unnamed, free.untrodden]
  split <;> rfl

theorem setPath (free : record.IsFreeAt other)
    (apart : LieApart (pathSegments path) (pathSegments other)) (value : Value) :
    (record.setPath path value).IsFreeAt other where
  unnamed := (get?_setPath (head?_ne_of_lieApart apart)).trans free.unnamed
  untrodden := by
    rw [Record.setPath, descend?_setSegments record apart, free.untrodden]
    split <;> rfl
  clear := obstacle?_setSegments free.clear apart value

/-- Where nothing is, nothing is removed. -/
theorem assign_none (free : record.IsFreeAt path) : record.assign path none = record := by
  have fst := record.map_fst_removeSegments? (pathSegments path)
  rw [free.untrodden, ite_self, Option.map_eq_none_iff] at fst
  rw [assign, removePath, free.unnamed, fst]

theorem assign (free : record.IsFreeAt other) (own : record.IsFreeAt path)
    (apart : LieApart (pathSegments path) (pathSegments other)) (value? : Option Value) :
    (record.assign path value?).IsFreeAt other := by
  cases value? with
  | none => rwa [own.assign_none]
  | some value => exact free.setPath apart value

/-- A free path leads to what is assigned to it. -/
theorem getPath?_assign (free : record.IsFreeAt path) (nonempty : path.isEmpty = false)
    (value? : Option Value) : (record.assign path value?).getPath? path = value? := by
  cases value? with
  | none => rw [free.assign_none, free.getPath?_eq_none]
  | some value => exact getPath?_setPath nonempty (fun _ => free.unnamed) value

/-- Other paths lead where they have led. -/
theorem getPath?_assign_of_lieApart (free : record.IsFreeAt path)
    (apart : LieApart (pathSegments path) (pathSegments other)) (value? : Option Value) :
    (record.assign path value?).getPath? other = record.getPath? other := by
  cases value? with
  | none => rw [free.assign_none]
  | some value =>
    have kept : record.cutsOff path other = false := by
      rw [cutsOff, isBlocked, free.clear]; exact Bool.and_false _
    exact (record.getPath?_setPath_of_lieApart apart value).trans
      (by rw [kept, if_neg Bool.false_ne_true])

end IsFreeAt

/-! ### Targets that lie apart -/

section

variable (free : ∀ a ∈ assignments, record.IsFreeAt a.1)
  (apart : LieAllApart (assignments.map Prod.fst))

include free apart

theorem getPath?_assignAll_of_lieApart
    (other_apart : ∀ a ∈ assignments, LieApart (pathSegments a.1) (pathSegments other)) :
    (record.assignAll assignments).getPath? other = record.getPath? other := by
  induction assignments generalizing record with
  | nil => rfl
  | cons a assignments ih =>
    obtain ⟨own, free⟩ := List.forall_mem_cons.mp free
    obtain ⟨first, apart⟩ := LieAllApart.cons_iff.mp apart
    obtain ⟨other_first, other_apart⟩ := List.forall_mem_cons.mp other_apart
    rw [assignAll_cons,
      ih (fun b hb => (free b hb).assign own (first b.1 (List.mem_map_of_mem hb)) a.2) apart
        other_apart]
    exact own.getPath?_assign_of_lieApart other_first a.2

/-- Each target leads to its own value. -/
theorem getPath?_assignAll (nonempty : ∀ a ∈ assignments, a.1.isEmpty = false) :
    ∀ a ∈ assignments, (record.assignAll assignments).getPath? a.1 = a.2 := by
  induction assignments generalizing record with
  | nil => exact List.forall_mem_nil _
  | cons a assignments ih =>
    obtain ⟨own, free⟩ := List.forall_mem_cons.mp free
    obtain ⟨first, apart⟩ := LieAllApart.cons_iff.mp apart
    obtain ⟨named, nonempty⟩ := List.forall_mem_cons.mp nonempty
    -- What is carried along: the targets to come are free whatever has been assigned so far.
    have free (b) (hb : b ∈ assignments) :=
      (free b hb).assign own (first b.1 (List.mem_map_of_mem hb)) a.2
    rw [assignAll_cons]
    refine List.forall_mem_cons.mpr ⟨?_, ih free apart nonempty⟩
    rw [getPath?_assignAll_of_lieApart free apart
      fun b hb => (first b.1 (List.mem_map_of_mem hb)).symm, own.getPath?_assign named]

/-- Targets without a value make no difference. -/
theorem assignAll_eq_setPaths : record.assignAll assignments =
    record.setPaths (assignments.filterMap fun a => a.2.map (a.1, ·)) := by
  induction assignments generalizing record with
  | nil => rfl
  | cons a assignments ih =>
    obtain ⟨own, free⟩ := List.forall_mem_cons.mp free
    obtain ⟨first, apart⟩ := LieAllApart.cons_iff.mp apart
    rw [assignAll_cons,
      ih (fun b hb => (free b hb).assign own (first b.1 (List.mem_map_of_mem hb)) a.2) apart]
    obtain ⟨path, _ | value⟩ := a
    · rw [own.assign_none]
      rfl
    · rfl

/-- Free targets that lie apart can be assigned in any order. -/
theorem rearranged_assignAll_of_perm {others : List (String × Option Value)}
    (perm : assignments.Perm others) :
    (Value.object (record.assignAll assignments)).Rearranged
      (.object (record.assignAll others)) := by
  have free' : ∀ a ∈ others, record.IsFreeAt a.1 := fun a ha => free a (perm.mem_iff.mpr ha)
  have within : ((assignments.filterMap fun a => a.2.map (a.1, ·)).map Prod.fst).Sublist
      (assignments.map Prod.fst) := by
    clear free apart perm
    induction assignments with
    | nil => exact .refl _
    | cons a assignments ih =>
      obtain ⟨path, _ | value⟩ := a
      · exact ih.cons path
      · exact ih.cons_cons path
  rw [assignAll_eq_setPaths free apart, assignAll_eq_setPaths free' (apart.perm (perm.map _))]
  exact rearranged_setPaths_of_perm (perm.filterMap _) (apart.sublist within) record

end

/-! ### Targets that stay absent -/

/-- Where nothing is, nothing comes from values at paths that lie apart. -/
theorem getPath?_assignAll_eq_none (absent : record.getPath? other = none)
    (apart : ∀ a ∈ assignments, LieApart (pathSegments a.1) (pathSegments other)) :
    (record.assignAll assignments).getPath? other = none := by
  induction assignments generalizing record with
  | nil => exact absent
  | cons a assignments ih =>
    obtain ⟨first, apart⟩ := List.forall_mem_cons.mp apart
    refine ih ?_ apart
    obtain ⟨path, _ | value⟩ := a
    · exact (record.getPath?_removePath_of_lieApart first).trans absent
    · refine (record.getPath?_setPath_of_lieApart first value).trans ?_
      rw [absent]
      split <;> rfl

end Record

namespace MapConfig

variable {config : MapConfig}

/-- The targets of a step with what its expressions have for a record. -/
def assignments (config : MapConfig) (now : Timestamp) (record : Record) :
    List (String × Option Value) :=
  config.mappings.map fun mapping => (mapping.1, mapping.2.evaluate now record)

theorem row_eq_assignAll (config : MapConfig) (now : Timestamp) (record : Record) :
    config.row now record =
      Record.assignAll (if config.includeOriginal then record else [])
      (config.assignments now record) := by
  rw [Record.assignAll, assignments, List.foldl_map]
  rfl

theorem map_fst_assignments (config : MapConfig) (now : Timestamp) (record : Record) :
    (config.assignments now record).map Prod.fst = config.mappings.map Prod.fst := by
  rw [assignments, List.map_map]
  rfl

/-- **Targets that lie apart are independent.** In a row that is made of nothing but its
targets, each target leads to the value that its expression has for the record as it came in,
and is absent if the expression has none. With the targets in another order the rows are the
same up to the order of their fields. -/
theorem process_map_apart (now : Timestamp) (config : MapConfig)
    (computed : config.includeOriginal = false)
    (nonempty : ∀ mapping ∈ config.mappings, mapping.1.isEmpty = false)
    (apart : LieAllApart (config.mappings.map Prod.fst)) (records : List Record) :
    ∃ rows, StepConfig.process now [records] (.map config) = .ok ⟨rows, records.length⟩ ∧
      List.Forall₂ (fun record row => ∀ mapping ∈ config.mappings,
        row.getPath? mapping.1 = mapping.2.evaluate now record) records rows ∧
      ∀ mappings, config.mappings.Perm mappings → ∃ others,
        StepConfig.process now [records]
        (.map { config with mappings }) = .ok ⟨others, records.length⟩ ∧
        List.Forall₂ (fun row other => (Value.object row).Rearranged
          (.object other)) rows others := by
  have assigned (record : Record) : LieAllApart ((config.assignments now record).map Prod.fst) := by
    rwa [map_fst_assignments]
  refine ⟨_, rfl, ?_, fun mappings perm => ⟨_, rfl, ?_⟩⟩
  · refine List.forall₂_map_right_iff.mpr
      (List.forall₂_same.mpr fun record _ mapping hmapping => ?_)
    rw [row_eq_assignAll, computed]
    exact Record.getPath?_assignAll (fun a _ => Record.isFreeAt_nil a.1) (assigned record)
      (List.forall_mem_map.mpr nonempty) (mapping.1, mapping.2.evaluate now record)
      (List.mem_map_of_mem hmapping)
  · -- The expressions see the record as it came in, so that the same values
    -- are assigned in another order.
    refine List.forall₂_map_left_iff.mpr
      (List.forall₂_map_right_iff.mpr (List.forall₂_same.mpr fun record _ => ?_))
    rw [row_eq_assignAll, row_eq_assignAll, computed, if_neg Bool.false_ne_true]
    exact Record.rearranged_assignAll_of_perm (fun a _ => Record.isFreeAt_nil a.1)
      (assigned record) (perm.map _)

/-- Sizes and a label below one field, and a field that no record has. -/
def boxes : MapConfig where
  source := "parcels"
  output := "boxes"
  mappings := [("meta.label", .field "name"), ("meta.size.width", .field "sides.0"),
    ("meta.gone", .field "missing"), ("meta.size.depth", .field "sides.1")]
  includeOriginal := false

def parcel : Record := [("name", .text "crate"), ("sides", .list [.int 3, .null])]

theorem process_map_apart_boxes :
    let row : Record :=
      [("meta", .object [("label", .text "crate"),
        ("size", .object [("width", .int 3), ("depth", .null)])])]
    let other : Record :=
      [("meta", .object [("size", .object [("depth", .null), ("width", .int 3)]),
        ("label", .text "crate")])]
    StepConfig.process .epoch [[parcel]] (.map boxes) = .ok ⟨[row], 1⟩ ∧
      row.getPath? "meta.size.width" = some (.int 3) ∧ row.getPath? "meta.gone" = none ∧
      StepConfig.process .epoch [[parcel]]
        (.map { boxes with mappings := boxes.mappings.reverse }) = .ok ⟨[other], 1⟩ ∧
      (Value.object row).Rearranged (.object other) := by
  intro row other
  obtain ⟨rows, made, targets, permuted⟩ :=
    process_map_apart .epoch boxes rfl (by decide) (by decide) [parcel]
  obtain ⟨others, madeOthers, rearranged⟩ :=
    permuted boxes.mappings.reverse (List.reverse_perm _).symm
  have here : StepConfig.process .epoch [[parcel]] (.map boxes) = .ok ⟨[row], 1⟩ := by rfl
  have there : StepConfig.process .epoch [[parcel]]
      (.map { boxes with mappings := boxes.mappings.reverse }) = .ok ⟨[other], 1⟩ := by rfl
  obtain rfl : [row] = rows := congrArg StepOutput.records (Except.ok.inj (here.symm.trans made))
  obtain rfl : [other] = others :=
    congrArg StepOutput.records (Except.ok.inj (there.symm.trans madeOthers))
  have own := (List.forall₂_cons.mp targets).1
  exact ⟨here, own ("meta.size.width", .field "sides.0") (by simp [boxes]),
    own ("meta.gone", .field "missing") (by simp [boxes]), there,
    (List.forall₂_cons.mp rearranged).1⟩

/-- A target without a value is absent from the row if it leads to one
place where its turn comes. -/
theorem getPath?_row_of_leadsToOnePlace {now : Timestamp} {original record : Record}
    {path : String} {e : Expression} {front back : List (String × Expression)}
    (mappings : config.mappings = front ++ (path, e) :: back)
    (before : { config with mappings := front }.row now original = record)
    (undefined : e.evaluate now original = none)
    (apart : ∀ mapping ∈ back, LieApart (pathSegments mapping.1) (pathSegments path))
    (distinct : (Value.object record).HasDistinctNames) (nonempty : path.isEmpty = false)
    (one : record.LeadsToOnePlace path) : (config.row now original).getPath? path = none := by
  have row : config.row now original = (record.assign path none).assignAll
      (back.map fun mapping => (mapping.1, mapping.2.evaluate now original)) := by
    rw [row_eq_assignAll, assignments, mappings, List.map_append,
      Record.assignAll_append, List.map_cons, Record.assignAll_cons, undefined,
      ← before, row_eq_assignAll]
    rfl
  rw [row]
  exact Record.getPath?_assignAll_eq_none ((Record.removes_iff distinct nonempty).mpr one).2
    (List.forall_mem_map.mpr apart)

end MapConfig

/-- **What is removed is what is read** exactly at a path that leads to one place: then the
value that is read there is removed, and nothing is read there any more. Whatever the path,
the fields that are left keep their order, and paths that lie apart lead where they have led.
A target without a value is absent if it leads to one place when its turn comes and the
targets behind it lie apart. -/
theorem Record.getPath?_removePath_iff (path : String) (nonempty : path.isEmpty = false)
    (record : Record) (distinct : (Value.object record).HasDistinctNames) :
    ((record.removePath path).1 = record.getPath? path ∧
      (record.removePath path).2.getPath? path = none ↔ record.LeadsToOnePlace path) ∧
    (record.removePath path).2.names = record.names.erase path ∧
    (∀ other, LieApart (pathSegments path) (pathSegments other) →
      (record.removePath path).2.getPath? other = record.getPath? other) ∧
    (record.LeadsToOnePlace path → ∀ (config : MapConfig) (now : Timestamp) (original : Record)
      (front back : List (String × Expression)) (e : Expression),
      config.mappings = front ++ (path, e) :: back →
        { config with mappings := front }.row now original = record →
          e.evaluate now original = none →
      (∀ mapping ∈ back, LieApart (pathSegments mapping.1) (pathSegments path)) →
      (config.row now original).getPath? path = none) :=
  ⟨removes_iff distinct nonempty, record.names_removePath path,
    fun _ => record.getPath?_removePath_of_lieApart,
    fun one _ _ _ _ _ _ mappings before undefined apart =>
      MapConfig.getPath?_row_of_leadsToOnePlace mappings before undefined
        apart distinct nonempty one⟩

/-- Users without their cities, and with another name. -/
def anonymized : MapConfig where
  source := "users"
  output := "anonymized"
  mappings :=
    [("user.name", .literal (.text "somebody")), ("user.city", .field "missing"),
      ("seen", .literal (.bool true))]
  includeOriginal := true

/-- A user whose city stands below another field, next to a list. -/
def nestedUser : Record :=
  [("id", .int 7), ("user", .object [("name", .text "Ada"), ("city", .text "Oslo")]),
    ("tags", .list [.text "a"])]

theorem Record.getPath?_removePath_iff_nestedUser :
    let record : Record :=
      [("id", .int 7), ("user", .object [("name", .text "somebody"), ("city", .text "Oslo")]),
        ("tags", .list [.text "a"])]
    (record.removePath "user.city").1 = some (.text "Oslo") ∧
      (record.removePath "user.city").2.names = ["id", "user", "tags"] ∧
      (record.removePath "user.city").2.getPath? "tags.0" = some (.text "a") ∧
      (anonymized.row .epoch nestedUser).getPath? "user.city" = none := by
  intro record
  have one : record.LeadsToOnePlace "user.city" := ⟨fun _ named => (by cases named), fun _ _ => rfl⟩
  obtain ⟨removes, names, kept, row⟩ :=
    getPath?_removePath_iff "user.city" (by decide) record (by decide)
  exact ⟨(removes.mpr one).1, names, kept "tags.0" (by decide),
    row one anonymized .epoch nestedUser [("user.name", .literal (.text "somebody"))]
      [("seen", .literal (.bool true))] (.field "missing") rfl rfl rfl (by decide)⟩

/-- An item of a list is read and not removed, neither by its path nor by a target without a value,
and behind a field with the whole path as its name another value comes to light. -/
theorem Record.getPath?_removePath_items :
    let order : Record := [("items", .list [.object [("sku", .text "pen"), ("count", .int 2)]])]
    let user : Record := [("user.city", .text "Oslo"), ("user", .object [("city", .text "Bergen")])]
    (order.getPath? "items.0.sku" = some (.text "pen") ∧
      order.removePath "items.0.sku" = (none, order) ∧
        MapConfig.row ⟨"orders", "stripped", [("items.0.sku", .field "missing")],
          true⟩ .epoch order = order) ∧
    user.removePath "user.city" = (some (.text "Oslo"),
      [("user", .object [("city", .text "Bergen")])]) ∧
    (user.removePath "user.city").2.getPath? "user.city" = some (.text "Bergen") := by
  refine ⟨⟨rfl, rfl, ?_⟩, rfl, rfl⟩
  rfl

end RecordFlow
