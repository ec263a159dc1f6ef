import RecordFlow.Proofs.Number.Comparison
import RecordFlow.Proofs.Store.Collections
import RecordFlow.Value.Basic

/-!
# Equality of values

Equal values can stand for one another as keys: equality is an equivalence on values without NaN,
and equal values feed the same items to a hash function.

## Main definitions

* `Value.IsNaNFree` — no float in the value is NaN
* `Value.HasDistinctNames` — no object in the value has a name twice
* `Value.all` — a check passes for a value and for all values in it
* `Value.number?` — the number that a value is

## Main results

* `Value.same_refl`, `Value.same_symm`, `Value.same_trans` — equality is an equivalence
* `Value.keyItems_eq_of_same` — equal values feed the same items
-/

namespace RecordFlow

namespace Value

/-- No float in the value is NaN. -/
inductive IsNaNFree : Value → Prop where
  | null : IsNaNFree .null
  | bool (b : Bool) : IsNaNFree (.bool b)
  | int (i : Int64) : IsNaNFree (.int i)
  | float {f : Float} (number : f.isNaN = false) : IsNaNFree (.float f)
  | text (s : String) : IsNaNFree (.text s)
  | list {items : List Value} (each : ∀ item ∈ items, IsNaNFree item) : IsNaNFree (.list items)
  | object {fields : Record} (each : ∀ field ∈ fields, IsNaNFree field.2) :
    IsNaNFree (.object fields)

/-- No object in the value has a name twice, which is so of all records. -/
inductive HasDistinctNames : Value → Prop where
  | null : HasDistinctNames .null
  | bool (b : Bool) : HasDistinctNames (.bool b)
  | int (i : Int64) : HasDistinctNames (.int i)
  | float (f : Float) : HasDistinctNames (.float f)
  | text (s : String) : HasDistinctNames (.text s)
  | list {items : List Value} (each : ∀ item ∈ items, HasDistinctNames item) :
    HasDistinctNames (.list items)
  | object {fields : Record} (nodup : fields.names.Nodup)
      (each : ∀ field ∈ fields, HasDistinctNames field.2) : HasDistinctNames (.object fields)

/-- What holds of a list if it holds of its items, and of an object if it holds of the values of its
fields, holds of all values if it holds of the others. -/
@[elab_as_elim]
theorem inductionOnParts {motive : Value → Prop} (null : motive .null)
    (bool : ∀ b, motive (.bool b)) (int : ∀ i, motive (.int i)) (float : ∀ f, motive (.float f))
    (text : ∀ s, motive (.text s))
    (list : ∀ items : List Value, (∀ item ∈ items, motive item) → motive (.list items))
    (object : ∀ fields : Record, (∀ field ∈ fields, motive field.2) → motive (.object fields))
    (value : Value) : motive value :=
  -- The items of a list and the fields of an object have motives of their own.
  @Value.rec motive (fun items => ∀ item ∈ items, motive item)
    (fun fields => ∀ field ∈ fields, motive field.2)
    (fun field => motive field.2) null bool int float text list object
    (List.forall_mem_nil _) (fun _ _ first rest => List.forall_mem_cons.mpr ⟨first, rest⟩)
    (List.forall_mem_nil _) (fun _ _ first rest => List.forall_mem_cons.mpr ⟨first, rest⟩)
    (fun _ _ part => part) value

/-- The number that a value is. -/
noncomputable def number? : Value → Option EReal
  | .int i => some ((i.toInt : ℝ) : EReal)
  | .float f => RecordFlow.number? f
  | _ => none

/-! ### Equality of the kinds -/

section

variable {b : Value}

theorem null_same_iff : (null == b) = true ↔ null = b := by
  change same null b = true ↔ _
  cases b <;> simp [same]

theorem bool_same_iff {c : Bool} : (bool c == b) = true ↔ bool c = b := by
  change same (bool c) b = true ↔ _
  cases b <;> simp [same]

theorem text_same_iff {s : String} : (text s == b) = true ↔ text s = b := by
  change same (text s) b = true ↔ _
  cases b <;> simp [same]

theorem sameItems_iff {xs ys : List Value} :
    sameItems xs ys = true ↔ List.Forall₂ (fun x y => (x == y) = true) xs ys := by
  induction xs generalizing ys with
  | nil => cases ys <;> simp [sameItems]
  | cons x xs ih =>
    cases ys with
    | nil => simp [sameItems]
    | cons y ys =>
      rw [sameItems, Bool.and_eq_true, ih, List.forall₂_cons]
      rfl

theorem list_same_iff {xs : List Value} : (list xs == b) = true ↔
    ∃ ys, list ys = b ∧ List.Forall₂ (fun x y => (x == y) = true) xs ys := by
  change same (list xs) b = true ↔ _
  cases b <;> simp [same, sameItems_iff]

theorem fieldsWithin_iff {xs ys : List (String × Value)} : fieldsWithin xs ys = true ↔
    ∀ field ∈ xs, ∃ y, ys.lookup field.1 = some y ∧ (field.2 == y) = true := by
  induction xs with
  | nil => simp [fieldsWithin]
  | cons field xs ih =>
    rw [fieldsWithin, Bool.and_eq_true, ih, List.forall_mem_cons]
    refine and_congr_left fun _ => ?_
    cases ys.lookup field.1 with
    | none => simp
    | some y => simp; rfl

/-- Objects are equal if they have the same number of fields, and each field of
the one is one of the other. -/
theorem object_same_iff {xs : Record} : (object xs == b) = true ↔
    ∃ ys : Record, object ys = b ∧ xs.length = ys.length ∧
      ∀ field ∈ xs, ∃ y, ys.get? field.1 = some y ∧ (field.2 == y) = true := by
  change same (object xs) b = true ↔ _
  cases b <;> simp [same, fieldsWithin_iff, Record.get?]

/-- A number equals what is the same number. -/
theorem number_same_iff {a : Value} (number : a.isNumber = true) :
    (a == b) = true ↔ ∃ x, a.number? = some x ∧ b.number? = some x := by
  change same a b = true ↔ _
  cases a with
  | int i =>
    cases b with
    | int j =>
      rw [same, beq_iff_eq, ← Int64.toInt_inj]
      simp [number?, eq_comm]
    | float f =>
      rw [same, sameNumber, beq_iff_eq, exactInt64?_eq_some_iff]
      simp [number?]
    | _ => simp [same, number?]
  | float f =>
    cases b with
    | int i =>
      rw [same, sameNumber, beq_iff_eq, exactInt64?_eq_some_iff]
      simp [number?]
    | float g =>
      rw [same, float_beq_iff]
      rfl
    | _ => simp [same, number?]
  | _ => cases number

theorem isNumber_of_number? {x : EReal} (h : b.number? = some x) : b.isNumber = true := by
  cases b <;> simp_all [number?, isNumber]

/-! ### Distinct names -/

theorem hasDistinctNames_list_iff {items : List Value} :
    (list items).HasDistinctNames ↔ ∀ item ∈ items, item.HasDistinctNames := by
  constructor
  · rintro ⟨⟩
    assumption
  · exact .list

theorem hasDistinctNames_object_iff {fields : Record} :
    (object fields).HasDistinctNames ↔
      fields.names.Nodup ∧ ∀ field ∈ fields, field.2.HasDistinctNames := by
  constructor
  · rintro ⟨⟩
    exact ⟨‹_›, ‹_›⟩
  · exact fun ⟨nodup, each⟩ => .object nodup each

end

/-! ### Checks of a value and of all values in it -/

section

mutual

/-- Whether a check passes for a value and for all values in it. -/
def all (check : Value → Bool) : Value → Bool
  | .list items => check (.list items) && allItems check items
  | .object fields => check (.object fields) && allFields check fields
  | value => check value

/-- Whether a check passes for the items of a list and for all values in them. -/
def allItems (check : Value → Bool) : List Value → Bool
  | [] => true
  | item :: items => item.all check && allItems check items

/-- Whether a check passes for the values of fields and for all values in them. -/
def allFields (check : Value → Bool) : List (String × Value) → Bool
  | [] => true
  | (_, value) :: fields => value.all check && allFields check fields

end

variable {check : Value → Bool}

theorem allItems_iff {items : List Value} :
    allItems check items = true ↔ ∀ item ∈ items, item.all check = true := by
  induction items with
  | nil => simp [allItems]
  | cons item items ih => rw [allItems, Bool.and_eq_true, ih, List.forall_mem_cons]

theorem allFields_iff {fields : Record} :
    allFields check fields = true ↔ ∀ field ∈ fields, field.2.all check = true := by
  induction fields with
  | nil => simp [allFields]
  | cons field fields ih => rw [allFields, Bool.and_eq_true, ih, List.forall_mem_cons]

theorem all_list_iff {items : List Value} : (list items).all check = true ↔
    check (list items) = true ∧ ∀ item ∈ items, item.all check = true := by
  rw [all, Bool.and_eq_true, allItems_iff]

theorem all_object_iff {fields : Record} : (object fields).all check = true ↔
    check (object fields) = true ∧ ∀ field ∈ fields, field.2.all check = true := by
  rw [all, Bool.and_eq_true, allFields_iff]

/-- Whether a value is not NaN itself. -/
def isNotNaN : Value → Bool
  | .float f => !f.isNaN
  | _ => true

/-- Whether a value is no object that has a name twice. -/
def isNotRepetitive : Value → Bool
  | .object fields => decide (Record.names fields).Nodup
  | _ => true

theorem all_isNotNaN_iff {value : Value} : value.all isNotNaN = true ↔ value.IsNaNFree := by
  induction value using inductionOnParts with
  | null => exact ⟨fun _ => .null, fun _ => rfl⟩
  | bool b => exact ⟨fun _ => .bool b, fun _ => rfl⟩
  | int i => exact ⟨fun _ => .int i, fun _ => rfl⟩
  | text s => exact ⟨fun _ => .text s, fun _ => rfl⟩
  | float f =>
    rw [all.eq_3 _ (.float f) nofun nofun, isNotNaN, Bool.not_eq_true']
    exact ⟨.float, fun | .float number => number⟩
  | list items ih =>
    rw [all_list_iff]
    exact ⟨fun h => .list fun item hitem => (ih item hitem).mp (h.2 item hitem),
      fun | .list each => ⟨rfl, fun item hitem => (ih item hitem).mpr (each item hitem)⟩⟩
  | object fields ih =>
    rw [all_object_iff]
    exact ⟨fun h => .object fun field hfield => (ih field hfield).mp (h.2 field hfield),
      fun | .object each => ⟨rfl, fun field hfield => (ih field hfield).mpr (each field hfield)⟩⟩

theorem all_isNotRepetitive_iff {value : Value} :
    value.all isNotRepetitive = true ↔ value.HasDistinctNames := by
  induction value using inductionOnParts with
  | null => exact ⟨fun _ => .null, fun _ => rfl⟩
  | bool b => exact ⟨fun _ => .bool b, fun _ => rfl⟩
  | int i => exact ⟨fun _ => .int i, fun _ => rfl⟩
  | text s => exact ⟨fun _ => .text s, fun _ => rfl⟩
  | float f => exact ⟨fun _ => .float f, fun _ => rfl⟩
  | list items ih =>
    rw [all_list_iff, hasDistinctNames_list_iff]
    exact (and_iff_right rfl).trans (forall₂_congr ih)
  | object fields ih =>
    rw [all_object_iff, hasDistinctNames_object_iff]
    exact and_congr decide_eq_true_iff (forall₂_congr ih)

instance (value : Value) : Decidable value.IsNaNFree := decidable_of_iff _ all_isNotNaN_iff

instance (value : Value) : Decidable value.HasDistinctNames :=
  decidable_of_iff _ all_isNotRepetitive_iff

end

/-! ### The laws of an equivalence -/

/-- A value without NaN equals itself. -/
theorem same_refl {a : Value} (free : a.IsNaNFree) (distinct : a.HasDistinctNames) :
    (a == a) = true := by
  induction free with
  | null => exact null_same_iff.mpr rfl
  | bool b => exact bool_same_iff.mpr rfl
  | int i => exact (number_same_iff rfl).mpr ⟨_, rfl, rfl⟩
  | @float f number =>
    obtain ⟨x, hx⟩ := exists_number? number
    exact (number_same_iff rfl).mpr ⟨x, hx, hx⟩
  | text s => exact text_same_iff.mpr rfl
  | list _ ih =>
    have each := hasDistinctNames_list_iff.mp distinct
    exact list_same_iff.mpr
      ⟨_, rfl, List.forall₂_same.mpr fun item hitem => ih item hitem (each item hitem)⟩
  | object _ ih =>
    obtain ⟨nodup, each⟩ := hasDistinctNames_object_iff.mp distinct
    refine object_same_iff.mpr
      ⟨_, rfl, rfl, fun field hfield => ⟨field.2, ?_, ih field hfield (each field hfield)⟩⟩
    exact (lookup_eq_some_iff_mem nodup).mpr hfield

/-- Equal objects have the same names. -/
theorem perm_names_of_same {xs ys : Record} (hxs : xs.names.Nodup) (hys : ys.names.Nodup)
    (same : (object xs == object ys) = true) : xs.names.Perm ys.names := by
  obtain ⟨_, h, length, each⟩ := object_same_iff.mp same
  cases h
  have within : xs.names ⊆ ys.names := by
    rintro name hname
    obtain ⟨field, hfield, rfl⟩ := List.mem_map.mp hname
    obtain ⟨y, hy, -⟩ := each field hfield
    have found : (field.1, y) ∈ ys := (lookup_eq_some_iff_mem hys).mp hy
    exact List.mem_map.mpr ⟨_, found, rfl⟩
  refine (hxs.subperm within).perm_of_length_le ?_
  rw [Record.names, Record.names, List.length_map, List.length_map, length]

theorem number_symm {a b : Value} (number : a.isNumber = true) (same : (a == b) = true) :
    (b == a) = true := by
  obtain ⟨x, ha, hb⟩ := (number_same_iff number).mp same
  exact (number_same_iff (isNumber_of_number? hb)).mpr ⟨x, hb, ha⟩

theorem number_trans {a b c : Value} (number : a.isNumber = true) (hab : (a == b) = true)
    (hbc : (b == c) = true) : (a == c) = true := by
  obtain ⟨x, ha, hb⟩ := (number_same_iff number).mp hab
  obtain ⟨y, hb', hc⟩ := (number_same_iff (isNumber_of_number? hb)).mp hbc
  obtain rfl := Option.some.inj (hb.symm.trans hb')
  exact (number_same_iff number).mpr ⟨x, ha, hc⟩

/-- Equality has no direction. -/
theorem same_symm {a b : Value} (ha : a.HasDistinctNames) (hb : b.HasDistinctNames)
    (same : (a == b) = true) : (b == a) = true := by
  induction a using inductionOnParts generalizing b with
  | null => obtain rfl := null_same_iff.mp same; exact same
  | bool c => obtain rfl := bool_same_iff.mp same; exact same
  | text s => obtain rfl := text_same_iff.mp same; exact same
  | int i => exact number_symm rfl same
  | float f => exact number_symm rfl same
  | list xs ih =>
    obtain ⟨ys, rfl, each⟩ := list_same_iff.mp same
    have hxs := hasDistinctNames_list_iff.mp ha
    have hys := hasDistinctNames_list_iff.mp hb
    rw [List.forall₂_iff_get] at each
    refine list_same_iff.mpr ⟨xs, rfl, List.forall₂_iff_get.mpr ⟨each.1.symm, fun i hi hi' => ?_⟩⟩
    exact ih _ (List.get_mem ..) (hxs _ (List.get_mem ..))
      (hys _ (List.get_mem ..)) (each.2 i hi' hi)
  | object xs ih =>
    obtain ⟨ys, rfl, length, each⟩ := object_same_iff.mp same
    obtain ⟨nodupxs, hxs⟩ := hasDistinctNames_object_iff.mp ha
    obtain ⟨nodupys, hys⟩ := hasDistinctNames_object_iff.mp hb
    refine object_same_iff.mpr ⟨xs, rfl, length.symm, fun field hfield => ?_⟩
    -- A field of the second object is found in the first one, and the names there are different.
    have named : field.1 ∈ xs.names :=
      (perm_names_of_same nodupxs nodupys same).mem_iff.mpr (List.mem_map_of_mem hfield)
    obtain ⟨⟨name, x⟩, hx, rfl⟩ := List.mem_map.mp named
    obtain ⟨y, hy, samey⟩ := each _ hx
    obtain rfl : y = field.2 :=
      Option.some.inj (hy.symm.trans ((lookup_eq_some_iff_mem nodupys).mpr hfield))
    exact ⟨x, (lookup_eq_some_iff_mem nodupxs).mpr hx, ih _ hx (hxs _ hx) (hys _ hfield) samey⟩

/-- What equals a third value through a second one equals it. -/
theorem same_trans {a b c : Value} (hab : (a == b) = true) (hbc : (b == c) = true) :
    (a == c) = true := by
  induction a using inductionOnParts generalizing b c with
  | null => obtain rfl := null_same_iff.mp hab; exact hbc
  | bool c => obtain rfl := bool_same_iff.mp hab; exact hbc
  | text s => obtain rfl := text_same_iff.mp hab; exact hbc
  | int i => exact number_trans rfl hab hbc
  | float f => exact number_trans rfl hab hbc
  | list xs ih =>
    obtain ⟨ys, rfl, hxy⟩ := list_same_iff.mp hab
    obtain ⟨zs, rfl, hyz⟩ := list_same_iff.mp hbc
    rw [List.forall₂_iff_get] at hxy hyz
    refine list_same_iff.mpr
      ⟨zs, rfl, List.forall₂_iff_get.mpr ⟨hxy.1.trans hyz.1, fun i hi hi' => ?_⟩⟩
    exact ih _ (List.get_mem ..) (hxy.2 i hi (hxy.1 ▸ hi)) (hyz.2 i (hxy.1 ▸ hi) hi')
  | object xs ih =>
    obtain ⟨ys, rfl, lengthxy, hxy⟩ := object_same_iff.mp hab
    obtain ⟨zs, rfl, lengthyz, hyz⟩ := object_same_iff.mp hbc
    refine object_same_iff.mpr ⟨zs, rfl, lengthxy.trans lengthyz, fun field hfield => ?_⟩
    obtain ⟨y, hy, samey⟩ := hxy field hfield
    obtain ⟨front, back, rfl, -⟩ := List.lookup_eq_some_iff.mp hy
    obtain ⟨z, hz, samez⟩ := hyz (field.1, y) (List.mem_append_right _ (List.mem_cons_self ..))
    exact ⟨z, hz, ih field hfield samey samez⟩

/-! ### What is fed to a hash function -/

/-- Fields with different names can be put in in either order. -/
theorem insertByName_comm {name other : String} (hne : name ≠ other) (items others : List KeyItem)
    (fields : List (String × List KeyItem)) :
    insertByName name items (insertByName other others fields) =
      insertByName other others (insertByName name items fields) := by
  induction fields with
  | nil =>
    rcases hne.lt_or_gt with lt | lt <;> simp [insertByName, lt.le, lt.not_ge]
  | cons field fields ih =>
    obtain ⟨k, v⟩ := field
    by_cases first : name ≤ k <;> by_cases second : other ≤ k
    · rcases hne.lt_or_gt with lt | lt <;> simp [insertByName, first, second, lt.le, lt.not_ge]
    · have lt : name < other := lt_of_le_of_lt first (not_le.mp second)
      simp [insertByName, first, second, lt.not_ge]
    · have lt : other < name := lt_of_le_of_lt second (not_le.mp first)
      simp [insertByName, first, second, lt.not_ge]
    · simp [insertByName, first, second, ih]

theorem itemsKeyItems_eq (items : List Value) : itemsKeyItems items = items.flatMap keyItems := by
  induction items with
  | nil => rfl
  | cons item items ih => rw [itemsKeyItems, ih, List.flatMap_cons]

/-- A field with the items of its value. -/
def keyField (field : String × Value) : String × List KeyItem := (field.1, field.2.keyItems)

theorem fieldsKeyItems_eq (fields : Record) : fieldsKeyItems fields =
    (fields.map keyField).foldr (fun field => insertByName field.1 field.2) [] := by
  induction fields with
  | nil => rfl
  | cons field fields ih => rw [fieldsKeyItems, ih]; rfl

/-- The items of the fields do not depend on their order. -/
theorem fieldsKeyItems_eq_of_perm {xs ys : Record} (nodup : xs.names.Nodup)
    (perm : (xs.map keyField).Perm (ys.map keyField)) : fieldsKeyItems xs = fieldsKeyItems ys := by
  rw [fieldsKeyItems_eq, fieldsKeyItems_eq]
  refine perm.foldr_eq' (fun x hx y hy fields => ?_) []
  by_cases hne : x.1 = y.1
  · have names : ((xs.map keyField).map Prod.fst).Nodup := by
      rwa [List.map_map]
    rw [List.inj_on_of_nodup_map names hx hy hne]
  · exact insertByName_comm (Ne.symm hne) ..

/-- A number that is a 64-bit integer feeds that integer. -/
theorem keyItems_of_number?_int {a : Value} {i : Int64}
    (h : a.number? = some ((i.toInt : ℝ) : EReal)) : a.keyItems = [.kind 2, .int i] := by
  cases a with
  | int j =>
    have : (j.toInt : ℝ) = i.toInt := by simpa [number?] using h
    rw [keyItems, Int64.toInt_inj.mp (Int.cast_injective this)]
  | float f => rw [keyItems, exactInt64?_eq_some_iff.mpr h]
  | _ => simp [number?] at h

/-- A number feeds the items that an equal value feeds. -/
theorem number_keyItems_eq {a b : Value} (number : a.isNumber = true) (same : (a == b) = true) :
    a.keyItems = b.keyItems := by
  obtain ⟨x, ha, hb⟩ := (number_same_iff number).mp same
  by_cases whole : ∃ i : Int64, x = ((i.toInt : ℝ) : EReal)
  · obtain ⟨i, rfl⟩ := whole
    rw [keyItems_of_number?_int ha, keyItems_of_number?_int hb]
  · -- Neither is an integer, and two floats that are one number other than zero have the same bits.
    cases a with
    | int i => exact absurd ⟨i, (Option.some.inj ha).symm⟩ whole
    | float f =>
      cases b with
      | int i => exact absurd ⟨i, (Option.some.inj hb).symm⟩ whole
      | float g =>
        have nonzero : x ≠ 0 := fun zero => whole ⟨0, by simpa using zero⟩
        rw [eq_of_number? ha hb nonzero]
      | _ => cases hb
    | _ => cases ha

/-- Equal values feed the same items to a hash function. -/
theorem keyItems_eq_of_same {a b : Value} (ha : a.HasDistinctNames) (hb : b.HasDistinctNames)
    (same : (a == b) = true) : a.keyItems = b.keyItems := by
  induction a using inductionOnParts generalizing b with
  | null => rw [null_same_iff.mp same]
  | bool c => rw [bool_same_iff.mp same]
  | text s => rw [text_same_iff.mp same]
  | int i => exact number_keyItems_eq rfl same
  | float f => exact number_keyItems_eq rfl same
  | list xs ih =>
    obtain ⟨ys, rfl, each⟩ := list_same_iff.mp same
    have hxs := hasDistinctNames_list_iff.mp ha
    have hys := hasDistinctNames_list_iff.mp hb
    have items : xs.map keyItems = ys.map keyItems := by
      rw [List.forall₂_iff_get] at each
      refine List.ext_get (by simpa using each.1) fun i hi hi' => ?_
      simp only [List.get_eq_getElem, List.getElem_map]
      simp only [List.length_map] at hi hi'
      exact ih _ (List.get_mem ..) (hxs _ (List.get_mem ..))
        (hys _ (List.get_mem ..)) (each.2 i hi hi')
    rw [keyItems, keyItems, itemsKeyItems_eq, itemsKeyItems_eq, each.length_eq,
      List.flatMap, List.flatMap, items]
  | object xs ih =>
    obtain ⟨ys, rfl, length, each⟩ := object_same_iff.mp same
    obtain ⟨nodupxs, hxs⟩ := hasDistinctNames_object_iff.mp ha
    obtain ⟨nodupys, hys⟩ := hasDistinctNames_object_iff.mp hb
    have within : xs.map keyField ⊆ ys.map keyField := by
      rintro _ hfield
      obtain ⟨field, hx, rfl⟩ := List.mem_map.mp hfield
      obtain ⟨y, hy, samey⟩ := each field hx
      have found : (field.1, y) ∈ ys := (lookup_eq_some_iff_mem nodupys).mp hy
      have items : keyField field = keyField (field.1, y) :=
        Prod.ext rfl (ih field hx (hxs _ hx) (hys _ found) samey)
      exact items ▸ List.mem_map_of_mem found
    have nodup : (xs.map keyField).Nodup := List.Nodup.of_map Prod.fst (by rwa [List.map_map])
    have perm := (nodup.subperm within).perm_of_length_le (by simp [length])
    rw [keyItems, keyItems, length, fieldsKeyItems_eq_of_perm nodupxs perm]

end Value

end RecordFlow
