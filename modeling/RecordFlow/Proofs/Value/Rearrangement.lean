import RecordFlow.Proofs.Value.Writing

/-!
# The order of fields

Values set at paths that lie apart do not disturb one another. In which order they are set
shows only in the order of the fields: an object on the way to several of them has their fields
in the order in which they came.

## Main definitions

* `Value.Rearranged` — a value is another one with the fields of its objects in another order
* `LieAllApart` — of several paths none is the beginning of another one
* `Record.setPaths` — sets values at paths, one after the other

## Main results

* `Record.rearranged_setSegments_comm` — two values set at ways that lie apart
* `Record.rearranged_setPaths_of_perm` — values set in another order
-/

namespace RecordFlow

/-- A value is another one up to the order of fields: it is that value, or both are objects with the
same names, and under each name stand values of which the same is so. -/
inductive Value.Rearranged : Value → Value → Prop
  | refl (value : Value) : Rearranged value value
  | object {xs ys : Record} (names : xs.names.Perm ys.names)
      (each : ∀ name x y, xs.get? name = some x → ys.get? name = some y → Rearranged x y) :
      Rearranged (.object xs) (.object ys)

namespace Record

theorem rearranged_iff {xs ys : Record} : (Value.object xs).Rearranged (.object ys) ↔
    xs.names.Perm ys.names ∧
      ∀ name x y, xs.get? name = some x → ys.get? name = some y → x.Rearranged y := by
  constructor
  · rintro (_ | ⟨names, each⟩)
    · refine ⟨.refl _, fun name x y hx hy => ?_⟩
      obtain rfl := Option.some.inj (hx.symm.trans hy)
      exact .refl x
    · exact ⟨names, each⟩
  · rintro ⟨names, each⟩
    exact .object names each

/-- Records with the same names have a value for the same of them. -/
theorem exists_get?_of_perm {xs ys : Record} (names : xs.names.Perm ys.names)
    {name : String} {x : Value} (h : xs.get? name = some x) : ∃ y, ys.get? name = some y := by
  rw [← Option.ne_none_iff_exists', ne_eq, get?_eq_none_iff, not_not, ← names.mem_iff]
  by_contra new
  rw [get?_eq_none_iff.mpr new] at h
  cases h

end Record

namespace Value.Rearranged

variable {a b c : Value}

theorem trans (first : a.Rearranged b) (second : b.Rearranged c) : a.Rearranged c := by
  induction first generalizing c with
  | refl => exact second
  | @object xs ys names each ih =>
    cases second with
    | refl => exact .object names each
    | @object _ zs names' each' =>
      refine .object (names.trans names') fun name x z hx hz => ?_
      -- The value in between is there because the names are the same.
      obtain ⟨y, hy⟩ := Record.exists_get?_of_perm names hx
      exact ih name x y hx hy (each' name y z hy hz)

theorem fieldsOrEmpty (h : a.Rearranged b) :
    (Value.object a.fieldsOrEmpty).Rearranged (.object b.fieldsOrEmpty) := by
  cases h with
  | refl => exact .refl _
  | object names each => exact .object names each

end Value.Rearranged

/-! ### Paths that lie apart -/

/-- Of several paths none is the beginning of another one, segment by segment. -/
def LieAllApart (paths : List String) : Prop :=
  paths.Pairwise fun p q => LieApart (pathSegments p) (pathSegments q)

instance (paths : List String) : Decidable (LieAllApart paths) :=
  inferInstanceAs (Decidable (List.Pairwise _ paths))

namespace LieAllApart

variable {path : String} {paths others : List String}

theorem cons_iff : LieAllApart (path :: paths) ↔
    (∀ other ∈ paths, LieApart (pathSegments path) (pathSegments other)) ∧ LieAllApart paths :=
  List.pairwise_cons

theorem perm (apart : LieAllApart paths) (perm : paths.Perm others) : LieAllApart others :=
  List.Pairwise.perm apart perm LieApart.symm

theorem sublist (apart : LieAllApart paths) (sublist : others.Sublist paths) : LieAllApart others :=
  List.Pairwise.sublist sublist apart

end LieAllApart

namespace Record

variable {record other : Record} {a b : Value} {p q : String} {ps qs : List String}

/-! ### Fields -/

theorem insert_insert (record : Record) (name : String) (value other : Value) :
    (record.insert name value).insert name other = record.insert name other := by
  induction record with
  | nil => exact if_pos rfl
  | cons field record ih =>
    obtain ⟨k, v⟩ := field
    rw [insert, insert]
    split
    next same => rw [insert, if_pos same]
    next different => rw [insert, if_neg different, ih]

theorem rearranged_insert (h : (Value.object record).Rearranged (.object other)) (name : String)
    (value : a.Rearranged b) :
    (Value.object (record.insert name a)).Rearranged (.object (other.insert name b)) := by
  obtain ⟨names, each⟩ := rearranged_iff.mp h
  refine .object ?_ fun found x y hx hy => ?_
  · rw [names_insert, names_insert]
    by_cases known : name ∈ record.names
    · rwa [if_pos known, if_pos (names.mem_iff.mp known)]
    · rw [if_neg known, if_neg (mt names.mem_iff.mpr known)]
      exact names.append_right [name]
  · rw [get?_insert] at hx hy
    split at hx
    next same =>
      rw [if_pos same] at hy
      cases hx
      cases hy
      exact value
    next different =>
      rw [if_neg different] at hy
      exact each found x y hx hy

theorem rearranged_insert_comm (different : p ≠ q) (record : Record) (a b : Value) :
    (Value.object ((record.insert p a).insert q b)).Rearranged
      (.object ((record.insert q b).insert p a)) := by
  refine .object ?_ fun name x y hx hy => ?_
  · have swap : (record.names ++ [p, q]).Perm (record.names ++ [q, p]) :=
      (List.Perm.swap q p []).append_left _
    by_cases hp : p ∈ record.names <;> by_cases hq : q ∈ record.names <;>
      simp [names_insert, hp, hq, different, different.symm, swap]
  · rw [get?_insert, get?_insert] at hx hy
    have same : x = y := by grind
    exact same ▸ .refl x

/-! ### Ways -/

/-- What is set in the field of the first segment depends on what is there. -/
theorem exists_setSegments_eq_insert (p : String) (ps : List String) (value : Value) :
    ∃ inner : Option Value → Value, ∀ record : Record,
      record.setSegments (p :: ps) value = record.insert p (inner (record.get? p)) := by
  cases ps with
  | nil => exact ⟨fun _ => value, fun _ => rfl⟩
  | cons next ps =>
    exact ⟨fun there => .object (setSegments ((there.map Value.fieldsOrEmpty).getD [])
      (next :: ps) value), fun record => setSegments_cons (List.cons_ne_nil next ps) record p value⟩

theorem rearranged_setSegments (h : (Value.object record).Rearranged (.object other))
    (ps : List String) (value : Value) :
    (Value.object (record.setSegments ps value)).Rearranged
      (.object (other.setSegments ps value)) := by
  induction ps generalizing record other with
  | nil => exact h
  | cons p ps ih =>
    by_cases last : ps = []
    · subst last
      exact rearranged_insert h p (.refl value)
    · rw [setSegments_cons last, setSegments_cons last]
      refine rearranged_insert h p (ih ?_)
      obtain ⟨names, each⟩ := rearranged_iff.mp h
      cases found : record.get? p with
      | none =>
        have new : other.get? p = none := by
          rw [get?_eq_none_iff, ← names.mem_iff, ← get?_eq_none_iff]
          exact found
        rw [new]
        exact .refl _
      | some x =>
        obtain ⟨y, hy⟩ := exists_get?_of_perm names found
        rw [hy]
        exact (each p x y found hy).fieldsOrEmpty

/-- **Values set at ways that lie apart** can be set in either order. -/
theorem rearranged_setSegments_comm (apart : LieApart ps qs) (record : Record) (a b : Value) :
    (Value.object ((record.setSegments ps a).setSegments qs b)).Rearranged
      (.object ((record.setSegments qs b).setSegments ps a)) := by
  induction ps generalizing record qs with
  | nil => exact absurd List.nil_prefix apart.1
  | cons p ps ih =>
    cases qs with
    | nil => exact absurd List.nil_prefix apart.2
    | cons q qs =>
      by_cases same : p = q
      · subst same
        have apart := lieApart_cons_iff.mp apart rfl
        have hps : ps ≠ [] := fun empty => apart.1 (empty ▸ List.nil_prefix)
        have hqs : qs ≠ [] := fun empty => apart.2 (empty ▸ List.nil_prefix)
        -- Both are set in the object of one field, one after the other.
        simp only [setSegments_cons hps, setSegments_cons hqs, get?_insert, if_pos,
          Option.map_some, Option.getD_some, Value.fieldsOrEmpty, insert_insert]
        exact rearranged_insert (.refl _) p (ih apart _)
      · obtain ⟨first, setFirst⟩ := exists_setSegments_eq_insert p ps a
        obtain ⟨second, setSecond⟩ := exists_setSegments_eq_insert q qs b
        rw [setFirst, setSecond, setSecond, setFirst, get?_insert, get?_insert,
          if_neg same, if_neg (Ne.symm same)]
        exact rearranged_insert_comm same record _ _

/-! ### Paths -/

/-- Sets values at paths, one after the other. -/
def setPaths (record : Record) (assignments : List (String × Value)) : Record :=
  assignments.foldl (fun record (path, value) => record.setPath path value) record

theorem rearranged_setPaths (h : (Value.object record).Rearranged (.object other))
    (assignments : List (String × Value)) :
    (Value.object (record.setPaths assignments)).Rearranged
      (.object (other.setPaths assignments)) := by
  induction assignments generalizing record other with
  | nil => exact h
  | cons assignment assignments ih => exact ih (rearranged_setSegments h _ _)

/-- **Values set in another order** at paths that lie apart come to the
same up to the order of fields. -/
theorem rearranged_setPaths_of_perm {assignments others : List (String × Value)}
    (perm : assignments.Perm others) (apart : LieAllApart (assignments.map Prod.fst))
    (record : Record) :
    (Value.object (record.setPaths assignments)).Rearranged (.object (record.setPaths others)) := by
  induction perm generalizing record with
  | nil => exact .refl _
  | cons assignment _ ih => exact ih (LieAllApart.cons_iff.mp apart).2 _
  | swap first second rest =>
    have neighbours := (LieAllApart.cons_iff.mp apart).1 first.1 (List.mem_cons_self ..)
    exact rearranged_setPaths (rearranged_setSegments_comm neighbours record second.2 first.2) rest
  | trans perm _ ih ih' => exact (ih apart record).trans (ih' (apart.perm (perm.map _)) record)

end Record

end RecordFlow
