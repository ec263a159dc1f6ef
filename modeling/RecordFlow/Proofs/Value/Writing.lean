import RecordFlow.Proofs.Value.Path

/-!
# What is read behind a change

A path is read as the name of a field first, and segment by segment otherwise, through objects by
name and through lists by position. It is set segment by segment, and only through objects. It is
removed as the name of a field first, and segment by segment otherwise, and again only through
objects. So there are records in which a change at a path is not what is read there. A field that
has a path with dots as its name hides what is set at the path. If it is removed, what has stood
behind it comes to light, and an item of a list cannot be removed at all.

## Main definitions

* `Value.follow?` — the value that keys lead to through objects only
* `Record.IsClear` — on a way nothing stands but objects
* `Record.LeadsToOnePlace` — a path leads to one value at most, and not through a list

## Main results

* `Record.getPath?_setPath_eq`, `Record.getPath?_setPath_iff` — what is
  read where a value has been set
* `Record.getPath?_setPath_undisturbed` — what is read at other paths where a
  value has been set on a clear way
* `Record.removePath_fst`, `Record.getPath?_removePath` — what is removed at a path,
  and what is read there afterwards
* `Record.removes_iff` — a path is removed as it is read exactly if it leads to one place
* `Record.names_removePath`, `Record.getPath?_removePath_of_lieApart` —
  what a removal leaves as it is
-/

namespace RecordFlow

/-- The value that keys lead to, one after the other, through objects only. -/
def Value.follow? (value : Value) : List String → Option Value
  | [] => some value
  | key :: rest =>
    match value with
    | .object fields => (Record.get? fields key).bind (·.follow? rest)
    | _ => none

namespace Record

variable {record left : Record} {name other path : String} {value : Value} {ps qs : List String}

/-! ### Setting -/

/-- A field that has a path with dots as its name hides what is set at the path. -/
theorem getPath?_setPath_eq (nonempty : path.isEmpty = false) (record : Record) (value : Value) :
    (record.setPath path value).getPath? path =
      some (if '.' ∈ path.toList then (record.get? path).getD value else value) := by
  by_cases dotted : '.' ∈ path.toList
  · rw [if_pos dotted]
    cases named : record.get? path with
    | none => exact getPath?_setPath nonempty (fun _ => named) value
    | some hidden => rw [getPath?, nonempty,
      get?_setPath (head?_pathSegments_ne dotted), named]; rfl
  · rw [if_neg dotted]
    exact getPath?_setPath nonempty (fun dot => absurd dot dotted) value

/-- **What is set is what is read** exactly if no other value hides it: a path without dots is read
where it is set, and a path with dots unless a field has the whole path as its name. Then this
field is read, whatever is set. -/
theorem getPath?_setPath_iff (path : String) (nonempty : path.isEmpty = false)
    (record : Record) (value : Value) : ((record.setPath path value).getPath? path = some value ↔
      ('.' ∈ path.toList → ∀ hidden, record.get? path = some hidden → hidden = value)) ∧
    ('.' ∈ path.toList → ∀ hidden, record.get? path = some hidden →
      (record.setPath path value).getPath? path = some hidden) := by
  rw [getPath?_setPath_eq nonempty]
  by_cases dotted : '.' ∈ path.toList <;> cases named : record.get? path <;> simp [dotted]

/-- A user whose city stands under a name with a dot, as an aggregation may have put it there. -/
def flatUser : Record := [("id", .int 7), ("user.city", .text "Oslo")]

theorem getPath?_setPath_iff_flatUser :
    "user.name".isEmpty = false ∧
      (flatUser.setPath "user.name" (.text "Ada")).getPath? "user.name" = some (.text "Ada") := by
  refine ⟨by decide, (getPath?_setPath_iff "user.name" (by decide) flatUser (.text "Ada")).1.mpr ?_⟩
  intro _ hidden named
  cases named

/-- The city is set in a new object, and the old one is read. A removal
would have taken the old one. -/
theorem getPath?_setPath_flatUser :
    flatUser.setPath "user.city" (.text "Bergen") =
        [("id", .int 7), ("user.city", .text "Oslo"),
          ("user", .object [("city", .text "Bergen")])] ∧
      (flatUser.setPath "user.city" (.text "Bergen")).getPath? "user.city" ≠ some (.text "Bergen") ∧
      flatUser.removePath "user.city" = (some (.text "Oslo"), [("id", .int 7)]) := by
  have read : (flatUser.setPath "user.city" (.text "Bergen")).getPath? "user.city" =
    some (.text "Oslo") := rfl
  refine ⟨rfl, ?_, rfl⟩
  rw [read]
  simp

/-! ### What setting leaves as it is

A value that is no object gives way when a value is set behind it, and what it holds is gone. On a
clear way nothing gives way, and other paths lead where they have led. -/

/-- On the way of the segments, before its end, nothing stands but objects. -/
def IsClear (record : Record) (ps : List String) : Prop :=
  ∀ cut, cut <+: ps → cut ≠ ps → ∀ there, (Value.object record).follow? cut = some there →
    ∃ fields, there = .object fields

theorem isClear_singleton (record : Record) (p : String) : record.IsClear [p] := by
  intro cut beginning proper there found
  rcases List.prefix_cons_iff.mp beginning with rfl | ⟨rest, rfl, none⟩
  · exact ⟨record, (Option.some.inj found).symm⟩
  · exact absurd (by rw [List.prefix_nil.mp none]) proper

/-- A way of several segments is clear if the first one leads to nothing, or to an
object from which the rest is. -/
theorem isClear_cons_iff {p : String} (nonempty : ps ≠ []) : record.IsClear (p :: ps) ↔
    ∀ there, record.get? p = some there → ∃ fields, there = .object fields ∧ IsClear fields ps := by
  constructor
  · intro clear there hthere
    have first : (Value.object record).follow? [p] = some there := by simp [Value.follow?, hthere]
    obtain ⟨fields, rfl⟩ := clear [p] (by simp) (by simpa using Ne.symm nonempty) there first
    refine ⟨fields, rfl, fun cut beginning proper value found => ?_⟩
    refine clear (p :: cut) (by simpa using beginning) (by simpa using proper) value ?_
    simpa [Value.follow?, hthere] using found
  · intro clear cut beginning proper value found
    cases cut with
    | nil => exact ⟨record, (Option.some.inj found).symm⟩
    | cons q cut =>
      obtain ⟨rfl, behind⟩ := List.cons_prefix_cons.mp beginning
      obtain ⟨there, hthere, found⟩ := Option.bind_eq_some_iff.mp found
      obtain ⟨fields, rfl, rest⟩ := clear there hthere
      exact rest cut behind (fun same => proper (same ▸ rfl)) value found

/-- A way without an obstacle is a clear one. -/
theorem obstacle?_eq_none_iff (record : Record) (ps : List String) :
    record.obstacle? ps = none ↔ record.IsClear ps := by
  induction ps generalizing record with
  | nil => exact ⟨fun _ cut beginning proper => absurd (List.prefix_nil.mp beginning) proper,
    fun _ => rfl⟩
  | cons p ps ih =>
    cases ps with
    | nil => exact ⟨fun _ => record.isClear_singleton p, fun _ => rfl⟩
    | cons next ps =>
      rw [isClear_cons_iff (List.cons_ne_nil next ps), obstacle?]
      cases found : record.get? p with
      | none => simp
      | some there =>
        cases there with
        | object fields => simpa using ih fields
        | _ => simp

theorem names_setPath (record : Record) (path : String) (value : Value) : ∃ first,
    (pathSegments path).head? = some first ∧ (record.setPath path value).names =
      if first ∈ record.names then record.names else record.names ++ [first] := by
  obtain ⟨first, rest, segments⟩ := List.exists_cons_of_ne_nil (Text.splitAtChar_ne_nil '.' path)
  obtain ⟨inner, set⟩ := record.exists_setSegments_eq first rest value
  exact ⟨first, by rw [pathSegments, segments]; rfl, by
    rw [setPath, pathSegments, segments, set, names_insert]⟩

/-- **Setting a value disturbs its own path only.** If nothing but objects stands on the way to it,
every path that lies apart leads where it has led: through objects, through lists or as the whole
name of a field. The fields of the record stay where they are, and at most one comes behind them,
under the first segment of the path. -/
theorem getPath?_setPath_undisturbed (record : Record) (path other : String)
    (apart : LieApart (pathSegments path) (pathSegments other))
    (clear : record.IsClear (pathSegments path)) (value : Value) :
    (record.setPath path value).getPath? other = record.getPath? other ∧
      ((record.setPath path value).names = record.names ∨
        ∃ first, (pathSegments path).head? = some first ∧ first ∉ record.names ∧
          (record.setPath path value).names = record.names ++ [first]) := by
  constructor
  · have kept : record.cutsOff path other = false := by
      rw [cutsOff, isBlocked, (record.obstacle?_eq_none_iff _).mpr clear]
      simp
    rw [getPath?_setPath_of_lieApart record apart, kept, if_neg Bool.false_ne_true]
  · obtain ⟨first, head, names⟩ := record.names_setPath path value
    by_cases known : first ∈ record.names
    · exact .inl (names.trans (if_pos known))
    · exact .inr ⟨first, head, known, names.trans (if_neg known)⟩

/-- A user with roles and, under a name with a dot, a label. -/
def labelledUser : Record :=
  [("user", .object [("name", .text "Ada"), ("roles", .list [.object [("title", .text "owner")]])]),
    ("user.address.label", .text "home")]

/-- A new object on the way hides neither a field with dots in its name nor an item of a list. -/
theorem getPath?_setPath_undisturbed_labelledUser :
    let housed := labelledUser.setPath "user.address.city" (.text "Oslo")
    LieApart (pathSegments "user.address.city") (pathSegments "user.address.label") ∧
      LieApart (pathSegments "user.address.city") (pathSegments "user.roles.0.title") ∧
      labelledUser.IsClear (pathSegments "user.address.city") ∧
      housed.getPath? "user.address.label" = some (.text "home") ∧
      housed.getPath? "user.roles.0.title" = some (.text "owner") := by
  have label : LieApart (pathSegments "user.address.city") (pathSegments "user.address.label") := by
    decide
  have role : LieApart (pathSegments "user.address.city") (pathSegments "user.roles.0.title") := by
    decide
  have clear : labelledUser.IsClear (pathSegments "user.address.city") :=
    (obstacle?_eq_none_iff _ _).mp rfl
  exact ⟨label, role, clear,
    (getPath?_setPath_undisturbed labelledUser _ _ label clear (.text "Oslo")).1.trans rfl,
    (getPath?_setPath_undisturbed labelledUser _ _ role clear (.text "Oslo")).1.trans rfl⟩

/-! ### Removing a field -/

theorem names_erase (record : Record) (name : String) :
    (record.erase name).names = record.names.erase name := by
  induction record with
  | nil => rfl
  | cons field record ih =>
    obtain ⟨k, v⟩ := field
    have first : names ((k, v) :: record) = k :: names record := rfl
    rw [erase, first, List.erase_cons]
    by_cases same : k = name
    · rw [if_pos same, if_pos (by simpa using same)]
    · rw [if_neg same, if_neg (by simpa using same), ← ih]
      rfl

theorem get?_erase_self (nodup : record.names.Nodup) (name : String) :
    (record.erase name).get? name = none := by
  rw [get?_eq_none_iff, names_erase]
  exact nodup.not_mem_erase

theorem get?_erase_of_ne (different : other ≠ name) (record : Record) :
    (record.erase name).get? other = record.get? other := by
  induction record with
  | nil => rfl
  | cons field record ih =>
    obtain ⟨k, v⟩ := field
    rw [erase]
    split
    next same => exact ((lookup_cons_eq_ite record k v other).trans
      (if_neg (same ▸ different))).symm
    next => rw [get?, get?, lookup_cons_eq_ite, lookup_cons_eq_ite, ← get?, ← get?, ih]

/-! ### Removing at the end of a way -/

/-- What is removed is what the way leads to, if it leads through objects only. -/
theorem map_fst_removeSegments? (record : Record) (ps : List String) :
    (record.removeSegments? ps).map Prod.fst =
    if (record.obstacle? ps).isNone then record.descend? ps else none := by
  induction ps generalizing record with
  | nil => rfl
  | cons p ps ih =>
    cases ps with
    | nil => cases found :
      record.get? p <;> simp [removeSegments?, obstacle?, descend?, Value.descend?, found]
    | cons next ps =>
      rw [removeSegments?, obstacle?, descend?]
      · cases found : record.get? p with
        | none => rfl
        | some there =>
          cases there with
          | object fields =>
            have ih := ih fields
            rw [← Value.descend?_object fields (List.cons_ne_nil next ps)] at ih
            simpa [Function.comp_def] using ih
          | _ => rfl
      · exact List.cons_ne_nil next ps

/-- A removal changes either the field at the end of the way or, in the object of the first field,
what the rest of the way leads to. -/
theorem removeSegments?_eq_some_iff {p : String} :
    record.removeSegments? (p :: ps) = some (value, left) ↔
    (ps = [] ∧ record.get? p = some value ∧ left = record.erase p) ∨
      ∃ fields inner, ps ≠ [] ∧ record.get? p = some (.object fields) ∧
        removeSegments? fields ps = some (value, inner) ∧
          left = record.insert p (.object inner) := by
  cases ps with
  | nil => simp [removeSegments?, eq_comm]
  | cons next ps =>
    rw [removeSegments?]
    · cases found : record.get? p with
      | none => simp
      | some there =>
        cases there with
        | object fields => simp [eq_comm]
        | _ => simp
    · exact List.cons_ne_nil next ps

/-- Nothing is left where something has been removed. -/
theorem descend?_of_removeSegments? (distinct : (Value.object record).HasDistinctNames)
    (removed : record.removeSegments? ps = some (value, left)) : left.descend? ps = none := by
  induction ps generalizing record left with
  | nil => cases removed
  | cons p ps ih =>
    rcases removeSegments?_eq_some_iff.mp removed with
      ⟨rfl, -, rfl⟩ | ⟨fields, inner, nonempty, found, below, rfl⟩
    · rw [descend?, get?_erase_self (Value.hasDistinctNames_object_iff.mp distinct).1]
      rfl
    · rw [descend?, get?_insert, if_pos rfl, Option.bind_some, Value.descend?_object inner nonempty]
      exact ih (distinct.get? found) below

/-- Only the field of the first segment is changed. -/
theorem get?_of_removeSegments? (removed : record.removeSegments? ps = some (value, left))
    (different : ps.head? ≠ some other) : left.get? other = record.get? other := by
  cases ps with
  | nil => cases removed
  | cons p ps =>
    have different : other ≠ p := fun same => different (same ▸ rfl)
    rcases removeSegments?_eq_some_iff.mp removed with ⟨-, -, rfl⟩ | ⟨fields, inner, -, -, -, rfl⟩
    · exact get?_erase_of_ne different record
    · rw [get?_insert, if_neg different]

/-- Other ways lead where they have led. -/
theorem descend?_of_removeSegments?_of_lieApart
    (removed : record.removeSegments? ps = some (value, left)) (apart : LieApart ps qs) :
    left.descend? qs = record.descend? qs := by
  induction ps generalizing record left qs with
  | nil => cases removed
  | cons p ps ih =>
    cases qs with
    | nil => rfl
    | cons q qs =>
      by_cases same : p = q
      · subst same
        have apart := lieApart_cons_iff.mp apart rfl
        rcases removeSegments?_eq_some_iff.mp removed with
          ⟨rfl, -⟩ | ⟨fields, inner, -, found, below, rfl⟩
        · exact absurd List.nil_prefix apart.1
        · have rest : qs ≠ [] := fun empty => apart.2 (empty ▸ List.nil_prefix)
          rw [descend?, descend?, get?_insert, if_pos rfl, found,
            Option.bind_some, Option.bind_some, Value.descend?_object inner rest,
            Value.descend?_object fields rest]
          exact ih below apart
      · rw [descend?, descend?, get?_of_removeSegments? removed (by simpa using same)]

/-! ### Removing at a path -/

theorem descend?_erase (other : ps.head? ≠ some name) (record : Record) :
    (record.erase name).descend? ps = record.descend? ps := by
  cases ps with
  | nil => rfl
  | cons p ps => rw [descend?, descend?, get?_erase_of_ne (by simpa using other)]

/-- A removal takes the field that has the whole path as its name, or what is removed at the
end of the way, or nothing. -/
theorem removePath_cases (record : Record) (path : String) :
    (∃ value, record.get? path = some value ∧
      record.removePath path = (some value, record.erase path)) ∨ record.get? path = none ∧
        ((∃ value left, record.removeSegments? (pathSegments path) = some (value, left) ∧
            record.removePath path = (some value, left)) ∨
          record.removeSegments? (pathSegments path) = none ∧
            record.removePath path = (none, record)) := by
  cases named : record.get? path with
  | some value => exact .inl ⟨value, rfl, by rw [removePath, named]⟩
  | none =>
    refine .inr ⟨rfl, ?_⟩
    cases removed : record.removeSegments? (pathSegments path) with
    | none => exact .inr ⟨rfl, by rw [removePath, named, removed]⟩
    | some found => exact .inl ⟨found.1, found.2, rfl, by rw [removePath, named, removed]⟩

/-- Without a field of that name, only a path with dots leads to something. -/
theorem dotted_of_removeSegments? (unnamed : record.get? path = none)
    (removed : record.removeSegments? (pathSegments path) = some (value, left)) :
    '.' ∈ path.toList := by
  by_contra undotted
  rw [pathSegments, Text.splitAtChar_of_not_mem undotted, removeSegments?, unnamed] at removed
  cases removed

/-- What is removed at a path is the field of that name, or what the way leads to if it
leads through objects only. -/
theorem removePath_fst (record : Record) (path : String) :
    (record.removePath path).1 = (record.get? path).or
    (if (record.obstacle? (pathSegments path)).isNone then record.descend? (pathSegments path)
      else none) := by
  rw [← map_fst_removeSegments?]
  obtain ⟨value, named, removes⟩ | ⟨unnamed,
      ⟨value, left, removed, removes⟩ | ⟨removed, removes⟩⟩ :=
    record.removePath_cases path
  · rw [removes, named]; rfl
  · rw [removes, unnamed, removed]; rfl
  · rw [removes, unnamed, removed]; rfl

/-- What is read at a path from which something has been removed. Behind a field with the whole path
as its name stands what the way leads to, and an item of a list stays where it is. -/
theorem getPath?_removePath (distinct : (Value.object record).HasDistinctNames)
    (nonempty : path.isEmpty = false) : (record.removePath path).2.getPath? path =
      if (record.get? path).isSome then
        if '.' ∈ path.toList then record.descend? (pathSegments path) else none
      else if (record.obstacle? (pathSegments path)).isNone then none
      else record.descend? (pathSegments path) := by
  have fst := record.map_fst_removeSegments? (pathSegments path)
  obtain ⟨value, named, removes⟩ | ⟨unnamed,
      ⟨value, left, removed, removes⟩ | ⟨removed, removes⟩⟩ :=
    record.removePath_cases path
  · have gone := get?_erase_self (Value.hasDistinctNames_object_iff.mp distinct).1 path
    rw [removes, getPath?, nonempty, gone, named]
    by_cases dotted : '.' ∈ path.toList
    · simp [dotted, descend?_erase (head?_pathSegments_ne dotted)]
    · rw [pathSegments, Text.splitAtChar_of_not_mem dotted, descend?, gone]
      simp [dotted]
  · have dotted := dotted_of_removeSegments? unnamed removed
    have clear : (record.obstacle? (pathSegments path)).isNone = true := by
      by_contra blocked
      rw [removed, if_neg blocked] at fst
      cases fst
    rw [removes, getPath?, nonempty, get?_of_removeSegments? removed (head?_pathSegments_ne dotted),
      unnamed, descend?_of_removeSegments? distinct removed]
    simp [clear]
  · rw [removes, getPath?, nonempty, unnamed]
    by_cases clear : (record.obstacle? (pathSegments path)).isNone = true
    · rw [removed, if_pos clear] at fst
      simp [clear, ← fst]
    · simp [clear]

/-- A path leads to one value at most, and not through a list: to the field that has the
whole path as its name, with nothing at the end of the way if the path has dots, or to the
end of a way through objects. -/
structure LeadsToOnePlace (record : Record) (path : String) : Prop where
  alone : '.' ∈ path.toList → (record.get? path).isSome → record.descend? (pathSegments path) = none
  direct : record.get? path = none → (record.descend? (pathSegments path)).isSome →
    record.obstacle? (pathSegments path) = none

/-- A path is removed as it is read exactly if it leads to one place. -/
theorem removes_iff (distinct : (Value.object record).HasDistinctNames)
    (nonempty : path.isEmpty = false) :
    ((record.removePath path).1 = record.getPath? path ∧
      (record.removePath path).2.getPath? path = none) ↔ record.LeadsToOnePlace path := by
  rw [removePath_fst, getPath?_removePath distinct nonempty, getPath?, nonempty,
    if_neg Bool.false_ne_true]
  cases named : record.get? path with
  | some value =>
    -- The field is read and removed, and what counts is what stands behind it.
    constructor
    · rintro ⟨-, gone⟩
      exact ⟨fun dotted _ => by simpa [dotted] using gone,
        fun unnamed => by simp [named] at unnamed⟩
    · intro one
      refine ⟨rfl, ?_⟩
      by_cases dotted : '.' ∈ path.toList
      · simpa [dotted] using one.alone dotted (by simp [named])
      · simp [dotted]
  | none =>
    cases reached : record.descend? (pathSegments path) with
    | none => simpa using (⟨fun _ _ => reached, fun _ some => by simp [reached] at some⟩ :
      record.LeadsToOnePlace path)
    | some value =>
      cases obstacle : record.obstacle? (pathSegments path) with
      | none => simpa using (⟨fun _ some => by simp [named] at some, fun _ _ => obstacle⟩ :
        record.LeadsToOnePlace path)
      | some cut =>
        -- The way leads through a list, so that nothing is removed.
        constructor
        · intro both
          simpa using both.1
        · intro one
          have clear := one.direct named (by simp [reached])
          rw [obstacle] at clear
          cases clear

/-- The fields that are left keep their order. -/
theorem names_removePath (record : Record) (path : String) :
    (record.removePath path).2.names = record.names.erase path := by
  obtain ⟨value, named, removes⟩ | ⟨unnamed, ⟨value, left, removed, removes⟩ | ⟨-, removes⟩⟩ :=
    record.removePath_cases path
  · rw [removes, names_erase]
  · obtain ⟨p, next, ps, segments⟩ :=
      Text.exists_splitAtChar_eq_of_mem (dotted_of_removeSegments? unnamed removed)
    rw [pathSegments, segments] at removed
    obtain ⟨none, -⟩ | ⟨fields, inner, -, found, -, rfl⟩ := removeSegments?_eq_some_iff.mp removed
    · cases none
    · have known : p ∈ record.names := by
        by_contra unknown
        rw [get?_eq_none_iff.mpr unknown] at found
        cases found
      rw [removes, names_insert, if_pos known, List.erase_of_not_mem (get?_eq_none_iff.mp unnamed)]
  · rw [removes, List.erase_of_not_mem (get?_eq_none_iff.mp unnamed)]

/-- Other paths lead where they have led. -/
theorem getPath?_removePath_of_lieApart (record : Record)
    (apart : LieApart (pathSegments path) (pathSegments other)) :
    (record.removePath path).2.getPath? other = record.getPath? other := by
  obtain ⟨value, named, removes⟩ | ⟨unnamed, ⟨value, left, removed, removes⟩ | ⟨-, removes⟩⟩ :=
    record.removePath_cases path
  · have different : other ≠ path := fun same => apart.1 (same ▸ List.prefix_rfl)
    rw [removes, getPath?, getPath?, get?_erase_of_ne different,
      descend?_erase (head?_ne_of_lieApart apart.symm)]
  · rw [removes, getPath?, getPath?, get?_of_removeSegments? removed (head?_ne_of_lieApart apart),
      descend?_of_removeSegments?_of_lieApart removed apart]
  · rw [removes]

end Record

end RecordFlow
