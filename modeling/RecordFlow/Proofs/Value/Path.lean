import RecordFlow.Proofs.Text.Split
import RecordFlow.Proofs.Value.Equality
import RecordFlow.Value.Path

/-!
# Fields and paths of records

## Main definitions

* `Record.overwrite` — a record whose fields are replaced by those of another one
* `IsPlainName` — a path that is one segment
* `Record.ReadsAsSet` — a path is read where it is set
* `LieApart` — neither of two lists of segments is the beginning of the other
* `Record.obstacle?` — the way to a value that is no object and gives
  way when a value is set behind it
* `Record.cutsOff` — a path leads through the obstacle of another one

## Main results

* `Record.get?_eq_none_iff` — the names of a record are those with a value
* `Record.get?_insert`, `Record.get?_ofFields` — what is found in a record that is put together
* `Record.foldl_insert` — fields with new names come after those that are there
* `Record.names_overwrite`, `Record.get?_overwrite` — the names and values
  after fields have been replaced
* `Record.names_ofFields` — the names of a record that is put together
* `Record.getPath?_of_isPlainName` — a plain name leads to the field of that name
* `Record.descend?_setPath`, `Record.getPath?_setPath` — a path leads to
  the value that has been set there
* `Record.getPath?_setPath_of_lieApart` — other paths lead where they have led,
  or nowhere if they are cut off
* `Record.hasDistinctNames_of_getPath?` — a path leads to a value with distinct names
-/

namespace RecordFlow

namespace Record

variable {record : Record} {name : String} {value : Value}

/-! ### Setting fields -/

theorem get?_insert (record : Record) (name : String) (value : Value) (other : String) :
    (record.insert name value).get? other = if other =
      name then some value else record.get? other := by
  induction record with
  | nil => exact lookup_cons_eq_ite [] name value other
  | cons field record ih =>
    obtain ⟨k, v⟩ := field
    rw [get?] at ih
    rw [insert, get?, get?, lookup_cons_eq_ite]
    split
    next same => rw [lookup_cons_eq_ite, same]; split <;> rfl
    next different =>
      rw [lookup_cons_eq_ite, ih]
      by_cases first : other = k
      · rw [if_pos first, if_pos first, if_neg (first ▸ different)]
      · rw [if_neg first, if_neg first]
        rfl

theorem get?_eq_none_iff : record.get? name = none ↔ name ∉ record.names := by
  rw [get?, List.lookup_eq_none_iff, names, List.mem_map]
  constructor
  · rintro none ⟨field, hfield, rfl⟩
    simpa using none field hfield
  · intro none field hfield
    exact bne_iff_ne.mpr fun same => none ⟨field, hfield, same.symm⟩

theorem insert_of_notMem (h : name ∉ record.names) (value : Value) :
    record.insert name value = record ++ [(name, value)] := by
  induction record with
  | nil => rfl
  | cons field record ih =>
    obtain ⟨k, v⟩ := field
    rw [names, List.map_cons, List.mem_cons, not_or] at h
    rw [insert, if_neg (Ne.symm h.1), ih h.2, List.cons_append]

theorem names_append (record other : Record) :
    names (record ++ other) = record.names ++ other.names :=
  List.map_append ..

/-- The last value of a name counts. -/
theorem get?_ofFields (fields : List (String × Value)) (name : String) :
    (ofFields fields).get? name = fields.reverse.lookup name := by
  induction fields using List.reverseRecOn with
  | nil => rfl
  | append_singleton fields field ih =>
    obtain ⟨k, v⟩ := field
    rw [ofFields, List.foldl_append, List.reverse_append]
    exact (get?_insert ..).trans (by rw [← ofFields, ih]; exact (lookup_cons_eq_ite ..).symm)

/-- Fields with new names come after those that are there. -/
theorem foldl_insert {columns : List String} (value? : String → Option Value)
    (nodup : columns.Nodup) (new : ∀ column ∈ columns, column ∉ record.names) :
    columns.foldl (fun row column => ((value? column).map (row.insert column)).getD row) record =
      record ++ columns.filterMap fun column => (value? column).map (column, ·) := by
  induction columns generalizing record with
  | nil => rw [List.foldl_nil, List.filterMap_nil, List.append_nil]
  | cons column columns ih =>
    obtain ⟨fresh, nodup⟩ := List.nodup_cons.mp nodup
    obtain ⟨first, rest⟩ := List.forall_mem_cons.mp new
    rw [List.foldl_cons, List.filterMap_cons]
    cases value? column with
    | none => exact ih nodup rest
    | some value =>
      simp only [Option.map_some, Option.getD_some, insert_of_notMem first]
      rw [ih nodup, List.append_assoc]
      · rfl
      · intro other hother hmem
        rw [names_append, List.mem_append] at hmem
        rcases hmem with hmem | hmem
        · exact rest other hother hmem
        · obtain rfl : other = column := List.mem_singleton.mp hmem
          exact fresh hother

/-- A list of fields with distinct names is their record. -/
theorem ofFields_of_nodup {fields : List (String × Value)} (nodup : (fields.map Prod.fst).Nodup) :
    ofFields fields = fields := by
  induction fields using List.reverseRecOn with
  | nil => rfl
  | append_singleton fields field ih =>
    rw [List.map_append, List.nodup_append] at nodup
    have new : field.1 ∉ names fields :=
      fun hmem => nodup.2.2 _ hmem _ (List.mem_singleton_self _) rfl
    rw [ofFields, List.foldl_append, ← ofFields, ih nodup.1]
    exact insert_of_notMem new _

/-! ### Overwriting fields -/

/-- A record whose fields are replaced by those of another one. Those that
it does not have come behind. -/
def overwrite (record other : Record) : Record :=
  other.foldl (fun row (name, value) => row.insert name value) record

theorem ofFields_append (fields others : List (String × Value)) :
    ofFields (fields ++ others) = (ofFields fields).overwrite others :=
  List.foldl_append ..

theorem names_insert (record : Record) (name : String) (value : Value) :
    (record.insert name value).names = if name ∈ record.names then record.names
      else record.names ++ [name] := by
  by_cases known : name ∈ record.names
  · rw [if_pos known]
    induction record with
    | nil => cases known
    | cons field record ih =>
      obtain ⟨k, v⟩ := field
      rw [insert]
      split
      next => rfl
      next different =>
        have behind : name ∈ names record :=
          (List.mem_cons.mp known).resolve_left (Ne.symm different)
        exact congrArg (k :: ·) (ih behind)
  · rw [if_neg known, insert_of_notMem known, names_append]
    rfl

theorem nodup_names_insert (nodup : record.names.Nodup) (name : String) (value : Value) :
    (record.insert name value).names.Nodup := by
  rw [names_insert]
  split
  next => exact nodup
  next new => exact List.concat_eq_append ▸ nodup.concat new

/-- The names of a record that is put together are those of its fields, each of
them where it comes up first. -/
theorem names_ofFields (fields : List (String × Value)) :
    (ofFields fields).names = (fields.map Prod.fst).eraseDups := by
  induction fields using List.reverseRecOn with
  | nil => simp [ofFields, names]
  | append_singleton fields field ih =>
    rw [ofFields_append, overwrite, List.foldl_cons, List.foldl_nil,
      names_insert, ih, List.map_append, List.eraseDups_append]
    by_cases known : field.1 ∈ fields.map Prod.fst
    · simp [List.removeAll, known]
    · simp [List.removeAll, known, List.eraseDups_cons]

theorem names_overwrite (record : Record) {other : Record} (nodup : other.names.Nodup) :
    (record.overwrite other).names = record.names ++ other.names.filter (· ∉ record.names) := by
  induction other generalizing record with
  | nil => exact (List.append_nil _).symm
  | cons field other ih =>
    obtain ⟨k, v⟩ := field
    obtain ⟨fresh, nodup⟩ := List.nodup_cons.mp nodup
    refine (ih (record.insert k v) nodup).trans ?_
    have first : names ((k, v) :: other) = k :: names other := rfl
    rw [names_insert, first]
    by_cases known : k ∈ record.names
    · rw [if_pos known, List.filter_cons_of_neg (by simpa using known)]
    · rw [if_neg known, List.filter_cons_of_pos (by simpa using known), List.append_assoc]
      -- The names that follow differ from the new one, so that it is no matter whether it is there.
      refine congrArg _ (congrArg _ (List.filter_congr fun name hname => ?_))
      have different : name ≠ k := fun h => fresh (h ▸ hname)
      simp [different]

theorem get?_overwrite (record : Record) {other : Record} (nodup : other.names.Nodup)
    (name : String) :
    (record.overwrite other).get? name = (other.get? name).or (record.get? name) := by
  induction other generalizing record with
  | nil => rfl
  | cons field other ih =>
    obtain ⟨k, v⟩ := field
    obtain ⟨fresh, nodup⟩ := List.nodup_cons.mp nodup
    refine (ih (record.insert k v) nodup).trans ?_
    have first : get? ((k, v) :: other) name = if name = k then some v else get? other name :=
      lookup_cons_eq_ite other k v name
    rw [get?_insert, first]
    by_cases same : name = k
    · have behind : get? other name = none := get?_eq_none_iff.mpr (same ▸ fresh)
      rw [if_pos same, if_pos same, behind]
      rfl
    · rw [if_neg same, if_neg same]

end Record

/-! ### Paths -/

/-- A name that is a path of one segment. -/
structure IsPlainName (name : String) : Prop where
  nonempty : name.isEmpty = false
  noDot : '.' ∉ name.toList

/-- The first segment of a path with dots is not the whole path. -/
theorem head?_pathSegments_ne {path : String} (dotted : '.' ∈ path.toList) :
    (pathSegments path).head? ≠ some path := fun first =>
  Text.not_mem_of_mem_splitAtChar (List.mem_of_head? first) dotted

namespace Record

variable {record : Record} {name path : String} {value : Value}

/-- A plain name leads to the field of that name. -/
theorem getPath?_of_isPlainName (plain : IsPlainName name) (record : Record) :
    record.getPath? name = record.get? name := by
  rw [getPath?, plain.nonempty, pathSegments, Text.splitAtChar_of_not_mem plain.noDot]
  cases found : record.get? name <;> simp [descend?, found, Value.descend?]

end Record

/-! ### Setting the value at a path -/

/-- The segments of a path lead to the value that has been set there. -/
theorem Record.descend?_setPath (record : Record) (path : String) (value : Value) :
    (record.setPath path value).descend? (pathSegments path) = some value := by
  rw [setPath]
  obtain ⟨first, rest, segments⟩ := List.exists_cons_of_ne_nil (Text.splitAtChar_ne_nil '.' path)
  rw [pathSegments, segments]
  clear segments
  induction rest generalizing first record with
  | nil => rw [setSegments, descend?, get?_insert, if_pos rfl]; rfl
  | cons second rest ih =>
    rw [setSegments, descend?, get?_insert, if_pos rfl]
    · exact ih _ second
    · exact List.cons_ne_nil _ _

namespace Record

variable {record : Record} {path other : String} {value : Value}

/-- Only the field of the first segment is set. -/
theorem exists_setSegments_eq (record : Record) (p : String) (ps : List String) (value : Value) :
    ∃ inner, record.setSegments (p :: ps) value = record.insert p inner := by
  cases ps with
  | nil => exact ⟨value, rfl⟩
  | cons next ps => exact ⟨_, rfl⟩

theorem setSegments_cons {ps : List String} (nonempty : ps ≠ []) (record : Record)
    (p : String) (value : Value) : record.setSegments (p :: ps) value =
      record.insert p (.object
        (setSegments (((record.get? p).map Value.fieldsOrEmpty).getD []) ps value)) := by
  cases ps with
  | nil => exact absurd rfl nonempty
  | cons next ps => rfl

theorem get?_setPath (h : (pathSegments path).head? ≠ some other) :
    (record.setPath path value).get? other = record.get? other := by
  obtain ⟨first, rest, segments⟩ := List.exists_cons_of_ne_nil (Text.splitAtChar_ne_nil '.' path)
  rw [pathSegments, segments, List.head?_cons, ne_eq, Option.some.injEq] at h
  obtain ⟨inner, set⟩ := record.exists_setSegments_eq first rest value
  rw [setPath, pathSegments, segments, set, get?_insert, if_neg (Ne.symm h)]

/-- A path is read where it is set: it has no dots, or no field of the record has
the whole path as its name. -/
def ReadsAsSet (record : Record) (path : String) : Prop :=
  '.' ∈ path.toList → record.get? path = none

/-- What has been set at a path is found there, if the path is read where it is set. -/
theorem getPath?_setPath (nonempty : path.isEmpty = false) (reads : record.ReadsAsSet path)
    (value : Value) : (record.setPath path value).getPath? path = some value := by
  by_cases dotted : '.' ∈ path.toList
  · rw [getPath?, nonempty, get?_setPath (head?_pathSegments_ne dotted),
      reads dotted, descend?_setPath]
    rfl
  · have single : record.setPath path value = record.insert path value := by
      rw [setPath, pathSegments, Text.splitAtChar_of_not_mem dotted, setSegments]
    rw [getPath?_of_isPlainName ⟨nonempty, dotted⟩, single, get?_insert, if_pos rfl]

end Record

/-! ### What setting a value leaves as it is -/

/-- Neither of two lists of segments is the beginning of the other. -/
def LieApart (ps qs : List String) : Prop := ¬ps <+: qs ∧ ¬qs <+: ps

instance (ps qs : List String) : Decidable (LieApart ps qs) := inferInstanceAs (Decidable (_ ∧ _))

theorem LieApart.symm {ps qs : List String} (apart : LieApart ps qs) :
    LieApart qs ps := ⟨apart.2, apart.1⟩

theorem lieApart_cons_iff {p q : String} {ps qs : List String} :
    LieApart (p :: ps) (q :: qs) ↔ (p = q → LieApart ps qs) := by
  rw [LieApart, List.cons_prefix_cons, List.cons_prefix_cons, LieApart]
  grind

theorem Value.descend?_object (fields : Record) {segments : List String}
    (nonempty : segments ≠ []) :
    (Value.object fields).descend? segments = fields.descend? segments := by
  cases segments with
  | nil => exact absurd rfl nonempty
  | cons segment rest => rfl

namespace Record

variable {record : Record} {ps qs : List String} {path other : String}

/-- The segments up to the first value on the way that is no object. When a value is set at the end
of the way, an object takes its place. -/
def obstacle? (record : Record) : List String → Option (List String)
  | [] => none
  | [_] => none
  | p :: next :: rest =>
    match record.get? p with
    | some (.object fields) => (obstacle? fields (next :: rest)).map (p :: ·)
    | some _ => some [p]
    | none => none

/-- Whether another way leads through the obstacle of a way. -/
def isBlocked (record : Record) (ps qs : List String) : Bool :=
  (record.obstacle? ps).any (·.isPrefixOf qs)

theorem isBlocked_of_ne {p q : String} (different : p ≠ q) (record : Record) (ps qs : List String) :
    record.isBlocked (p :: ps) (q :: qs) = false := by
  cases ps with
  | nil => rfl
  | cons next ps =>
    have differs (cut : List String) :
        (p :: cut).isPrefixOf (q :: qs) = false := by simp [List.isPrefixOf, different]
    rw [isBlocked, obstacle?]
    split
    next fields _ => rw [Option.any_map]; cases obstacle? fields (next :: ps) <;> simp [differs]
    next => exact differs []
    next => rfl

theorem isBlocked_of_object {p : String} {fields : Record}
    (h : record.get? p = some (.object fields)) {ps : List String} (nonempty : ps ≠ [])
    (qs : List String) : record.isBlocked (p :: ps) (p :: qs) = isBlocked fields ps qs := by
  cases ps with
  | nil => exact absurd rfl nonempty
  | cons next ps => simp [isBlocked, obstacle?, h, Option.any_map, List.isPrefixOf]

theorem isBlocked_of_not_object {p : String} {value : Value} (h : record.get? p = some value)
    (other : ¬∃ fields, value = .object fields) {ps : List String}
    (nonempty : ps ≠ []) (qs : List String) : record.isBlocked (p :: ps) (p :: qs) = true := by
  cases ps with
  | nil => exact absurd rfl nonempty
  | cons next ps =>
    rw [isBlocked, obstacle?, h]
    cases value <;> first | exact absurd ⟨_, rfl⟩ other | simp [List.isPrefixOf]

/-- What has been set at the end of a way leaves other ways as they are. Those
through the obstacle end there. -/
theorem descend?_setSegments (record : Record) (apart : LieApart ps qs) (value : Value) :
    (record.setSegments ps value).descend? qs = if record.isBlocked ps qs then none
      else record.descend? qs := by
  induction ps generalizing record qs with
  | nil => exact absurd List.nil_prefix apart.1
  | cons p ps ih =>
    cases qs with
    | nil => exact absurd List.nil_prefix apart.2
    | cons q qs =>
      have apart := lieApart_cons_iff.mp apart
      by_cases same : p = q
      · subst same
        have apart := apart rfl
        have hps : ps ≠ [] := fun empty => apart.1 (empty ▸ List.nil_prefix)
        have hqs : qs ≠ [] := fun empty => apart.2 (empty ▸ List.nil_prefix)
        have nothing : descend? [] qs = none := by cases qs <;> rfl
        -- Both ways lead through one field. It keeps its fields if it is an object, and
        -- loses what it is if it is not.
        rw [setSegments_cons hps, descend?, get?_insert, if_pos rfl, Option.bind_some,
          Value.descend?_object _ hqs, ih _ apart, descend?]
        cases found : record.get? p with
        | none => simp [nothing]
        | some there =>
          rw [Option.bind_some]
          by_cases object : ∃ fields, there = .object fields
          · obtain ⟨fields, rfl⟩ := object
            rw [isBlocked_of_object found hps, Value.descend?_object _ hqs]
            rfl
          · have fields : there.fieldsOrEmpty = [] := by cases there <;>
              first | rfl | exact absurd ⟨_, rfl⟩ object
            rw [isBlocked_of_not_object found object hps, Option.map_some,
              Option.getD_some, fields, nothing]
            simp
      · obtain ⟨inner, set⟩ := record.exists_setSegments_eq p ps value
        rw [isBlocked_of_ne same, set, descend?, get?_insert, if_neg (Ne.symm same)]
        rfl

/-- Whether the way to another path leads through the obstacle of a path. A field that has the whole
path as its name is found without a way. -/
def cutsOff (record : Record) (path other : String) : Bool :=
  (record.get? other).isNone && record.isBlocked (pathSegments path) (pathSegments other)

/-- The first segment of a path is not the whole of another one, which would
be the beginning of the path. -/
theorem head?_ne_of_lieApart (apart : LieApart (pathSegments path) (pathSegments other)) :
    (pathSegments path).head? ≠ some other := by
  intro first
  have single : pathSegments other = [other] :=
    Text.splitAtChar_of_not_mem (Text.not_mem_of_mem_splitAtChar (List.mem_of_head? first))
  obtain ⟨rest, segments⟩ := List.head?_eq_some_iff.mp first
  exact apart.2 (by rw [single, segments]; exact List.prefix_append [other] rest)

/-- What has been set at a path leaves other paths as they are. Those
that it cuts off lead nowhere. -/
theorem getPath?_setPath_of_lieApart (record : Record)
    (apart : LieApart (pathSegments path) (pathSegments other)) (value : Value) :
    (record.setPath path value).getPath? other =
      if record.cutsOff path other then none else record.getPath? other := by
  rw [getPath?, getPath?, get?_setPath (head?_ne_of_lieApart apart), cutsOff]
  cases other.isEmpty with
  | true => simp
  | false =>
    cases found : record.get? other with
    | some whole => simp
    | none =>
      rw [setPath, descend?_setSegments record apart]
      simp

/-- The obstacle on the way to a value is a list, of which the way leads to an item. -/
theorem exists_list_of_obstacle? {found : Value} (h : record.descend? ps = some found)
    {cut : List String} (obstacle : record.obstacle? ps = some cut) :
    ∃ items, record.descend? cut = some (.list items) := by
  induction ps generalizing record cut with
  | nil => cases h
  | cons p ps ih =>
    cases ps with
    | nil => cases obstacle
    | cons next ps =>
      obtain ⟨there, hthere, h⟩ := Option.bind_eq_some_iff.mp h
      rw [obstacle?, hthere] at obstacle
      cases there with
      | object fields =>
        obtain ⟨rest, hrest, rfl⟩ := Option.map_eq_some_iff.mp obstacle
        obtain ⟨items, hitems⟩ := ih h hrest
        refine ⟨items, ?_⟩
        cases rest with
        | nil => cases hitems
        | cons q rest => rw [descend?, hthere]; exact hitems
      | list items =>
        cases obstacle
        exact ⟨items, by rw [descend?, hthere]; rfl⟩
      | _ => cases h

end Record

/-! ### Distinct names below a path -/

theorem Value.HasDistinctNames.get? {fields : Record}
    (distinct : (Value.object fields).HasDistinctNames) {name : String} {value : Value}
    (h : fields.get? name = some value) : value.HasDistinctNames := by
  obtain ⟨nodup, each⟩ := Value.hasDistinctNames_object_iff.mp distinct
  exact each (name, value) ((lookup_eq_some_iff_mem nodup).mp h)

theorem Value.HasDistinctNames.child? {value child : Value} (distinct : value.HasDistinctNames)
    {segment : String} (h : value.child? segment = some child) : child.HasDistinctNames := by
  cases value with
  | object fields => exact distinct.get? h
  | list items =>
    obtain ⟨i, -, hi⟩ := Option.bind_eq_some_iff.mp h
    exact Value.hasDistinctNames_list_iff.mp distinct child (List.mem_of_getElem? hi)
  | _ => cases h

theorem Value.HasDistinctNames.descend? {value found : Value} (distinct : value.HasDistinctNames)
    {segments : List String} (h : value.descend? segments = some found) :
    found.HasDistinctNames := by
  induction segments generalizing value with
  | nil => exact Option.some.inj h ▸ distinct
  | cons segment segments ih =>
    obtain ⟨child, hchild, h⟩ := Option.bind_eq_some_iff.mp h
    exact ih (distinct.child? hchild) h

/-- A path leads to a value with distinct names. -/
theorem Record.hasDistinctNames_of_getPath? {record : Record}
    (distinct : (Value.object record).HasDistinctNames) {path : String} {value : Value}
    (h : record.getPath? path = some value) : value.HasDistinctNames := by
  rw [getPath?] at h
  split at h
  · cases h
  · rcases Option.or_eq_some_iff.mp h with h | ⟨-, h⟩
    · exact distinct.get? h
    · cases segments : pathSegments path with
      | nil => rw [segments] at h; cases h
      | cons segment rest =>
        rw [segments] at h
        obtain ⟨child, hchild, h⟩ := Option.bind_eq_some_iff.mp h
        exact (distinct.get? hchild).descend? h

end RecordFlow
