import RecordFlow.Proofs.Expression.Soundness

/-!
# Expressions that are written and read again

A sound expression is read again from its document. The document has the tag of the expression in
front, and every part of it that is an expression is read as one, on every level.

## Main definitions

* `Expression.WrittenAs` — a document is read as an expression, wherever it stands

## Main results

* `Condition.reader_of_toJson`, `Expression.read_toJson` — what was written is read again
* `Condition.fits_toJson`, `Expression.fits_toJson` — the integers of what was written
-/

namespace RecordFlow

variable {δ : Type} [Document δ] [InMemory δ] {d : δ}

/-! ### Conditions -/

instance : Naming Comparison.names := ⟨fun comparison => by cases comparison <;> decide⟩
instance : Naming MathOp.names := ⟨fun op => by cases op <;> decide⟩
instance : Naming DateUnit.names := ⟨fun unit => by cases unit <;> decide⟩

namespace Condition

variable {condition : Condition}

/-- A condition that was written is read again. -/
theorem reader_of_toJson (h : shown d = condition.toJson) (sound : condition.IsSound) :
    Condition.reader d = .ok condition := by
  refine readStruct_of_obj h ?_ ?_
  · cases condition.value <;> simp [optionalField]
  · have value (read : Option Value) : ReadsAs (Reader.optional Reader.value) none
        (condition.value.map ((wrap : Json → δ) ∘ Json.ofValue)) read ↔ read = condition.value := by
      refine readsAs_optional_map_iff fun value hvalue => ?_
      obtain ⟨finite, there⟩ := sound value hvalue
      simp [Json.isNull_ofValue finite, there, Value.toValue_ofValue finite]
    simp [List.lookup_cons, value]

theorem fits_toJson (condition : Condition) : condition.toJson.Fits int64Limit := by
  simp [toJson, Json.fits_obj_iff, or_imp, forall_and]

end Condition

/-! ### Expressions that were written -/

namespace Expression

@[simp] theorem choice_partOf_iff {α : Type} [DecidableEq α] {table : List (String × α)}
    [Naming table] {known : List String} {enumeration : String} {variant a : α} :
    Reader.choice table known enumeration (partOf (.str (nameIn table variant))) = .ok a ↔
      variant = a :=
  choice_nameIn_iff (shown_partOf _)

/-- The tag that was written in front is found, and what is left are the other fields. -/
theorem splitTag_map {name expecting : String} {value : Json} {fields : List (String × Json)}
    (others : ∀ field ∈ fields, field.1 ≠ name) :
    splitTag name expecting (.map (((name, value) :: fields).map (Entry.ofField partOf))) =
      .ok (partOf value, .named (fields.map (Entry.ofField partOf))) := by
  -- No other field has the name of the tag, so only the first one is taken out.
  have kept : (fields.map (Entry.ofField partOf)).filter (·.name != name) =
      fields.map (Entry.ofField partOf) := by
    refine List.filter_eq_self.mpr fun entry hentry => ?_
    obtain ⟨field, hfield, rfl⟩ := List.mem_map.mp hentry
    simpa [Entry.ofField] using others field hfield
  have found : (((name, value) :: fields).map (Entry.ofField partOf)).find? (·.name == name) =
      some (Entry.ofField partOf (name, value)) := by simp [Entry.ofField]
  simp only [splitTag, found]
  rw [List.map_cons, List.filter_cons_of_neg (by simp [Entry.ofField]), kept]
  rfl

theorem readTag_str {α : Type} {manner : Manner} {shapes : List (String × α)}
    {name : String} {shape : α} (named : shapes.lookup name = some shape) :
    readTag manner shapes (partOf (.str name)) = .ok shape := by
  simp only [readTag, InMemory.view_eq, shown_partOf, Json.viewWith, named]

/-- The fields of an operation are those that a table reads it from. -/
def WrittenFor {α : Type} (ops : List (String × (Content Part → Except Rejection α)))
    (fields : List (String × Json)) (a : α) : Prop :=
  ∃ name read rest, fields = ("operation", .str name) :: rest ∧ ops.lookup name = some read ∧
    (∀ field ∈ rest, field.1 ≠ "operation") ∧
    read (.named (rest.map (Entry.ofField partOf))) = .ok a

theorem WrittenFor.readOperation {α : Type}
    {ops : List (String × (Content Part → Except Rejection α))} {fields : List (String × Json)}
    {a : α} (h : WrittenFor ops fields a) (expecting : String) :
    readOperation expecting ops (.named (fields.map (Entry.ofField partOf))) = .ok a := by
  obtain ⟨name, read, rest, rfl, named, others, same⟩ := h
  rw [Expression.readOperation, Content.view, splitTag_map others]
  simp only [bind, Except.bind, readTag_str named, same]

/-- A document is that of an expression. -/
def WrittenAs (json : Json) (e : Expression) : Prop :=
  ∃ name kind fields, json = .obj (("type", .str name) :: fields) ∧ kinds.lookup name = some kind ∧
    (∀ field ∈ fields, field.1 ≠ "type") ∧
    readKind (.named (fields.map (Entry.ofField partOf))) kind = .ok e

theorem WrittenAs.expression {json : Json} {e : Expression} (h : WrittenAs json e) :
    (partOf json).expression = .ok e := by
  obtain ⟨name, kind, fields, rfl, named, others, same⟩ := h
  rw [partOf, entriesOf_eq_map]
  simp only [readView, splitTag_map others, bind, Except.bind, readTag_str named, same]

theorem WrittenAs.read {json : Json} {e : Expression} (h : WrittenAs json e) :
    Expression.read json = .ok e := by
  obtain ⟨name, kind, fields, rfl, named, others, same⟩ := h
  rw [Expression.read, entriesOf_eq_map]
  simp only [readView, splitTag_map others, bind, Except.bind, readTag_str named, same]

@[simp] theorem readsAs_text_partOf_iff {text read : Option String} :
    ReadsAs (Reader.optional Reader.text) none (text.map (partOf ∘ Json.str)) read ↔ read = text :=
  readsAs_optional_map_iff fun _ _ => by simp [Json.isNull]

theorem readsAs_int64_partOf_iff {i read : Option Int} (sound : ∀ a ∈ i, IsInt64 a) :
    ReadsAs (Reader.optional Reader.int64) none (i.map (partOf ∘ Json.int)) read ↔ read = i :=
  readsAs_optional_map_iff fun a ha => by simpa [Json.isNull, IsInt64] using sound a ha

theorem writtenFor_dateOps {op : DateOp} (sound : op.IsSound) :
    WrittenFor dateOps op.toFields op := by
  cases op with
  | now => exact ⟨_, _, _, rfl, rfl, by simp, rfl⟩
  | format field template =>
    exact ⟨_, _, _, rfl, rfl, by simp,
      readEntries_of_build (by simp) (by simp [List.lookup_cons]) none⟩
  | add field amount unit =>
    refine ⟨_, _, _, rfl, rfl, by simp, readEntries_of_build (by simp) ?_ none⟩
    simpa [List.lookup_cons, DateOp.IsSound, IsInt64] using sound
  | diff field other unit =>
    exact ⟨_, _, _, rfl, rfl, by simp,
      readEntries_of_build (by simp) (by simp [List.lookup_cons]) none⟩
  | parse field template =>
    refine ⟨_, _, _, rfl, rfl, by simp, readEntries_of_build ?_ (by simp [List.lookup_cons]) none⟩
    cases template <;> simp [optionalField]
  | startOf field unit =>
    exact ⟨_, _, _, rfl, rfl, by simp,
      readEntries_of_build (by simp) (by simp [List.lookup_cons]) none⟩
  | endOf field unit =>
    exact ⟨_, _, _, rfl, rfl, by simp,
      readEntries_of_build (by simp) (by simp [List.lookup_cons]) none⟩

theorem writtenFor_listOps {op : ListOp} (path : String) (sound : op.IsSound) :
    WrittenFor listOps (op.toFields path) (list path op) := by
  cases op with
  | includes value =>
    refine ⟨_, _, _, rfl, rfl, by simp, readEntries_of_build (by simp) ?_ none⟩
    simp [List.lookup_cons, Value.toValue_ofValue (show value.IsFinite from sound)]
  | «at» index =>
    refine ⟨_, _, _, rfl, rfl, by simp, readEntries_of_build (by simp) ?_ none⟩
    simpa [List.lookup_cons, ListOp.IsSound, IsInt64] using sound
  | slice start stop =>
    refine ⟨_, _, _, rfl, rfl, by simp, readEntries_of_build ?_ ?_ none⟩
    · cases stop <;> simp [optionalField]
    · simpa [List.lookup_cons, readsAs_int64_partOf_iff sound.2, IsInt64] using sound.1
  | _ => exact ⟨_, _, _, rfl, rfl, by simp,
    readEntries_of_build (by simp) (by simp [List.lookup_cons]) none⟩

theorem writtenFor_textOps {op : TextOp} (path : String) (sound : op.IsSound)
    (small : ∀ n ∈ op.sizes, n < sizeLimit) :
    WrittenFor textOps (op.toFields path) (text path op) := by
  cases op with
  | substring start stop =>
    refine ⟨_, _, _, rfl, rfl, by simp, readEntries_of_build ?_ ?_ none⟩
    · cases stop <;> simp [optionalField]
    · simpa [List.lookup_cons, readsAs_int64_partOf_iff sound.2, IsInt64] using sound.1
  | padStart width pad =>
    refine ⟨_, _, _, rfl, rfl, by simp, readEntries_of_build (by simp) ?_ none⟩
    simpa [List.lookup_cons, TextOp.sizes, sizeLimit] using small
  | padEnd width pad =>
    refine ⟨_, _, _, rfl, rfl, by simp, readEntries_of_build (by simp) ?_ none⟩
    simpa [List.lookup_cons, TextOp.sizes, sizeLimit] using small
  | _ => exact ⟨_, _, _, rfl, rfl, by simp,
    readEntries_of_build (by simp) (by simp [List.lookup_cons]) none⟩

theorem toFieldOption_eq (name : String) (e : Option Expression) :
    toFieldOption name e = optionalField name toJson e := by
  cases e <;> rw [toFieldOption] <;> rfl

theorem toJsons_eq_map (es : List Expression) : toJsons es = es.map toJson := by
  induction es with
  | nil => rw [toJsons, List.map_nil]
  | cons e es ih => rw [toJsons, ih, List.map_cons]

/-- A list of documents of expressions is read as the expressions. -/
theorem expressions_partOf {es : List Expression} (each : ∀ e ∈ es, WrittenAs e.toJson e) :
    (partOf (.arr (toJsons es))).expressions = .ok es := by
  rw [partOf, toJsons_eq_map, partsOf_eq_map]
  refine mapM_eq_ok_iff.mpr ?_
  rw [List.map_map, List.forall₂_map_left_iff]
  exact List.forall₂_same.mpr fun e he => (each e he).expression

/-- An expression that may be lacking is read again. -/
theorem readsAs_expression_iff {e e' : Option Expression} (each : ∀ a ∈ e, WrittenAs a.toJson a) :
    ReadsAs (Reader.optional Part.expression) none (e.map (partOf ∘ toJson)) e' ↔ e' = e :=
  readsAs_optional_map_iff fun a ha => by
    refine ⟨?_, (each a ha).expression⟩
    obtain ⟨name, kind, fields, same, -⟩ := each a ha
    simp only [Function.comp_apply, shown_partOf, same, Json.isNull]

mutual

/-- The document of an expression is read as the expression. -/
theorem writtenAs_toJson : (e : Expression) → e.IsSound → (∀ n ∈ e.sizes, n < sizeLimit) →
    WrittenAs e.toJson e
  | field path, _, _ => by
    refine ⟨_, _, _, by rw [toJson], rfl, by simp, ?_⟩
    exact readEntries_of_build (by simp) (by simp [List.lookup_cons]) none
  | literal value, sound, _ => by
    refine ⟨_, _, _, by rw [toJson], rfl, by simp, ?_⟩
    refine readEntries_of_build (by simp) ?_ none
    rw [IsSound] at sound
    simp [List.lookup_cons, Value.toValue_ofValue sound]
  | concat values separator, sound, small => by
    rw [IsSound] at sound
    rw [sizes] at small
    refine ⟨_, _, _, by rw [toJson], rfl, by simp, ?_⟩
    refine readEntries_of_build (by simp) ?_ none
    simp [List.lookup_cons, expressions_partOf (writtenAs_toJsons values sound small)]
  | template source, _, _ => by
    refine ⟨_, _, _, by rw [toJson], rfl, by simp, ?_⟩
    exact readEntries_of_build (by simp) (by simp [List.lookup_cons]) none
  | math op left right, sound, small => by
    rw [IsSound] at sound
    rw [sizes, List.forall_mem_append] at small
    have ofLeft := (writtenAs_toJson left sound.1 small.1).expression
    have ofRight := writtenAs_toOption right sound.2 small.2
    refine ⟨_, _, _, by rw [toJson, List.cons_append], rfl, ?_, ?_⟩
    · simp [toFieldOption_eq]
    refine readEntries_of_build ?_ ?_ none
    · cases right <;> simp [toFieldOption]
    · simp [List.lookup_cons, toFieldOption_eq, ofLeft, readsAs_expression_iff ofRight]
  | coalesce values, sound, small => by
    rw [IsSound] at sound
    rw [sizes] at small
    refine ⟨_, _, _, by rw [toJson], rfl, by simp, ?_⟩
    refine readEntries_of_build (by simp) ?_ none
    simp [List.lookup_cons, expressions_partOf (writtenAs_toJsons values sound small)]
  | conditional condition positive negative, sound, small => by
    rw [IsSound] at sound
    rw [sizes, List.forall_mem_append] at small
    have ofCondition := Condition.reader_of_toJson (shown_partOf condition.toJson) sound.1
    have ofPositive := (writtenAs_toJson positive sound.2.1 small.1).expression
    have ofNegative := writtenAs_toOption negative sound.2.2 small.2
    refine ⟨_, _, _, by rw [toJson, List.cons_append], rfl, ?_, ?_⟩
    · simp [toFieldOption_eq]
    refine readEntries_of_build ?_ ?_ none
    · cases negative <;> simp [toFieldOption]
    · simp [List.lookup_cons, toFieldOption_eq, ofCondition, ofPositive,
        readsAs_expression_iff ofNegative]
  -- Operations have a second tag, for which they are written.
  | date op, sound, _ => by
    rw [IsSound] at sound
    refine ⟨_, _, _, by rw [toJson], rfl, ?_, ?_⟩
    · cases op <;> simp [DateOp.toFields]
    · rw [readKind, (writtenFor_dateOps sound).readOperation]
      rfl
  | list path op, sound, _ => by
    rw [IsSound] at sound
    refine ⟨_, _, _, by rw [toJson], rfl, ?_, ?_⟩
    · cases op <;> simp [ListOp.toFields]
    · exact (writtenFor_listOps path sound).readOperation _
  | text path op, sound, small => by
    rw [IsSound] at sound
    rw [sizes] at small
    refine ⟨_, _, _, by rw [toJson], rfl, ?_, ?_⟩
    · cases op <;> simp [TextOp.toFields]
    · exact (writtenFor_textOps path sound small).readOperation _

theorem writtenAs_toJsons : (es : List Expression) → AllSound es →
    (∀ n ∈ allSizes es, n < sizeLimit) → ∀ e ∈ es, WrittenAs e.toJson e
  | [], _, _ => by simp
  | e :: es, sound, small => by
    rw [AllSound] at sound
    rw [allSizes, List.forall_mem_append] at small
    exact List.forall_mem_cons.mpr
      ⟨writtenAs_toJson e sound.1 small.1, writtenAs_toJsons es sound.2 small.2⟩

theorem writtenAs_toOption : (e : Option Expression) → OptionSound e →
    (∀ n ∈ optionSizes e, n < sizeLimit) → ∀ a ∈ e, WrittenAs a.toJson a
  | none, _, _ => by simp
  | some e, sound, small => by
    rw [OptionSound] at sound
    rw [optionSizes] at small
    simpa using writtenAs_toJson e sound small

end

/-- An expression that was written is read again. -/
theorem read_toJson {e : Expression} (sound : e.IsSound) (small : ∀ n ∈ e.sizes, n < sizeLimit) :
    Expression.read e.toJson = .ok e :=
  (writtenAs_toJson e sound small).read

/-! ### The numbers of documents of expressions -/

theorem fits_int {i : Int} (h : IsInt64 i) : (Json.int i).Fits int64Limit := .int h.1 h.2

theorem fits_size {n : Nat} (h : n < int64Limit) : (Json.int n).Fits int64Limit :=
  .int (by omega) (by omega)

theorem fits_dateOp {op : DateOp} (sound : op.IsSound) :
    ∀ field ∈ op.toFields, field.2.Fits int64Limit := by
  cases op with
  | add field amount unit => simpa [DateOp.toFields] using fits_int sound
  | _ => simp [DateOp.toFields, or_imp, forall_and]

theorem fits_listOp {op : ListOp} (path : String) (sound : op.IsSound) :
    ∀ field ∈ op.toFields path, field.2.Fits int64Limit := by
  cases op with
  | «at» index => simpa [ListOp.toFields] using fits_int sound
  | slice start stop =>
    have ofStop := fun i hi => fits_int (sound.2 i hi)
    simpa [ListOp.toFields, or_imp, forall_and, fits_int sound.1] using ofStop
  | _ => simp [ListOp.toFields, or_imp, forall_and]

theorem fits_textOp {op : TextOp} (path : String) (sound : op.IsSound)
    (small : ∀ n ∈ op.sizes, n < int64Limit) :
    ∀ field ∈ op.toFields path, field.2.Fits int64Limit := by
  cases op with
  | substring start stop =>
    have ofStop := fun i hi => fits_int (sound.2 i hi)
    simpa [TextOp.toFields, or_imp, forall_and, fits_int sound.1] using ofStop
  | padStart width pad => simpa [TextOp.toFields] using fits_size (small width (.head _))
  | padEnd width pad => simpa [TextOp.toFields] using fits_size (small width (.head _))
  | _ => simp [TextOp.toFields, or_imp, forall_and]

mutual

/-- The integers of a document of an expression are signed integers of 64 bits if its sizes are. -/
theorem fits_toJson : (e : Expression) → e.IsSound → (∀ n ∈ e.sizes, n < int64Limit) →
    e.toJson.Fits int64Limit
  | field path, _, _ => by
    rw [toJson]
    simp [Json.fits_obj_iff]
  | literal value, _, _ => by
    rw [toJson]
    simp [Json.fits_obj_iff]
  | concat values separator, sound, small => by
    rw [IsSound] at sound
    rw [sizes] at small
    rw [toJson]
    simpa [Json.fits_obj_iff, Json.fits_arr_iff] using fits_toJsons values sound small
  | template source, _, _ => by
    rw [toJson]
    simp [Json.fits_obj_iff]
  | math op left right, sound, small => by
    rw [IsSound] at sound
    rw [sizes, List.forall_mem_append] at small
    have ofRight := fits_toOption right sound.2 small.2
    rw [toJson]
    simpa [Json.fits_obj_iff, toFieldOption_eq, or_imp, forall_and,
      fits_toJson left sound.1 small.1] using ofRight
  | coalesce values, sound, small => by
    rw [IsSound] at sound
    rw [sizes] at small
    rw [toJson]
    simpa [Json.fits_obj_iff, Json.fits_arr_iff] using fits_toJsons values sound small
  | conditional condition positive negative, sound, small => by
    rw [IsSound] at sound
    rw [sizes, List.forall_mem_append] at small
    have ofNegative := fits_toOption negative sound.2.2 small.2
    rw [toJson]
    simpa [Json.fits_obj_iff, toFieldOption_eq, or_imp, forall_and, condition.fits_toJson,
      fits_toJson positive sound.2.1 small.1] using ofNegative
  | date op, sound, _ => by
    rw [IsSound] at sound
    rw [toJson]
    exact Json.fits_obj_iff.mpr (List.forall_mem_cons.mpr ⟨.str _, fits_dateOp sound⟩)
  | list path op, sound, _ => by
    rw [IsSound] at sound
    rw [toJson]
    exact Json.fits_obj_iff.mpr (List.forall_mem_cons.mpr ⟨.str _, fits_listOp path sound⟩)
  | text path op, sound, small => by
    rw [IsSound] at sound
    rw [sizes] at small
    rw [toJson]
    exact Json.fits_obj_iff.mpr (List.forall_mem_cons.mpr ⟨.str _, fits_textOp path sound small⟩)

theorem fits_toJsons : (es : List Expression) → AllSound es → (∀ n ∈ allSizes es, n < int64Limit) →
    ∀ json ∈ toJsons es, json.Fits int64Limit
  | [], _, _ => by simp [toJsons]
  | e :: es, sound, small => by
    rw [AllSound] at sound
    rw [allSizes, List.forall_mem_append] at small
    rw [toJsons]
    exact List.forall_mem_cons.mpr ⟨fits_toJson e sound.1 small.1, fits_toJsons es sound.2 small.2⟩

theorem fits_toOption : (e : Option Expression) → OptionSound e →
    (∀ n ∈ optionSizes e, n < int64Limit) → ∀ a ∈ e, a.toJson.Fits int64Limit
  | none, _, _ => by simp
  | some e, sound, small => by
    rw [OptionSound] at sound
    rw [optionSizes] at small
    simpa using fits_toJson e sound small

end

end Expression

end RecordFlow
