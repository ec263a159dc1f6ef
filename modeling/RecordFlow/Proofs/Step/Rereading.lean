import RecordFlow.Proofs.Expression.Rereading
import RecordFlow.Step.Process

/-!
# Configurations that are written and read again

A configuration that was read from a document is sound: what is in it can be written, and what was
written is read as the same configuration. Its unsigned numbers, the sizes, are the only ones that a
document has and a value may not have, since they can be above the signed integers of 64 bits.

## Main definitions

* `StepConfig.IsSound` — what stands in a configuration can be written and read again
* `StepConfig.sizes` — the unsigned numbers of a configuration

## Main results

* `StepConfig.isSoundBelow_of_read` — a configuration that was read is sound
* `StepConfig.read_toJson` — a sound configuration is read again
* `StepConfig.fits_toJson` — the integers of its document have a sign and 64 bits if its sizes do
* `parsed_isReadAgain` — whatever was read as a configuration or as an expression is read again
-/

namespace RecordFlow

/-! ### Names -/

instance : Naming Logic.names := ⟨fun logic => by cases logic <;> decide⟩
instance : Naming AggregateFunction.names := ⟨fun function => by cases function <;> decide⟩
instance : Naming JoinKind.names := ⟨fun kind => by cases kind <;> decide⟩
instance : Naming UnionMode.names := ⟨fun mode => by cases mode <;> decide⟩
instance : Naming Keep.names := ⟨fun keep => by cases keep <;> decide⟩
instance : Naming SortDirection.names := ⟨fun direction => by cases direction <;> decide⟩
instance : Naming NullsOrder.names := ⟨fun order => by cases order <;> decide⟩

/-! ### Lists -/

/-- A list of what was written is read again. -/
@[simp] theorem listOf_wrap {α : Type} {item : Reader Json α} {write : α → Json} {as : List α}
    (each : ∀ a ∈ as, item (wrap (write a)) = .ok a) :
    Reader.listOf item (wrap (.arr (as.map write)) : Json) = .ok as :=
  Reader.listOf_of_arr rfl each

/-- A list that is left out when it is empty is read again. -/
@[simp] theorem readsAs_listField_iff {α : Type} {item : Reader Json α}
    {write : α → Json} {name : String} {as read : List α}
    (each : ∀ a ∈ as, item (wrap (write a)) = .ok a) :
    ReadsAs (Reader.listOf item) []
      (((listField name write as).lookup name).map (wrap : Json → Json)) read ↔ read = as := by
  cases as with
  | nil => rfl
  | cons a as =>
    simp only [listField, List.lookup_cons, beq_self_eq_true, Option.map_some, readsAs_some,
      listOf_wrap each, Except.ok.injEq, eq_comm]

@[simp] theorem textsReader_wrap (texts : List String) :
    textsReader (wrap (textsJson texts) : Json) = .ok texts :=
  textsReader_eq_ok.mpr rfl

@[simp] theorem readsAs_texts_iff {texts read : Option (List String)} :
    ReadsAs (Reader.optional textsReader) none (texts.map (wrap ∘ textsJson)) read ↔ read = texts :=
  readsAs_optional_map_iff fun texts _ => ⟨rfl, textsReader_wrap texts⟩

/-! ### Parts of configurations -/

@[simp] theorem Aggregation.reader_wrap (a : Aggregation) :
    Aggregation.reader (wrap a.toJson) = .ok a := by
  refine readStruct_of_obj rfl (by simp) ?_
  simp [List.lookup_cons, textField, variantReader]

@[simp] theorem JoinKey.reader_wrap (key : JoinKey) :
    JoinKey.reader (wrap key.toJson) = .ok key := by
  refine readStruct_of_obj rfl (by simp) ?_
  simp [List.lookup_cons, textField]

@[simp] theorem OrderBy.reader_wrap (key : OrderBy) :
    OrderBy.reader (wrap key.toJson) = .ok key := by
  refine readStruct_of_obj rfl (by simp) ?_
  simp [List.lookup_cons, textField, variantReader]

@[simp] theorem JoinSelection.reader_wrap (s : JoinSelection) :
    JoinSelection.reader (wrap s.toJson) = .ok s := by
  refine readStruct_of_obj rfl ?_ ?_
  · cases s.left <;> cases s.right <;> simp [optionalField]
  · simp [List.lookup_append]

@[simp] theorem JoinPrefixes.reader_wrap (p : JoinPrefixes) :
    JoinPrefixes.reader (wrap p.toJson) = .ok p := by
  refine readStruct_of_obj rfl ?_ ?_
  · cases p.left <;> cases p.right <;> simp [optionalField]
  · simp [List.lookup_append]

theorem MapConfig.mappingsReader_wrap {mappings : List (String × Expression)}
    (each : ∀ mapping ∈ mappings, Expression.read mapping.2.toJson = .ok mapping.2) :
    mappingsReader (wrap (.obj (mappings.map fun mapping => (mapping.1, mapping.2.toJson)))) =
      .ok mappings := by
  refine mapM_eq_ok_iff.mpr ?_
  rw [List.forall₂_map_left_iff]
  refine List.forall₂_same.mpr fun mapping hmapping => ?_
  simp [each mapping hmapping, Except.map]

theorem reader_wrap_of_isSound {conditions : List Condition} (sound : ∀ c ∈ conditions, c.IsSound) :
    ∀ c ∈ conditions, Condition.reader (wrap c.toJson : Json) = .ok c :=
  fun c hc => Condition.reader_of_toJson (InMemory.shown_wrap _) (sound c hc)

/-! ### Configurations -/

namespace StepConfig

/-- The conditions and the expressions of a configuration are sound. -/
def IsSound : StepConfig → Prop
  | filter c => ∀ condition ∈ c.conditions, condition.IsSound
  | map c => ∀ mapping ∈ c.mappings, mapping.2.IsSound
  | aggregate c => ∀ condition ∈ c.having, condition.IsSound
  | _ => True

/-- The unsigned numbers of a configuration. -/
def sizes : StepConfig → List Nat
  | map c => c.mappings.flatMap fun mapping => mapping.2.sizes
  | limit c => [c.limit, c.offset]
  | _ => []

instance : filterFields.Lawful := by unfold filterFields; infer_instance
instance : mapFields.Lawful := by unfold mapFields; infer_instance
instance : aggregateFields.Lawful := by unfold aggregateFields; infer_instance
instance : joinFields.Lawful := by unfold joinFields; infer_instance
instance : lookupFields.Lawful := by unfold lookupFields; infer_instance
instance : unionFields.Lawful := by unfold unionFields; infer_instance
instance : deduplicateFields.Lawful := by unfold deduplicateFields; infer_instance
instance : sortFields.Lawful := by unfold sortFields; infer_instance
instance : limitFields.Lawful := by unfold limitFields; infer_instance
instance : pivotFields.Lawful := by unfold pivotFields; infer_instance
instance : unpivotFields.Lawful := by unfold unpivotFields; infer_instance
instance : flattenFields.Lawful := by unfold flattenFields; infer_instance

/-- The fields of a configuration have different names. -/
theorem nodup_toFields (config : StepConfig) : (config.toFields.map Prod.fst).Nodup := by
  cases config with
  | aggregate c => cases having : c.having <;> simp [toFields, listField, having]
  | union c => cases keys : c.distinctKeys <;> simp [toFields, optionalField, keys]
  | deduplicate c => cases orderBy : c.orderBy <;> simp [toFields, listField, orderBy]
  | flatten c => cases target : c.target <;> simp [toFields, optionalField, target]
  | _ => simp [toFields]

/-- A configuration is read when its fields are built of those that were written. -/
theorem map_readStruct_of_obj {α : Type} {f : α → StepConfig} {reader : FieldReader Json α}
    [reader.Lawful] {a : α} {expecting : String}
    (built : reader.build (fun name => ((f a).toFields.lookup name).map wrap) = .ok a) :
    f <$> readStruct expecting reader (f a).toJson = .ok (f a) := by
  have read : readStruct expecting reader (f a).toJson = .ok a :=
    readStruct_of_obj rfl (nodup_toFields (f a)) built
  rw [read]
  rfl

/-- A configuration that was written is read again. -/
theorem read_toJson {config : StepConfig} (sound : config.IsSound)
    (small : ∀ n ∈ config.sizes, n < sizeLimit) : read config.kind config.toJson = .ok config := by
  -- One case for each kind: what its fields are read as is what was written, part by part.
  cases config with
  | filter c =>
    have conditions :=
      listOf_wrap (reader_wrap_of_isSound (show ∀ x ∈ c.conditions, x.IsSound from sound))
    refine map_readStruct_of_obj (f := filter) ?_
    simp [filterFields, toFields, List.lookup_cons, textField, variantReader, conditions]
  | map c =>
    have each (mapping) (h : mapping ∈ c.mappings) :
        Expression.read mapping.2.toJson = .ok mapping.2 :=
      Expression.read_toJson (sound mapping h) fun n hn =>
        small n (List.mem_flatMap.mpr ⟨mapping, h, hn⟩)
    refine map_readStruct_of_obj (f := map) ?_
    simp [mapFields, toFields, List.lookup_cons, textField, MapConfig.mappingsReader_wrap each]
  | aggregate c =>
    have having := reader_wrap_of_isSound (show ∀ x ∈ c.having, x.IsSound from sound)
    refine map_readStruct_of_obj (f := aggregate) ?_
    simp [aggregateFields, toFields, List.lookup_cons, textField, readsAs_listField_iff having]
  | join c =>
    refine map_readStruct_of_obj (f := join) ?_
    simp [joinFields, toFields, List.lookup_cons, textField, variantReader]
  | lookup c =>
    refine map_readStruct_of_obj (f := lookup) ?_
    simp [lookupFields, toFields, List.lookup_cons, textField]
  | union c =>
    refine map_readStruct_of_obj (f := union) ?_
    simp [unionFields, toFields, List.lookup_cons, textField, variantReader]
  | deduplicate c =>
    refine map_readStruct_of_obj (f := deduplicate) ?_
    simp [deduplicateFields, toFields, List.lookup_cons, textField, variantReader]
  | sort c =>
    refine map_readStruct_of_obj (f := sort) ?_
    simp [sortFields, toFields, List.lookup_cons, textField]
  | limit c =>
    refine map_readStruct_of_obj (f := limit) ?_
    have limit : c.limit < 2 ^ 64 := small c.limit (.head _)
    have offset : c.offset < 2 ^ 64 := small c.offset (.tail _ (.head _))
    simpa [limitFields, toFields, List.lookup_cons, textField, Int.natCast_inj,
      and_assoc] using ⟨limit, offset⟩
  | pivot c =>
    refine map_readStruct_of_obj (f := pivot) ?_
    simp [pivotFields, toFields, List.lookup_cons, textField, variantReader]
  | unpivot c =>
    refine map_readStruct_of_obj (f := unpivot) ?_
    simp [unpivotFields, toFields, List.lookup_cons, textField]
  | flatten c =>
    refine map_readStruct_of_obj (f := flatten) ?_
    simp [flattenFields, toFields, List.lookup_cons, textField, List.lookup_append]

/-! ### Configurations that were read -/

/-- A configuration is sound, and its unsigned numbers are below a limit. -/
def IsSoundBelow (limit : Nat) (config : StepConfig) : Prop :=
  config.IsSound ∧ ∀ n ∈ config.sizes, n < limit

variable {limit : Nat}

theorem isSound_of_conditions {json : Json} (fits : json.Fits sizeLimit)
    {conditions : List Condition} (read : Reader.listOf Condition.reader json = .ok conditions) :
    ∀ c ∈ conditions, c.IsSound := by
  obtain ⟨items, rfl, each⟩ := Reader.listOf_eq_ok_iff.mp read
  intro condition hcondition
  obtain ⟨item, hitem, read⟩ := exists_of_forall₂ each hcondition
  exact Condition.isSound_of_reader read (Json.fits_arr_iff.mp fits item hitem)

theorem isSoundBelow_of_mappings {json : Json} (fits : json.Fits limit) (le : limit ≤ sizeLimit)
    {mappings : List (String × Expression)} (read : MapConfig.mappingsReader json = .ok mappings) :
    ∀ mapping ∈ mappings, mapping.2.IsSoundBelow limit := by
  cases json with
  | obj fields =>
    intro mapping hmapping
    obtain ⟨field, hfield, read⟩ := exists_of_forall₂ (mapM_eq_ok_iff.mp read) hmapping
    cases ofField : Expression.read field.2 with
    | error rejection => simp [ofField, Except.map] at read
    | ok e =>
      simp only [ofField, Except.map, Except.ok.injEq] at read
      rw [← read]
      exact Expression.isSoundBelow_of_read ofField (Json.fits_obj_iff.mp fits field hfield) le
  | _ => simp [MapConfig.mappingsReader, rejectType_ne_ok] at read

theorem lt_of_readsAs_size {values : String → Option Json} {name : String} {n : Nat}
    (fits : ∀ part, values name = some part → (shown part).Fits limit) (pos : 0 < limit)
    (h : ReadsAs Reader.size 0 (values name) n) : n < limit := by
  cases found : values name with
  | none =>
    rw [found, readsAs_none] at h
    exact h ▸ pos
  | some part =>
    rw [found, readsAs_some, Reader.size_eq_ok_iff] at h
    have below := fits part found
    rw [h.1, Json.fits_int_iff] at below
    exact_mod_cast below.2

/-- What is read as a configuration is read as the fields of its kind. -/
theorem property_of_map {α : Type} {f : α → StepConfig} {reader : FieldReader Json α}
    {expecting : String} {json : Json} {config : StepConfig} {property : StepConfig → Prop}
    (read : f <$> readStruct expecting reader json = .ok config) (fits : json.Fits limit)
    (yields : ∀ values : String → Option Json,
      (∀ name part, values name = some part → (shown part).Fits limit) →
        reader.Yields values fun a => property (f a)) : property config := by
  cases same : readStruct expecting reader json with
  | error rejection => simp [same] at read
  | ok a =>
    simp only [same, Except.map_ok, Except.ok.injEq] at read
    subst read
    obtain ⟨values, built, parts⟩ := exists_build_of_readStruct same fits
    exact yields values parts a built

/-- A configuration that was read from a document is sound, and its unsigned numbers are
below the limit of the document. -/
theorem isSoundBelow_of_read {kind : StepKind} {json : Json} {config : StepConfig}
    (read : read kind json = .ok config) (fits : json.Fits limit)
    (le : limit ≤ sizeLimit) (pos : 0 < limit) : config.IsSoundBelow limit := by
  -- Only conditions, expressions and sizes can be unsound, and only four kinds have any.
  cases kind <;> rw [StepConfig.read] at read <;>
    refine property_of_map read fits fun values parts => ?_
  case filter =>
    simp only [filterFields, FieldReader.yields_map_iff, FieldReader.yields_seq_iff,
      FieldReader.yields_required_iff, FieldReader.yields_withDefault_iff, textField]
    intro _ _ source _ _ _ output _ part found conditions read logic _
    exact ⟨isSound_of_conditions ((parts _ _ found).mono le) read, by simp [sizes]⟩
  case map =>
    simp only [mapFields, FieldReader.yields_map_iff, FieldReader.yields_seq_iff,
      FieldReader.yields_required_iff, FieldReader.yields_withDefault_iff, textField]
    intro _ _ source _ _ _ output _ part found mappings read includeOriginal _
    have each := isSoundBelow_of_mappings (parts _ _ found) le read
    refine ⟨fun mapping hmapping => (each mapping hmapping).1, ?_⟩
    rw [sizes, List.forall_mem_flatMap]
    exact fun mapping hmapping => (each mapping hmapping).2
  case aggregate =>
    simp only [aggregateFields, FieldReader.yields_map_iff, FieldReader.yields_seq_iff,
      FieldReader.yields_required_iff, FieldReader.yields_withDefault_iff, textField]
    intro _ _ source _ _ _ output _ groupBy _ _ _ aggregations _ having read
    refine ⟨?_, by simp [sizes]⟩
    cases found : values "having" with
    | none =>
      rw [found, readsAs_none] at read
      simp [IsSound, read]
    | some part =>
      rw [found, readsAs_some] at read
      exact isSound_of_conditions ((parts _ _ found).mono le) read
  case limit =>
    simp only [limitFields, FieldReader.yields_map_iff, FieldReader.yields_seq_iff,
      FieldReader.yields_required_iff, FieldReader.yields_withDefault_iff,
      textField, Reader.size_eq_ok_iff]
    rintro _ _ source _ _ _ output _ part found n ⟨same, -⟩ offset readOffset
    have below := parts _ _ found
    rw [same, Json.fits_int_iff] at below
    have before := lt_of_readsAs_size (parts "offset") pos readOffset
    exact ⟨trivial, by simpa [sizes, before] using Int.ofNat_lt.mp below.2⟩
  all_goals exact fun a _ => ⟨trivial, by simp [sizes]⟩

/-! ### The numbers of documents of configurations -/

theorem fits_map {α : Type} {write : α → Json} {as : List α}
    (each : ∀ a ∈ as, (write a).Fits limit) : (Json.arr (as.map write)).Fits limit :=
  Json.fits_arr_iff.mpr (List.forall_mem_map.mpr each)

theorem fits_of_mem_listField {α : Type} {name : String} {write : α → Json} {as : List α}
    (each : ∀ a ∈ as, (write a).Fits limit) :
    ∀ field ∈ listField name write as, field.2.Fits limit := by
  cases as with
  | nil => exact nofun
  | cons a as => simpa [listField] using fits_map each

@[simp] theorem fits_textsJson (texts : List String) : (textsJson texts).Fits limit :=
  fits_map fun text _ => .str text

@[simp] theorem fits_joinSelection (s : JoinSelection) : s.toJson.Fits limit := by
  simp [JoinSelection.toJson, Json.fits_obj_iff, or_imp, forall_and]

@[simp] theorem fits_joinPrefixes (p : JoinPrefixes) : p.toJson.Fits limit := by
  simp [JoinPrefixes.toJson, Json.fits_obj_iff, or_imp, forall_and]

theorem fits_orderBy (key : OrderBy) : key.toJson.Fits limit := by
  simp [OrderBy.toJson, Json.fits_obj_iff]

/-- The integers of the document of a configuration are signed integers
of 64 bits if its sizes are. -/
theorem fits_toJson {config : StepConfig} (sound : config.IsSound)
    (small : ∀ n ∈ config.sizes, n < int64Limit) : config.toJson.Fits int64Limit := by
  refine Json.fits_obj_iff.mpr ?_
  cases config with
  | filter c =>
    have conditions : (Json.arr (c.conditions.map Condition.toJson)).Fits int64Limit :=
      fits_map fun condition _ => condition.fits_toJson
    simp [toFields, conditions]
  | map c =>
    have mappings : (Json.obj (c.mappings.map fun mapping => (mapping.1, mapping.2.toJson))).Fits
        int64Limit :=
      Json.fits_obj_iff.mpr (List.forall_mem_map.mpr fun mapping h =>
        Expression.fits_toJson mapping.2 (sound mapping h) fun n hn =>
          small n (List.mem_flatMap.mpr ⟨mapping, h, hn⟩))
    simpa [toFields] using mappings
  | aggregate c =>
    have aggregations : (Json.arr (c.aggregations.map Aggregation.toJson)).Fits int64Limit :=
      fits_map fun a _ => by simp [Aggregation.toJson, Json.fits_obj_iff]
    rw [toFields, List.forall_mem_append]
    exact ⟨by simp [aggregations], fits_of_mem_listField fun condition _ => condition.fits_toJson⟩
  | join c =>
    have keys : (Json.arr (c.on.map JoinKey.toJson)).Fits int64Limit :=
      fits_map fun key _ => by simp [JoinKey.toJson, Json.fits_obj_iff]
    simp [toFields, keys]
  | union c => simp [toFields, or_imp, forall_and]
  | deduplicate c =>
    rw [toFields, List.forall_mem_append]
    exact ⟨by simp, fits_of_mem_listField fun key _ => fits_orderBy key⟩
  | sort c => simp [toFields,
    fits_map fun (key : OrderBy) (_ : key ∈ c.orderBy) => fits_orderBy key]
  | limit c =>
    have limit := Expression.fits_size (small c.limit (.head _))
    have offset := Expression.fits_size (small c.offset (.tail _ (.head _)))
    simp [toFields, limit, offset]
  | flatten c => simp [toFields, or_imp, forall_and]
  | _ => simp [toFields]

/-! ### Parsed configurations -/

variable {kind : StepKind} {json : Json} {config : StepConfig}

theorem parse_eq_ok_iff : parse kind json = .ok config ↔ read kind json = .ok config := by
  rw [parse]
  cases read kind json <;> simp [Except.mapError]

/-- What is parsed as a kind of step is a configuration of this kind. -/
theorem kind_of_parse (parsed : parse kind json = .ok config) : config.kind = kind := by
  rw [parse_eq_ok_iff] at parsed
  have ofFields {α : Type} {f : α → StepConfig} {result : Except Rejection α}
      (h : f <$> result = .ok config) (each : ∀ a, (f a).kind = kind) : config.kind = kind := by
    cases result with
    | error rejection => cases h
    | ok a =>
      obtain rfl := Except.ok.inj h
      exact each a
  cases kind <;> exact ofFields parsed fun _ => rfl

theorem isSoundBelow_of_parse (parsed : parse kind json = .ok config) (fits : json.Fits limit)
    (le : limit ≤ sizeLimit) (pos : 0 < limit) : config.IsSoundBelow limit :=
  isSoundBelow_of_read (parse_eq_ok_iff.mp parsed) fits le pos

/-- A sound configuration that was written is parsed again. -/
theorem parse_toJson (sound : config.IsSoundBelow sizeLimit) :
    parse config.kind config.toJson = .ok config :=
  parse_eq_ok_iff.mpr (read_toJson sound.1 sound.2)

/-- A configuration that was parsed and written is parsed again. -/
theorem parse_toJson_of_parse (fits : json.Fits sizeLimit) (parsed : parse kind json = .ok config) :
    parse kind config.toJson = .ok config := by
  rw [← kind_of_parse parsed]
  exact parse_toJson (isSoundBelow_of_parse parsed fits (Nat.le_refl _) (by decide))

end StepConfig

/-- **What was read is read again.** A document has integers of 64 bits and finite floats. What it
is parsed as, a configuration of a kind of step or an expression, is written as a document that is
parsed as the same. So a configuration that is parsed and written once more is written the same. -/
theorem parsed_isReadAgain {json : Json} (fits : json.Fits sizeLimit) :
    (∀ kind config, StepConfig.parse kind json = .ok config →
      StepConfig.parse kind config.toJson = .ok config) ∧
    (∀ e, Expression.read json = .ok e → Expression.read e.toJson = .ok e) ∧
    ∀ kind written, (StepConfig.parse kind json).map StepConfig.toJson = .ok written →
      (StepConfig.parse kind written).map StepConfig.toJson = .ok written := by
  have config (kind : StepKind) (config : StepConfig)
      (parsed : StepConfig.parse kind json = .ok config) :
      StepConfig.parse kind config.toJson = .ok config :=
        StepConfig.parse_toJson_of_parse fits parsed
  refine ⟨config, fun e read => ?_, fun kind written normal => ?_⟩
  · obtain ⟨sound, small⟩ := Expression.isSoundBelow_of_read read fits (Nat.le_refl _)
    exact Expression.read_toJson sound small
  · cases parsed : StepConfig.parse kind json with
    | error error => simp [parsed, Except.map] at normal
    | ok c =>
      rw [parsed] at normal
      obtain rfl := Except.ok.inj normal
      rw [config kind c parsed]
      rfl

/-- A map with a sum, under the other name of its operator, of a field and of a number that no
signed integer of 64 bits is. The default of the map is left out. -/
def sumMapping : Json :=
  .obj [("source", .str "orders"), ("output", .str "sums"), ("mappings", .obj [("total",
    .obj [("type", .str "math"), ("operator", .str "add"),
      ("left", .obj [("type", .str "field"), ("path", .str "price")]),
      ("right", .obj [("type", .str "literal"), ("value", .int (2 ^ 64 - 1))])])])]

theorem sumMapping_fits : sumMapping.Fits sizeLimit := by
  simp [sumMapping, Json.fits_obj_iff, Json.fits_int_iff, sizeLimit]

theorem sumMapping_isReadAgain : sumMapping.Fits sizeLimit ∧
    ∃ config, StepConfig.parse .map sumMapping = .ok config ∧
      StepConfig.parse .map config.toJson = .ok config := by
  refine ⟨sumMapping_fits, _, rfl, ?_⟩
  exact (parsed_isReadAgain sumMapping_fits).1 .map _ rfl

end RecordFlow
