import RecordFlow.Json.Basic
import RecordFlow.Proofs.Number.FloatOfInt

/-!
# Numbers on the way between documents and values

Documents and values have the same shape. They differ in numbers: a document may have an integer
that no value has, which becomes a float, and a value may have a float that no document has, which
becomes null. What has no such number is the same when it comes back.

## Main definitions

* `Json.Fits` — the integers of a document are below a limit, and its floats are finite
* `Value.IsFinite` — the floats of a value are finite

## Main results

* `Json.ofValue_toValue`, `Value.toValue_ofValue` — what comes back
* `Json.fits_ofValue` — the integers of a document of a value have 64 bits with a sign
-/

namespace RecordFlow

/-- The signed integers of 64 bits are below this one. -/
def int64Limit : Nat := 2 ^ 63

/-- The unsigned integers of 64 bits are below this one. -/
def sizeLimit : Nat := 2 ^ 64

/-- The integers of a document lie between the least signed integer of 64 bits and a
limit, and its floats are finite. -/
inductive Json.Fits (limit : Nat) : Json → Prop where
  | null : Fits limit .null
  | bool (b : Bool) : Fits limit (.bool b)
  | int {i : Int} (low : -(2 ^ 63) ≤ i) (high : i < limit) : Fits limit (.int i)
  | float {f : Float} (finite : f.isFinite = true) : Fits limit (.float f)
  | str (s : String) : Fits limit (.str s)
  | arr {items : List Json} (each : ∀ item ∈ items, Fits limit item) : Fits limit (.arr items)
  | obj {fields : List (String × Json)} (each : ∀ field ∈ fields, Fits limit field.2) :
      Fits limit (.obj fields)

/-- The floats of a value are finite. -/
inductive Value.IsFinite : Value → Prop where
  | null : IsFinite .null
  | bool (b : Bool) : IsFinite (.bool b)
  | int (i : Int64) : IsFinite (.int i)
  | float {f : Float} (finite : f.isFinite = true) : IsFinite (.float f)
  | text (s : String) : IsFinite (.text s)
  | list {items : List Value} (each : ∀ item ∈ items, IsFinite item) : IsFinite (.list items)
  | object {fields : List (String × Value)} (each : ∀ field ∈ fields, IsFinite field.2) :
      IsFinite (.object fields)

/-- The floats of a record are finite. -/
def Record.IsFinite (record : Record) : Prop := ∀ field ∈ record, field.2.IsFinite

namespace Json

section

variable {limit : Nat}

@[simp] theorem fits_bool (b : Bool) : (bool b).Fits limit := .bool b

@[simp] theorem fits_str (s : String) : (str s).Fits limit := .str s

theorem fits_int_iff {i : Int} : (int i).Fits limit ↔ -(2 ^ 63) ≤ i ∧ i < limit := by
  constructor
  · rintro ⟨⟩
    exact ⟨‹_›, ‹_›⟩
  · exact fun ⟨low, high⟩ => .int low high

theorem fits_arr_iff {items : List Json} :
    (arr items).Fits limit ↔ ∀ item ∈ items, item.Fits limit := by
  constructor
  · rintro ⟨⟩
    assumption
  · exact .arr

theorem fits_obj_iff {fields : List (String × Json)} :
    (obj fields).Fits limit ↔ ∀ field ∈ fields, field.2.Fits limit := by
  constructor
  · rintro ⟨⟩
    assumption
  · exact .obj

end

/-! ### Lists and objects -/

theorem toValues_eq_map (items : List Json) : toValues items = items.map toValue := by
  induction items with
  | nil => rw [toValues, List.map_nil]
  | cons item items ih => rw [toValues, ih, List.map_cons]

theorem toFields_eq_map (fields : List (String × Json)) :
    toFields fields = fields.map fun field => (field.1, field.2.toValue) := by
  induction fields with
  | nil => rw [toFields, List.map_nil]
  | cons field fields ih => rw [toFields, ih, List.map_cons]

theorem ofValues_eq_map (items : List Value) : ofValues items = items.map ofValue := by
  induction items with
  | nil => rw [ofValues, List.map_nil]
  | cons item items ih => rw [ofValues, ih, List.map_cons]

theorem ofFields_eq_map (fields : List (String × Value)) :
    ofFields fields = fields.map fun field => (field.1, ofValue field.2) := by
  induction fields with
  | nil => rw [ofFields, List.map_nil]
  | cons field fields ih => rw [ofFields, ih, List.map_cons]

/-! ### Integers -/

theorem intToValue_toInt (i : Int64) : intToValue i.toInt = .int i := by
  have low := Int64.le_toInt i
  have high := Int64.toInt_lt i
  rw [intToValue, if_pos ⟨by simpa using low, by simpa using high⟩, Int64.ofInt_toInt]

theorem ofValue_intToValue {i : Int} (low : -(2 ^ 63) ≤ i) (high : i < 2 ^ 63) :
    ofValue (intToValue i) = .int i := by
  rw [intToValue, if_pos ⟨by simpa using low, by simpa using high⟩, ofValue,
    Int64.toInt_ofInt_of_le low high]

/-! ### There and back -/

theorem Fits.mono {limit limit' : Nat} {json : Json} (h : json.Fits limit) (le : limit ≤ limit') :
    json.Fits limit' := by
  induction h with
  | null => exact .null
  | bool b => exact .bool b
  | int low high => exact .int low (by omega)
  | float finite => exact .float finite
  | str s => exact .str s
  | arr _ ih => exact .arr ih
  | obj _ ih => exact .obj ih

/-- A document whose integers are signed integers of 64 bits comes back as it is. -/
theorem ofValue_toValue {json : Json} (h : json.Fits int64Limit) : ofValue json.toValue = json := by
  induction h with
  | null => rw [toValue, ofValue]
  | bool b => rw [toValue, ofValue]
  | int low high => rw [toValue, ofValue_intToValue low (by exact_mod_cast high)]
  | float finite => rw [toValue, ofValue, if_pos finite]
  | str s => rw [toValue, ofValue]
  | arr _ ih =>
    rw [toValue, ofValue, toValues_eq_map, ofValues_eq_map, List.map_map]
    exact congrArg arr ((List.map_congr_left ih).trans (List.map_id' _))
  | obj _ ih =>
    rw [toValue, ofValue, toFields_eq_map, ofFields_eq_map, List.map_map]
    refine congrArg obj ((List.map_congr_left fun field hfield => ?_).trans (List.map_id _))
    exact Prod.ext rfl (ih field hfield)

/-- The value of a document has no infinity, even if an integer had to become a float. -/
theorem isFinite_toValue {json : Json} (h : json.Fits sizeLimit) : json.toValue.IsFinite := by
  induction h with
  | null => rw [toValue]; exact .null
  | bool b => rw [toValue]; exact .bool b
  | @int i low high =>
    -- An integer above the signed ones becomes the nearest float.
    rw [toValue, intToValue]
    split
    · exact .int _
    · exact .float (isFinite_floatOfInt (by rw [sizeLimit] at high; omega))
  | float finite => rw [toValue]; exact .float finite
  | str s => rw [toValue]; exact .text s
  | arr _ ih =>
    rw [toValue, toValues_eq_map]
    exact .list (List.forall_mem_map.mpr ih)
  | obj _ ih =>
    rw [toValue, toFields_eq_map]
    exact .object (List.forall_mem_map.mpr ih)

theorem isNull_toValue (json : Json) : json.toValue.isNull = json.isNull := by
  cases json with
  | int i =>
    rw [toValue, intToValue]
    split <;> rfl
  | _ => rw [toValue]; rfl

theorem isNull_ofValue {value : Value} (finite : value.IsFinite) :
    (ofValue value).isNull = value.isNull := by
  cases finite with
  | float finite => rw [ofValue, if_pos finite]; rfl
  | _ => rw [ofValue]; rfl

mutual

/-- The integers of a document of a value are signed integers of 64 bits. -/
@[simp] theorem fits_ofValue : (value : Value) → (ofValue value).Fits int64Limit
  | .null => by rw [ofValue]; exact .null
  | .bool b => by rw [ofValue]; exact .bool b
  | .int i => by rw [ofValue]; exact .int (Int64.le_toInt i) (by
    simpa [int64Limit] using Int64.toInt_lt i)
  | .float f => by
    rw [ofValue]
    split
    next finite => exact .float finite
    next => exact .null
  | .text s => by rw [ofValue]; exact .str s
  | .list items => by rw [ofValue]; exact .arr (fits_ofValues items)
  | .object fields => by rw [ofValue]; exact .obj (fits_ofFields fields)

theorem fits_ofValues : (items : List Value) → ∀ item ∈ ofValues items, item.Fits int64Limit
  | [] => by simp [ofValues]
  | item :: items => by
    rw [ofValues]
    exact List.forall_mem_cons.mpr ⟨fits_ofValue item, fits_ofValues items⟩

theorem fits_ofFields : (fields : List (String × Value)) →
    ∀ field ∈ ofFields fields, field.2.Fits int64Limit
  | [] => by simp [ofFields]
  | (name, value) :: fields => by
    rw [ofFields]
    exact List.forall_mem_cons.mpr ⟨fits_ofValue value, fits_ofFields fields⟩

end

end Json

/-- A value without infinities and NaN comes back as it is. -/
theorem Value.toValue_ofValue {value : Value} (h : value.IsFinite) :
    (Json.ofValue value).toValue = value := by
  induction h with
  | null => rw [Json.ofValue, Json.toValue]
  | bool b => rw [Json.ofValue, Json.toValue]
  | int i => rw [Json.ofValue, Json.toValue, Json.intToValue_toInt]
  | float finite => rw [Json.ofValue, if_pos finite, Json.toValue]
  | text s => rw [Json.ofValue, Json.toValue]
  | list _ ih =>
    rw [Json.ofValue, Json.toValue, Json.ofValues_eq_map, Json.toValues_eq_map, List.map_map]
    exact congrArg list ((List.map_congr_left ih).trans (List.map_id' _))
  | object _ ih =>
    rw [Json.ofValue, Json.toValue, Json.ofFields_eq_map, Json.toFields_eq_map, List.map_map]
    refine congrArg object ((List.map_congr_left fun field hfield => ?_).trans (List.map_id _))
    exact Prod.ext rfl (ih field hfield)

/-- So does a record. -/
theorem Record.toFields_ofFields {record : Record} (h : record.IsFinite) :
    Json.toFields (Json.ofFields record) = record := by
  have same := Value.toValue_ofValue (.object h)
  rw [Json.ofValue, Json.toValue] at same
  exact Value.object.inj same

end RecordFlow
