import RecordFlow.Proofs.Json.Rereading
import RecordFlow.Source.JsonFile

/-!
# Record files that are written and read again

A file of records is read again as the same records, in both layouts, whatever texts there are in
the records and in the names of their fields.

## Main definitions

* `Value.IsWritable`, `Record.IsWritable` — floats are finite and read
  again, and names are different

## Main results

* `JsonFile.document_text`, `JsonFile.recordsAt_ofRecords` — from the file to its
  document, and on to the records
* `JsonFile.records_text` — the records are read again
-/

namespace RecordFlow

/-! ### Records that can be written -/

/-- What is in a value can be written to a file and read again. -/
inductive Value.IsWritable : Value → Prop where
  | null : IsWritable .null
  | bool (b : Bool) : IsWritable (.bool b)
  | int (i : Int64) : IsWritable (.int i)
  | float {f : Float} (finite : f.isFinite = true) (reads : Json.ReadsBack f) :
    IsWritable (.float f)
  | text (s : String) : IsWritable (.text s)
  | list {items : List Value} (each : ∀ item ∈ items, IsWritable item) : IsWritable (.list items)
  | object {fields : List (String × Value)} (nodup : (fields.map Prod.fst).Nodup)
      (each : ∀ field ∈ fields, IsWritable field.2) : IsWritable (.object fields)

/-- A record can be written to a file and read again: no name occurs twice, and the floats are
finite and are read again from their texts. -/
def Record.IsWritable (record : Record) : Prop := Value.IsWritable (.object record)

theorem Value.IsWritable.isFinite {value : Value} (h : value.IsWritable) : value.IsFinite := by
  induction h with
  | null => exact .null
  | bool b => exact .bool b
  | int i => exact .int i
  | float finite _ => exact .float finite
  | text s => exact .text s
  | list _ ih => exact .list ih
  | object _ _ ih => exact .object ih

/-- The document of a writable value is legible. -/
theorem Value.IsWritable.isLegible {value : Value} (h : value.IsWritable) :
    (Json.ofValue value).IsLegible := by
  induction h with
  | null => rw [Json.ofValue]; exact .null
  | bool b => rw [Json.ofValue]; exact .bool b
  | int i =>
    rw [Json.ofValue]
    exact .int (Int64.le_toInt i) ((Int64.toInt_lt i).trans (by decide))
  | float finite reads => rw [Json.ofValue, if_pos finite]; exact .float reads
  | text s => rw [Json.ofValue]; exact .str s
  | list _ ih =>
    rw [Json.ofValue, Json.ofValues_eq_map]
    exact .arr (List.forall_mem_map.mpr ih)
  | object nodup _ ih =>
    rw [Json.ofValue, Json.ofFields_eq_map]
    refine .obj ?_ (List.forall_mem_map.mpr ih)
    rwa [List.map_map]

theorem Record.IsWritable.isFinite {record : Record} (h : record.IsWritable) : record.IsFinite := by
  cases Value.IsWritable.isFinite h with
  | object each => exact each

theorem Record.IsWritable.isLegible {record : Record} (h : record.IsWritable) :
    (Json.ofRecord record).IsLegible := by
  have legible := Value.IsWritable.isLegible h
  rwa [Json.ofValue] at legible

namespace JsonFile

section
variable {records : List Record} (writable : ∀ record ∈ records, record.IsWritable)

include writable

/-- The document of a file that was written is that of its records. -/
theorem document_text (pretty : Bool) (shallow : (Json.ofRecords records).depth ≤ 127) :
    document (Text.bytesOfText (text pretty records)) = .ok (Json.ofRecords records) := by
  have legible : (Json.ofRecords records).IsLegible :=
    .arr (List.forall_mem_map.mpr fun record hrecord => (writable record hrecord).isLegible)
  have deep : (Json.ofRecords records).depth < Json.depthLimit := Nat.lt_succ_of_le shallow
  have read : Json.read (text pretty records).toList = .ok (Json.ofRecords records) := by
    cases pretty with
    | true =>
      rw [text, if_pos rfl, Json.pretty, String.toList_ofList]
      exact (legible.isTextOf_prettyChars 0).read deep
    | false =>
      rw [text, if_neg Bool.false_ne_true, Json.compact, String.toList_ofList]
      exact legible.isTextOf_compactChars.read deep
  rw [document, Text.textOf_bytesOfText]
  simp only [read]
  rfl

/-- From the document of records they are read again. -/
theorem recordsAt_ofRecords (file : String) :
    recordsAt file none (Json.ofRecords records) = .ok records := by
  have each : (records.map Json.ofRecord).mapM recordOf = .ok records := by
    rw [mapM_eq_ok_iff, List.forall₂_map_left_iff]
    refine List.forall₂_same.mpr fun record hrecord => ?_
    simp only [recordOf, Json.ofRecord, Json.toValue,
      Record.toFields_ofFields (writable record hrecord).isFinite]
  exact each

/-- **Record files keep their records.** Records that are written to a file in one of the two
layouts, with no more than 127 arrays and objects in each other, are read again from the file: the
same values under the same names, in the same order. -/
theorem records_text (pretty : Bool) (shallow : (Json.ofRecords records).depth ≤ 127)
    (file : String) :
    JsonFile.records file none (Text.bytesOfText (text pretty records)) = .ok records := by
  rw [JsonFile.records, document_text writable pretty shallow]
  exact recordsAt_ofRecords writable file

end

/-- Two records with numbers of both kinds, characters that have to be escaped, and
an object inside of a list. -/
def ledger : List Record :=
  [[("id", .int (-9223372036854775808)), ("half \x7f", .float 0.5), ("zero", .float (-0.0)),
      ("note", .text "\x01\t\"\\\u00e9\u2028")],
    [("entries", .list [.null, .object [("", .bool true), ("none", .list [])]])]]

theorem ledger_isWritable : ∀ record ∈ ledger, record.IsWritable := by
  simp only [ledger, List.forall_mem_cons]
  refine ⟨.object (by decide) ?_, .object (by decide) ?_, List.forall_mem_nil _⟩
  · simp only [List.forall_mem_cons]
    exact ⟨.int _, .float rfl rfl, .float rfl rfl, .text _, List.forall_mem_nil _⟩
  · refine List.forall_mem_singleton.mpr (.list ?_)
    simp only [List.forall_mem_cons]
    refine ⟨.null, .object (by decide) ?_, List.forall_mem_nil _⟩
    simp only [List.forall_mem_cons]
    exact ⟨.bool _, .list (List.forall_mem_nil _), List.forall_mem_nil _⟩

theorem records_text_ledger : (∀ record ∈ ledger, record.IsWritable) ∧
    (Json.ofRecords ledger).depth = 5 ∧
    JsonFile.records "ledger.json" none (Text.bytesOfText (text true ledger)) = .ok ledger ∧
    JsonFile.records "ledger.json" none (Text.bytesOfText (text false ledger)) = .ok ledger := by
  have depth : (Json.ofRecords ledger).depth = 5 := by decide +kernel
  have shallow : (Json.ofRecords ledger).depth ≤ 127 := by rw [depth]; decide
  exact ⟨ledger_isWritable, depth, records_text ledger_isWritable true shallow _,
    records_text ledger_isWritable false shallow _⟩

end JsonFile

end RecordFlow
