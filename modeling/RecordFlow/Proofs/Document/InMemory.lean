import Mathlib.Data.List.Nodup
import RecordFlow.Proofs.Document.Fields
import RecordFlow.Proofs.Json.Numbers

/-!
# Reading from documents in memory

A document in memory shows a JSON value, and whatever is read from it depends on that value. Here it
is told for the simple readers, for lists, for names and for records when they give something.

## Main definitions

* `InMemory` — the kinds of documents that show a JSON value

## Main results

* `Reader.text_eq_ok_iff` and others — what a simple reader gives
* `Reader.record_of_obj`, `Reader.record_sound` — records that were
  written and records that were read
-/

namespace RecordFlow

/-- Documents that show a JSON value, whose parts are the `wrap`ped parts of that value. -/
class InMemory (δ : Type) [Document δ] where
  shown : δ → Json
  wrap : Json → δ
  shown_wrap : ∀ json, shown (wrap json) = json
  view_eq : ∀ d : δ, view d = (shown d).viewWith wrap
  scalarText_eq : ∀ d : δ, Document.scalarText d = (shown d).asStr?
  isAbsent_eq : ∀ d : δ, Document.isAbsent d = .ok (shown d).isNull
  choice_eq : ∀ enumeration isKnown (d : δ), Document.choice enumeration isKnown d = (view d).choice
  json_eq : ∀ d : δ, Document.json d = .ok (shown d)
  content_eq : ∀ d : δ, Document.content d = .ok (shown d)
  skip_eq : ∀ d : δ, Document.skip d = .ok ()
  manner_ne : manner δ ≠ .markup

export InMemory (shown wrap)

attribute [simp] InMemory.shown_wrap

instance : InMemory Json where
  shown := id
  wrap := id
  shown_wrap _ := rfl
  view_eq _ := rfl
  scalarText_eq _ := rfl
  isAbsent_eq _ := rfl
  choice_eq _ _ _ := rfl
  json_eq _ := rfl
  content_eq _ := rfl
  skip_eq _ := rfl
  manner_ne := by decide

instance : InMemory Expression.Part where
  shown := Expression.Part.json
  wrap := Expression.Part.plain
  shown_wrap _ := rfl
  view_eq _ := rfl
  scalarText_eq _ := rfl
  isAbsent_eq _ := rfl
  choice_eq _ _ _ := rfl
  json_eq _ := rfl
  content_eq _ := rfl
  skip_eq _ := rfl
  manner_ne := by decide

theorem rejectType_ne_ok {δ α : Type} [Document δ] (wanted : String) (d : δ) (a : α) :
    rejectType wanted d ≠ .ok a := by
  rw [rejectType]
  split <;> simp

variable {δ α β : Type} [Document δ] [InMemory δ] {d : δ}

/-- A part of a document in memory is rejected as it is. -/
theorem within_eq (d : δ) (result : Except Rejection α) : within d result = result :=
  if_neg InMemory.manner_ne

/-! ### Simple readers -/

namespace Reader

@[simp] theorem text_eq_ok_iff {s : String} : Reader.text d = .ok s ↔ shown d = .str s := by
  rw [Reader.text, InMemory.scalarText_eq]
  cases shown d <;> simp [Json.asStr?, rejectType_ne_ok]

@[simp] theorem boolean_eq_ok_iff {b : Bool} : Reader.boolean d = .ok b ↔ shown d = .bool b := by
  rw [Reader.boolean, InMemory.view_eq]
  cases shown d <;> simp [Json.viewWith, rejectType_ne_ok]

theorem integer_eq_ok_iff {wanted : String} {low high i : Int} :
    Reader.integer wanted low high d = .ok i ↔ shown d = .int i ∧ low ≤ i ∧ i < high := by
  rw [Reader.integer, InMemory.view_eq]
  cases shown d with
  | int j =>
    by_cases h : low ≤ j ∧ j < high
    · simp only [Json.viewWith, if_pos h, Except.ok.injEq, Json.int.injEq]
      exact ⟨fun same => ⟨same, same ▸ h⟩, fun same => same.1⟩
    · simp only [Json.viewWith, if_neg h, rejectAfter, Json.int.injEq, reduceCtorEq, false_iff]
      rintro ⟨rfl, within⟩
      exact h within
  | _ => simp [Json.viewWith, rejectType_ne_ok]

@[simp] theorem int64_eq_ok_iff {i : Int} :
    Reader.int64 d = .ok i ↔ shown d = .int i ∧ -(2 ^ 63) ≤ i ∧ i < 2 ^ 63 :=
  integer_eq_ok_iff

@[simp] theorem size_eq_ok_iff {n : Nat} :
    Reader.size d = .ok n ↔ shown d = .int n ∧ n < 2 ^ 64 := by
  rw [Reader.size]
  cases read : Reader.integer "usize" 0 (Nat.pow 2 64) d with
  | error rejection =>
    have unread (i : Int) : ¬ (shown d = .int i ∧ 0 ≤ i ∧ i < (Nat.pow 2 64 : Nat)) := by
      intro same
      have given : Reader.integer "usize" 0 (Nat.pow 2 64) d = .ok i := integer_eq_ok_iff.mpr same
      rw [read] at given
      cases given
    simp only [Except.map, reduceCtorEq, false_iff]
    rintro ⟨same, small⟩
    exact unread n ⟨same, by omega, by exact_mod_cast small⟩
  | ok i =>
    obtain ⟨same, low, high⟩ := integer_eq_ok_iff.mp read
    simp only [Except.map, Except.ok.injEq, same, Json.int.injEq]
    constructor
    · rintro rfl
      exact ⟨by omega, by exact_mod_cast (by omega : i.toNat < Nat.pow 2 64)⟩
    · rintro ⟨rfl, -⟩
      rfl

theorem listOf_eq_ok_iff {item : Reader δ α} {as : List α} : Reader.listOf item d = .ok as ↔
    ∃ items, shown d = .arr items ∧
      List.Forall₂ (fun json a => item (wrap json) = .ok a) items as := by
  rw [Reader.listOf, InMemory.view_eq]
  cases shown d with
  | arr items =>
    simp only [Json.viewWith, within_eq, mapM_eq_ok_iff, List.forall₂_map_left_iff, Json.arr.injEq,
      exists_eq_left']
  | _ => simp [Json.viewWith, rejectType_ne_ok]

/-- A list of what is written as its items is read again. -/
theorem listOf_of_arr {item : Reader δ α} {as : List α} {write : α → Json}
    (h : shown d = .arr (as.map write)) (each : ∀ a ∈ as, item (wrap (write a)) = .ok a) :
    Reader.listOf item d = .ok as := by
  refine listOf_eq_ok_iff.mpr ⟨_, h, ?_⟩
  rw [List.forall₂_map_left_iff]
  exact List.forall₂_same.mpr each

@[simp] theorem value_eq_ok_iff {value : Value} :
    Reader.value d = .ok value ↔ (shown d).toValue = value := by
  rw [Reader.value, InMemory.content_eq]
  simp only [Except.map, Except.ok.injEq]

theorem optional_eq (reader : Reader δ α) (d : δ) : Reader.optional reader d =
    if (shown d).isNull then .ok none else (reader d).map some := by
  rw [Reader.optional, InMemory.isAbsent_eq]
  rfl

/-- A variant is read from its name. -/
theorem choice_of_str {variants : List (String × α)} {known : List String}
    {enumeration name : String} {a : α} (h : shown d = .str name)
    (named : variants.lookup name = some a) :
    Reader.choice variants known enumeration d = .ok a := by
  rw [Reader.choice, InMemory.choice_eq, InMemory.view_eq, h]
  simp only [Json.viewWith, View.choice, variantOf, named]

end Reader

/-! ### Records -/

theorem insertField_of_not_mem {fields : List (String × Json)} {name : String} {value : Json}
    (new : name ∉ fields.map Prod.fst) :
    Json.insertField fields name value = fields ++ [(name, value)] := by
  induction fields with
  | nil => rfl
  | cons field fields ih =>
    simp only [List.map_cons, List.mem_cons, not_or] at new
    rw [Json.insertField, if_neg (Ne.symm new.1), ih new.2, List.cons_append]

theorem mem_insertField {fields : List (String × Json)} {name : String} {value : Json}
    {field : String × Json} (h : field ∈ Json.insertField fields name value) :
    field ∈ fields ∨ field = (name, value) := by
  induction fields with
  | nil => exact .inr (List.mem_singleton.mp h)
  | cons first fields ih =>
    rw [Json.insertField] at h
    split at h
    next same =>
      rcases List.mem_cons.mp h with rfl | later
      · exact .inr (Prod.ext same rfl)
      · exact .inl (.tail _ later)
    next =>
      rcases List.mem_cons.mp h with rfl | later
      · exact .inl (.head _)
      · exact (ih later).imp_left (.tail _)

theorem nodup_insertField {fields : List (String × Json)} (name : String) (value : Json)
    (nodup : (fields.map Prod.fst).Nodup) :
    ((Json.insertField fields name value).map Prod.fst).Nodup := by
  induction fields with
  | nil => exact List.nodup_singleton name
  | cons first fields ih =>
    rw [List.map_cons, List.nodup_cons] at nodup
    rw [Json.insertField]
    split
    next => exact List.nodup_cons.mpr nodup
    next different =>
      -- The first name stays different: from the others it was before,
      -- and from the new one it is here.
      refine List.nodup_cons.mpr ⟨fun hmem => ?_, ih nodup.2⟩
      obtain ⟨field, hfield, same⟩ := List.mem_map.mp hmem
      rcases mem_insertField hfield with old | rfl
      · exact nodup.1 (List.mem_map.mpr ⟨field, old, same⟩)
      · exact different same.symm

namespace Reader

/-- Fields of different names are read one after the other. -/
theorem recordFields_eq (new : List (String × Json)) (fields : List (String × Json))
    (nodup : ((fields ++ new).map Prod.fst).Nodup) :
    recordFields (new.map (Entry.ofField (wrap : Json → δ))) fields = .ok (fields ++ new) := by
  induction new generalizing fields with
  | nil => rw [List.append_nil]; rfl
  | cons field new ih =>
    obtain ⟨name, value⟩ := field
    have absent : name ∉ fields.map Prod.fst := by
      rw [List.map_append, List.nodup_append] at nodup
      exact fun hmem => nodup.2.2 name hmem name List.mem_cons_self rfl
    rw [List.map_cons, recordFields]
    simp only [Entry.ofField, InMemory.content_eq, InMemory.shown_wrap, bind, Except.bind]
    rw [insertField_of_not_mem absent, ih _ (by simpa using nodup), List.append_assoc]
    rfl

/-- A record that was written is read again. -/
theorem record_of_obj {record : Record} (h : shown d = .obj (Json.ofFields record))
    (nodup : record.names.Nodup) (finite : record.IsFinite) : Reader.record d = .ok record := by
  rw [Reader.record, InMemory.view_eq, h]
  have names : (Json.ofFields record).map Prod.fst = record.names := by
    rw [Json.ofFields_eq_map, List.map_map]
    rfl
  simp only [Json.viewWith, within_eq]
  rw [recordFields_eq (Json.ofFields record) [] (by simpa [names] using nodup)]
  exact congrArg Except.ok (Record.toFields_ofFields finite)

/-- The fields that were read have different names, and they come from the document. -/
theorem recordFields_sound {entries : List (Entry δ)} {fields out : List (String × Json)}
    (read : recordFields entries fields = .ok out) (nodup : (fields.map Prod.fst).Nodup) :
    (out.map Prod.fst).Nodup ∧
      ∀ field ∈ out, field ∈ fields ∨ ∃ entry ∈ entries, shown entry.value = field.2 := by
  induction entries generalizing fields with
  | nil => cases read; exact ⟨nodup, fun _ => .inl⟩
  | cons entry entries ih =>
    rw [recordFields] at read
    cases refusal : entry.refusal? with
    | some refusal => simp [refusal, bind, Except.bind] at read
    | none =>
      simp only [refusal, InMemory.content_eq, bind, Except.bind] at read
      obtain ⟨distinct, each⟩ := ih read (nodup_insertField _ _ nodup)
      refine ⟨distinct, fun field hfield => ?_⟩
      -- What was there before this entry was inserted, or is inserted by it, or by a later one.
      rcases each field hfield with inserted | ⟨later, hlater, same⟩
      · refine (mem_insertField inserted).imp_right fun same => ⟨entry, .head _, ?_⟩
        rw [same]
      · exact .inr ⟨later, .tail _ hlater, same⟩

/-- The names of a record that was read are different, and its floats are finite. -/
theorem record_sound {record : Record} (read : Reader.record d = .ok record)
    (fits : (shown d).Fits sizeLimit) : record.names.Nodup ∧ record.IsFinite := by
  rw [Reader.record, InMemory.view_eq] at read
  cases same : shown d with
  | obj fields =>
    simp only [same, Json.viewWith, within_eq] at read
    cases out : recordFields (fields.map (Entry.ofField (wrap : Json → δ))) [] with
    | error rejection => simp [out, Except.map] at read
    | ok read' =>
      obtain ⟨distinct, each⟩ := recordFields_sound out List.nodup_nil
      simp only [out, Except.map, Except.ok.injEq] at read
      rw [← read, Record.names, Record.IsFinite, Json.toFields_eq_map,
        List.map_map, List.forall_mem_map]
      refine ⟨distinct, fun field hfield => Json.isFinite_toValue ?_⟩
      rw [same] at fits
      cases fits with
      | obj fits =>
        obtain hnil | ⟨entry, hentry, shown_eq⟩ := each field hfield
        · cases hnil
        · obtain ⟨given, hgiven, rfl⟩ := List.mem_map.mp hentry
          rw [← shown_eq]
          simpa [Entry.ofField] using fits given hgiven
  | _ => simp [same, Json.viewWith, rejectType_ne_ok] at read

end Reader

end RecordFlow
