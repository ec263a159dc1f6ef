import Mathlib.Data.List.Forall2
import RecordFlow.Step.Document

/-!
# What is read from a document

A structure is read from the values of its fields. What it can be is told by one rule
for each way in which field readers are put together, so that a structure with many
fields is taken apart by rewriting.

## Main definitions

* `FieldReader.Gives` — a structure is read from values, and it has a property

## Main results

* `readStruct_obj` — a structure that is read from an object is built of the entries of the object
* `mapM_eq_ok_iff` — a list is read item by item
-/

namespace RecordFlow

variable {δ α β ε : Type}

/-- A list is read item by item. -/
theorem mapM_eq_ok_iff {f : α → Except ε β} {xs : List α} {ys : List β} :
    xs.mapM f = .ok ys ↔ List.Forall₂ (fun x y => f x = .ok y) xs ys := by
  induction xs generalizing ys with
  | nil => cases ys <;> simp [pure, Except.pure]
  | cons x xs ih =>
    rw [List.mapM_cons]
    cases first : f x with
    | error error => cases ys <;> simp [bind, Except.bind, first]
    | ok y =>
      cases rest : xs.mapM f with
      | error error => cases ys <;> simp [bind, Except.bind, ← ih, rest]
      | ok others => cases ys <;> simp [bind, Except.bind, pure, Except.pure, ← ih, rest, first]

/-- What was read in a list was read from an item. -/
theorem exists_of_forall₂ {r : α → β → Prop} {xs : List α} {ys : List β} (h : List.Forall₂ r xs ys)
    {y : β} (hy : y ∈ ys) : ∃ x ∈ xs, r x y := by
  induction h with
  | nil => cases hy
  | cons first _ ih =>
    rcases List.mem_cons.mp hy with rfl | later
    · exact ⟨_, .head _, first⟩
    · obtain ⟨x, hx, same⟩ := ih later
      exact ⟨x, .tail _ hx, same⟩

/-! ### Documents in memory -/

theorem view_arr (items : List Json) : view (Json.arr items) = .list items :=
  congrArg View.list (List.map_id items)

theorem view_obj (fields : List (String × Json)) :
    view (Json.obj fields) = .map (fields.map (Entry.ofField id)) := rfl

/-- A part of a document in memory is rejected as it is. -/
theorem within_json {json : Json} {result : Except Rejection α} : within json result = result :=
  if_neg (by decide)

theorem Reader.text_eq_ok {json : Json} {s : String} :
    Reader.text json = .ok s ↔ json = .str s := by
  cases json <;> simp [Reader.text, Document.scalarText, Json.asStr?,
    rejectType, view, Json.viewWith]

theorem textsReader_eq_ok {json : Json} {texts : List String} :
    textsReader json = .ok texts ↔ json = .arr (texts.map Json.str) := by
  cases json with
  | arr items =>
    simp only [textsReader, Reader.listOf, view_arr, within_json, mapM_eq_ok_iff, Reader.text_eq_ok,
      Json.arr.injEq]
    rw [← List.forall₂_eq_eq_eq, List.forall₂_map_right_iff]
  | _ => simp [textsReader, Reader.listOf, rejectType, view, Json.viewWith]

/-! ### Fields -/

namespace FieldReader

variable {values : String → Option δ} {name : String} {reader : FieldReader δ α}

/-- A structure is read from values, and it has a property. -/
def Gives (reader : FieldReader δ α) (values : String → Option δ) (property : α → Prop) : Prop :=
  ∃ a, reader.build values = .ok a ∧ property a

theorem gives_map_iff {f : α → β} {property : β → Prop} :
    (f <$> reader).Gives values property ↔ reader.Gives values fun a => property (f a) := by
  change (∃ b, (reader.build values).map f = .ok b ∧ property b) ↔ _
  rw [Gives]
  cases reader.build values <;> simp [Except.map]

theorem gives_seq_iff {f : FieldReader δ (α → β)} {property : β → Prop} :
    (f <*> reader).Gives values property ↔
      f.Gives values fun g => reader.Gives values fun a => property (g a) := by
  change (∃ b, (f.build values >>= fun g => reader.build values >>= fun a => .ok (g a)) = .ok b ∧
    property b) ↔ _
  simp only [Gives]
  cases f.build values with
  | error error => simp [bind, Except.bind]
  | ok g => cases reader.build values <;> simp [bind, Except.bind]

theorem gives_required_iff [Document δ] {item : Reader δ α} {property : α → Prop} :
    (required name item).Gives values property ↔
      ∃ d, values name = some d ∧ ∃ a, item d = .ok a ∧ property a := by
  simp only [Gives, required]
  cases values name <;> simp

end FieldReader

theorem gives_textField_iff {values : String → Option Json} {name : String}
    {property : String → Prop} :
    (textField name).Gives values property ↔ ∃ s, values name = some (.str s) ∧ property s := by
  simp only [textField, FieldReader.gives_required_iff, Reader.text_eq_ok]
  constructor
  · rintro ⟨_, found, s, rfl, holds⟩
    exact ⟨s, found, holds⟩
  · rintro ⟨s, found, holds⟩
    exact ⟨_, found, s, rfl, holds⟩

/-! ### Structures -/

theorem find?_ofField (fields : List (String × Json)) (name : String) :
    ((fields.map (Entry.ofField id)).find? (·.name == name)).map Entry.value =
      fields.lookup name := by
  induction fields with
  | nil => rfl
  | cons field fields ih =>
    rw [List.map_cons, List.find?_cons, List.lookup_cons, ← ih]
    by_cases h : field.1 = name
    · simp [Entry.ofField, h]
    · simp [Entry.ofField, beq_false_of_ne h, beq_false_of_ne (Ne.symm h)]

/-- A structure that is read from an object is built of its entries. -/
theorem readStruct_obj {expecting : String} {reader : FieldReader Json α}
    {fields : List (String × Json)} {a : α}
    (h : readStruct expecting reader (.obj fields) = .ok a) :
    reader.build (fields.lookup ·) = .ok a := by
  simp only [readStruct, view_obj, within_json, readEntries, find?_ofField] at h
  cases checked : checkEntries reader.fields (fields.map (Entry.ofField id)) [] with
  | error rejection => simp [checked, bind, Except.bind] at h
  | ok _ =>
    simp only [checked, bind, Except.bind] at h
    split at h
    · cases h
    · exact h

/-- A variant that is read from an object holds a structure that is built of the entries. -/
theorem gives_of_map_readStruct {expecting : String} {reader : FieldReader Json α} {variant : α → β}
    {fields : List (String × Json)} {b : β}
    (h : variant <$> readStruct expecting reader (.obj fields) = .ok b) :
    reader.Gives (fields.lookup ·) fun a => variant a = b := by
  cases read : readStruct expecting reader (.obj fields) with
  | error rejection => simp [read] at h
  | ok a =>
    rw [read] at h
    exact ⟨a, readStruct_obj read, Except.ok.inj h⟩

end RecordFlow
