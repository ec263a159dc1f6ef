import RecordFlow.Proofs.Json.Numbers
import RecordFlow.Proofs.Json.Tokens

/-!
# Texts of documents

What is a text of a document is told apart from a certain layout: white space may stand in front of
each part. Both layouts in which documents are written give such texts, if the floats of the
document are read again from their own texts.

## Main definitions

* `Json.depth` — how many arrays and objects lie in each other
* `Json.ReadsBack` — a float is read again from its text
* `Json.IsLegible` — what is in a document can be written and read again
* `Json.IsTextOf` — a text is one of a document

## Main results

* `Json.IsLegible.isTextOf_compactChars`,
  `Json.IsLegible.isTextOf_prettyChars` — the layouts give texts
-/

namespace RecordFlow.Json

/-! ### Documents that can be read again -/

mutual

/-- How many arrays and objects lie in each other. -/
def depth : Json → Nat
  | .arr items => depthOfItems items + 1
  | .obj fields => depthOfFields fields + 1
  | _ => 0

/-- The greatest depth of the items of an array. -/
def depthOfItems : List Json → Nat
  | [] => 0
  | x :: xs => max x.depth (depthOfItems xs)

/-- The greatest depth of the fields of an object. -/
def depthOfFields : List (String × Json) → Nat
  | [] => 0
  | (_, x) :: rest => max x.depth (depthOfFields rest)

end

theorem depth_arr_le_iff {items : List Json} {n : Nat} :
    (arr items).depth ≤ n + 1 ↔ ∀ item ∈ items, item.depth ≤ n := by
  rw [depth, Nat.add_le_add_iff_right]
  induction items with
  | nil => simp [depthOfItems]
  | cons item items ih => rw [depthOfItems, Nat.max_le, ih, List.forall_mem_cons]

theorem depth_obj_le_iff {fields : List (String × Json)} {n : Nat} :
    (obj fields).depth ≤ n + 1 ↔ ∀ field ∈ fields, field.2.depth ≤ n := by
  rw [depth, Nat.add_le_add_iff_right]
  induction fields with
  | nil => simp [depthOfFields]
  | cons field fields ih => rw [depthOfFields, Nat.max_le, ih, List.forall_mem_cons]

/-- A float is read again from its text. -/
def ReadsBack (f : Float) : Prop := read (floatChars f) = .ok (.float f)

/-- What is in a document can be written and read again: integers of 64 bits, floats that are read
again from their texts, and objects in which no name occurs twice. -/
inductive IsLegible : Json → Prop where
  | null : IsLegible .null
  | bool (b : Bool) : IsLegible (.bool b)
  | int {i : Int} (low : -(2 ^ 63) ≤ i) (high : i < sizeLimit) : IsLegible (.int i)
  | float {f : Float} (reads : ReadsBack f) : IsLegible (.float f)
  | str (s : String) : IsLegible (.str s)
  | arr {items : List Json} (each : ∀ item ∈ items, IsLegible item) : IsLegible (.arr items)
  | obj {fields : List (String × Json)} (nodup : (fields.map Prod.fst).Nodup)
      (each : ∀ field ∈ fields, IsLegible field.2) : IsLegible (.obj fields)

/-! ### Texts -/

/-- What follows a part: further parts, with a comma in front of each, and an end. -/
def closed (close : List Char) : List (List Char) → List Char
  | [] => close
  | part :: parts => ',' :: (part ++ closed close parts)

/-- Parts with commas between them and an end. -/
def listed (close : List Char) : List (List Char) → List Char
  | [] => close
  | part :: parts => part ++ closed close parts

/-- A field as it is written: white space, the name and a text of the value. -/
structure WrittenField where
  before : List Char
  name : String
  text : List Char
  value : Json

namespace WrittenField

/-- The text of a field. -/
def chars (field : WrittenField) : List Char :=
  field.before ++ quoteChars field.name.toList ++ ':' :: field.text

/-- The field that is written. -/
def field (field : WrittenField) : String × Json := (field.name, field.value)

end WrittenField

/-- Nothing but white space. -/
def IsGap (text : List Char) : Prop := ∀ c ∈ text, isSpace c = true

theorem isGap_nil : IsGap [] := List.forall_mem_nil _

theorem isGap_newline (level : Nat) : IsGap (newline level) := by
  refine List.forall_mem_cons.mpr ⟨rfl, fun c hc => ?_⟩
  rw [List.eq_of_mem_replicate hc]
  rfl

/-- A text is one of a document. White space may stand in front of each part. -/
inductive IsTextOf : Json → List Char → Prop where
  | null : IsTextOf .null "null".toList
  | yes : IsTextOf (.bool true) "true".toList
  | no : IsTextOf (.bool false) "false".toList
  | int {i : Int} (low : -(2 ^ 63) ≤ i) (high : i < sizeLimit) :
    IsTextOf (.int i) (toString i).toList
  | float {f : Float} (reads : ReadsBack f) : IsTextOf (.float f) (floatChars f)
  | str (s : String) : IsTextOf (.str s) (quoteChars s.toList)
  | arr {items : List (List Char × Json)} {gap : List Char}
    (each : ∀ item ∈ items, IsTextOf item.2 item.1)
      (isGap : IsGap gap) :
      IsTextOf (.arr (items.map Prod.snd)) ('[' :: listed (gap ++ [']']) (items.map Prod.fst))
  | obj {fields : List WrittenField} {gap : List Char}
      (each : ∀ field ∈ fields, IsTextOf field.value field.text)
      (spaced : ∀ field ∈ fields, IsGap field.before)
      (nodup : (fields.map WrittenField.name).Nodup) (isGap : IsGap gap) :
      IsTextOf (.obj (fields.map WrittenField.field))
        ('\x7b' :: listed (gap ++ ['\x7d']) (fields.map WrittenField.chars))
  | behind {json : Json} {gap text : List Char} (isGap : IsGap gap) (h : IsTextOf json text) :
      IsTextOf json (gap ++ text)

/-! ### Layouts -/

section

variable {gap : List Char}

/-- An array is written with the texts of its items. -/
theorem isTextOf_arr {items : List Json} {write : Json → List Char}
    (each : ∀ item ∈ items, IsTextOf item (write item)) (isGap : IsGap gap) :
    IsTextOf (.arr items) ('[' :: listed (gap ++ [']']) (items.map write)) := by
  have text := @IsTextOf.arr (items.map fun item => (write item, item)) gap
    (List.forall_mem_map.mpr each) isGap
  simpa only [List.map_map, Function.comp_def, List.map_id'] using text

/-- An object is written with the texts of its fields. -/
theorem isTextOf_obj {fields : List (String × Json)} {before between : List Char}
    {write : Json → List Char} (nodup : (fields.map Prod.fst).Nodup)
    (each : ∀ field ∈ fields, IsTextOf field.2 (write field.2)) (isBefore : IsGap before)
    (isBetween : IsGap between) (isGap : IsGap gap) :
    IsTextOf (.obj fields) ('\x7b' :: listed (gap ++ ['\x7d']) (fields.map fun field =>
      before ++ quoteChars field.1.toList ++ ':' :: (between ++ write field.2))) := by
  have text := @IsTextOf.obj
    (fields.map fun field => ⟨before, field.1, between ++ write field.2, field.2⟩) gap
    (List.forall_mem_map.mpr fun field hfield => .behind isBetween (each field hfield))
    (List.forall_mem_map.mpr fun _ _ => isBefore)
    (by simpa only [List.map_map, Function.comp_def] using nodup) isGap
  simpa only [List.map_map, Function.comp_def, WrittenField.field, WrittenField.chars, Prod.mk.eta,
    List.map_id'] using text

end

theorem compactItems_eq (items : List Json) :
    compactItems items = listed [']'] (items.map compactChars) := by
  induction items with
  | nil => rfl
  | cons item items ih =>
    cases items with
    | nil => rfl
    | cons next items => exact congrArg (item.compactChars ++ ',' :: ·) ih

theorem compactFields_eq (fields : List (String × Json)) :
    compactFields fields =
      listed ['\x7d'] (fields.map fun field => quoteChars field.1.toList ++
        ':' :: field.2.compactChars) := by
  induction fields with
  | nil => rfl
  | cons field fields ih =>
    cases fields with
    | nil => simp [compactFields, listed, closed]
    | cons next fields => simp [compactFields, ih, listed, closed]

/-- The compact layout gives a text. -/
theorem IsLegible.isTextOf_compactChars {json : Json} (h : json.IsLegible) :
    IsTextOf json json.compactChars := by
  induction h with
  | null => exact .null
  | bool b =>
    cases b with
    | true => exact .yes
    | false => exact .no
  | int low high => exact .int low high
  | float reads => exact .float reads
  | str s => exact .str s
  | arr _ ih =>
    change IsTextOf _ ('[' :: compactItems _)
    rw [compactItems_eq]
    exact isTextOf_arr ih isGap_nil
  | obj nodup _ ih =>
    change IsTextOf _ ('\x7b' :: compactFields _)
    rw [compactFields_eq]
    exact isTextOf_obj nodup ih isGap_nil isGap_nil isGap_nil

theorem prettyItems_eq (level : Nat) (items : List Json) :
    prettyItems level items = listed (newline level ++ [']'])
      (items.map fun item => newline (level + 1) ++ item.prettyChars (level + 1)) := by
  induction items with
  | nil => rfl
  | cons item items ih =>
    cases items with
    | nil => simp [prettyItems, listed, closed]
    | cons next items => simp [prettyItems, ih, listed, closed]

theorem prettyFields_eq (level : Nat) (fields : List (String × Json)) :
    prettyFields level fields = listed (newline level ++ ['\x7d']) (fields.map fun field =>
      newline (level + 1) ++ quoteChars field.1.toList ++
        ':' :: ([' '] ++ field.2.prettyChars (level + 1))) := by
  induction fields with
  | nil => rfl
  | cons field fields ih =>
    cases fields with
    | nil => simp [prettyFields, listed, closed]
    | cons next fields => simp [prettyFields, ih, listed, closed]

/-- The pretty layout gives a text at every level. -/
theorem IsLegible.isTextOf_prettyChars {json : Json} (h : json.IsLegible) (level : Nat) :
    IsTextOf json (json.prettyChars level) := by
  induction h generalizing level with
  | null => exact .null
  | bool b =>
    cases b with
    | true => exact .yes
    | false => exact .no
  | int low high => exact .int low high
  | float reads => exact .float reads
  | str s => exact .str s
  | @arr items _ ih =>
    cases items with
    | nil => exact isTextOf_arr (fun item hitem => ih item hitem level) isGap_nil
    | cons item items =>
      change IsTextOf _ ('[' :: prettyItems level (item :: items))
      rw [prettyItems_eq]
      exact isTextOf_arr (fun item hitem => .behind (isGap_newline _) (ih item hitem (level + 1)))
        (isGap_newline level)
  | @obj fields nodup _ ih =>
    cases fields with
    | nil => exact isTextOf_obj nodup (fun field hfield =>
      ih field hfield level) isGap_nil isGap_nil isGap_nil
    | cons field fields =>
      change IsTextOf _ ('\x7b' :: prettyFields level (field :: fields))
      rw [prettyFields_eq]
      exact isTextOf_obj nodup (fun field hfield => ih field hfield (level + 1)) (isGap_newline _)
        (List.forall_mem_singleton.mpr rfl) (isGap_newline level)

end RecordFlow.Json
