import RecordFlow.Proofs.Document.InMemory

/-!
# Structures in documents in memory

The fields of a structure are declared and read together. What is built of some values is accepted
by the declared fields, so a structure that was written with fields of different names is read again
when it is built of them. In the other direction a structure that was read, from an object or from a
list, is built of parts of the document.

## Main definitions

* `FieldReader.Lawful` — a structure can only be built of values that its fields accept

## Main results

* `readEntries_of_build`, `readStruct_of_obj` — a structure is read from
  the fields that it is built of
* `property_of_readStruct`, `property_of_readContent` — what a structure is like that was read
-/

namespace RecordFlow

variable {δ α β : Type}

/-! ### What is declared and what is built -/

namespace FieldReader

theorem exists_build_of_map {f : α → β} {reader : FieldReader δ α}
    {values : String → Option δ} {b : β} (built : (f <$> reader).build values = .ok b) :
    ∃ a, reader.build values = .ok a ∧ f a = b := by
  have gives : (f <$> reader).Gives values (· = b) := ⟨b, built, rfl⟩
  exact gives_map_iff.mp gives

theorem exists_build_of_seq {f : FieldReader δ (α → β)} {reader : FieldReader δ α}
    {values : String → Option δ} {b : β} (built : (f <*> reader).build values = .ok b) :
    ∃ g, f.build values = .ok g ∧ ∃ a, reader.build values = .ok a ∧ g a = b := by
  have gives : (f <*> reader).Gives values (· = b) := ⟨b, built, rfl⟩
  exact gives_seq_iff.mp gives

/-- A structure can only be built of values that its fields accept, and of
all those that are required. -/
class Lawful (reader : FieldReader δ α) : Prop where
  accepts : ∀ {values a}, reader.build values = .ok a → ∀ field ∈ reader.fields, ∀ d,
    values field.name = some d → field.accepts d = .ok ()
  required : ∀ {values a}, reader.build values = .ok a → ∀ field ∈ reader.fields,
    field.required = true → values field.name ≠ none

variable [Document δ]

instance (f : α → β) (reader : FieldReader δ α) [lawful : reader.Lawful] :
    (f <$> reader).Lawful where
  accepts built := by
    obtain ⟨a, built, -⟩ := exists_build_of_map built
    exact lawful.accepts built
  required built := by
    obtain ⟨a, built, -⟩ := exists_build_of_map built
    exact lawful.required built

instance (f : FieldReader δ (α → β)) (reader : FieldReader δ α) [first : f.Lawful]
    [second : reader.Lawful] : (f <*> reader).Lawful where
  accepts built field hfield := by
    obtain ⟨g, before, a, behind, -⟩ := exists_build_of_seq built
    rcases List.mem_append.mp hfield with hfield | hfield
    · exact first.accepts before field hfield
    · exact second.accepts behind field hfield
  required built field hfield := by
    obtain ⟨g, before, a, behind, -⟩ := exists_build_of_seq built
    rcases List.mem_append.mp hfield with hfield | hfield
    · exact first.required before field hfield
    · exact second.required behind field hfield

instance (name : String) (item : Reader δ α) : (required name item).Lawful where
  accepts {values a} built field hfield d found := by
    obtain rfl := List.mem_singleton.mp hfield
    simp only [required, found] at built
    simp only [built, Except.map]
  required {values a} built field hfield _ absent := by
    obtain rfl := List.mem_singleton.mp hfield
    simp [required, absent] at built

instance (name : String) (item : Reader δ α) (absent : α) :
    (withDefault name item absent).Lawful where
  accepts {values a} built field hfield d found := by
    obtain rfl := List.mem_singleton.mp hfield
    simp only [withDefault, found] at built
    simp only [built, Except.map]
  required {values a} built field hfield isRequired := by
    obtain rfl := List.mem_singleton.mp hfield
    cases isRequired

instance (name : String) (item : Reader δ α) : (optional name item).Lawful :=
  inferInstanceAs (withDefault name _ none).Lawful

end FieldReader

instance (name : String) : (textField name).Lawful :=
  inferInstanceAs (FieldReader.required name Reader.text).Lawful

/-! ### What the fields are read as -/

/-- What a field that may be lacking is read as. -/
def ReadsAs (item : Reader δ α) (absent : α) : Option δ → α → Prop
  | some d, a => item d = .ok a
  | none, a => a = absent

@[simp] theorem readsAs_some {item : Reader δ α} {absent a : α} {d : δ} :
    ReadsAs item absent (some d) a ↔ item d = .ok a := .rfl

@[simp] theorem readsAs_none {item : Reader δ α} {absent a : α} :
    ReadsAs item absent none a ↔ a = absent :=
  .rfl

namespace FieldReader

attribute [simp] gives_map_iff gives_seq_iff gives_required_iff

variable {reader : FieldReader δ α} {values : String → Option δ} {name : String} {item : Reader δ α}

@[simp] theorem build_eq_ok_iff {a : α} :
    reader.build values = .ok a ↔ reader.Gives values (· = a) := by
  constructor
  · exact fun built => ⟨a, built, rfl⟩
  · rintro ⟨_, built, rfl⟩
    exact built

@[simp] theorem gives_withDefault_iff [Document δ] {absent : α} {property : α → Prop} :
    (withDefault name item absent).Gives values property ↔
      ∃ a, ReadsAs item absent (values name) a ∧ property a := by
  simp only [Gives, withDefault, ReadsAs]
  cases values name <;> simp [eq_comm]

@[simp] theorem gives_optional_iff [Document δ] {property : Option α → Prop} :
    (optional name item).Gives values property ↔
      ∃ a, ReadsAs (Reader.optional item) none (values name) a ∧ property a :=
  gives_withDefault_iff

/-- Whatever a structure is read as from values has a property. -/
def Yields (reader : FieldReader δ α) (values : String → Option δ) (property : α → Prop) : Prop :=
  ∀ a, reader.build values = .ok a → property a

@[simp] theorem yields_map_iff {f : α → β} {property : β → Prop} :
    (f <$> reader).Yields values property ↔ reader.Yields values fun a => property (f a) := by
  constructor
  · exact fun yields a built => yields _ (by
      rw [build_eq_ok_iff, gives_map_iff]
      exact ⟨a, built, rfl⟩)
  · rintro yields b built
    obtain ⟨a, before, rfl⟩ := exists_build_of_map built
    exact yields a before

@[simp] theorem yields_seq_iff {f : FieldReader δ (α → β)} {property : β → Prop} :
    (f <*> reader).Yields values property ↔
      f.Yields values fun g => reader.Yields values fun a => property (g a) := by
  constructor
  · exact fun yields g before a built => yields _ (by
      rw [build_eq_ok_iff, gives_seq_iff]
      exact ⟨g, before, a, built, rfl⟩)
  · rintro yields b built
    obtain ⟨g, before, a, behind, rfl⟩ := exists_build_of_seq built
    exact yields g before a behind

@[simp] theorem yields_required_iff [Document δ] {property : α → Prop} :
    (required name item).Yields values property ↔
      ∀ d, values name = some d → ∀ a, item d = .ok a → property a := by
  simp only [Yields, required]
  cases values name <;> simp

@[simp] theorem yields_withDefault_iff [Document δ] {absent : α} {property : α → Prop} :
    (withDefault name item absent).Yields values property ↔
      ∀ a, ReadsAs item absent (values name) a → property a := by
  simp only [Yields, withDefault, ReadsAs]
  cases values name <;> simp [eq_comm]

@[simp] theorem yields_optional_iff [Document δ] {property : Option α → Prop} :
    (optional name item).Yields values property ↔
      ∀ a, ReadsAs (Reader.optional item) none (values name) a → property a :=
  yields_withDefault_iff

end FieldReader

@[simp] theorem lookup_optionalField (name other : String) (write : α → Json) (value : Option α) :
    (optionalField other write value).lookup name = if name =
      other then value.map write else none := by
  cases value with
  | none => simp [optionalField]
  | some a =>
    by_cases h : name = other <;> simp [optionalField, h, List.lookup_cons, beq_false_of_ne]

@[simp] theorem mem_optionalField {name : String} {write : α → Json} {value : Option α}
    {field : String × Json} :
    field ∈ optionalField name write value ↔ ∃ a ∈ value, (name, write a) = field := by
  cases value <;> simp [optionalField, eq_comm]

/-- A value that may be absent is read again if it is read where it is there. -/
theorem readsAs_optional_map_iff [Document δ] [InMemory δ] {item : Reader δ α} {write : α → δ}
    {value value' : Option α}
    (each : ∀ a ∈ value, (shown (write a)).isNull = false ∧ item (write a) = .ok a) :
    ReadsAs (Reader.optional item) none (value.map write) value' ↔ value' = value := by
  cases value with
  | none => rfl
  | some a =>
    obtain ⟨there, read⟩ := each a rfl
    rw [Option.map_some, readsAs_some, Reader.optional_eq, there, read]
    simp [Except.map, eq_comm]

@[simp] theorem readsAs_text_iff [Document δ] [InMemory δ] {text read : Option String} :
    ReadsAs (Reader.optional Reader.text) none (text.map ((wrap : Json → δ) ∘ Json.str)) read ↔
      read = text :=
  readsAs_optional_map_iff fun _ _ => by simp [Json.isNull]

/-- A value that was there was read from a part that is not null. -/
theorem exists_of_readsAs_optional [Document δ] [InMemory δ] {item : Reader δ α}
    {part : Option δ} {a : α} (h : ReadsAs (Reader.optional item) none part (some a)) :
    ∃ d, part = some d ∧ (shown d).isNull = false ∧ item d = .ok a := by
  cases part with
  | none => cases h
  | some d =>
    rw [readsAs_some, Reader.optional_eq] at h
    split at h
    · cases h
    next there =>
      refine ⟨d, rfl, eq_false_of_ne_true there, ?_⟩
      cases read : item d with
      | error rejection => simp [read, Except.map] at h
      | ok a' => simpa [read, Except.map] using h

/-- A table names every variant, and a name of a variant is not that of another one. -/
class Naming {α : Type} [DecidableEq α] (table : List (String × α)) : Prop where
  lookup_nameIn : ∀ variant, table.lookup (nameIn table variant) = some variant

theorem choice_nameIn_iff [Document δ] [InMemory δ] [DecidableEq α] {table : List (String × α)}
    [naming : Naming table] {known : List String} {enumeration : String} {d : δ} {variant a : α}
    (h : shown d = .str (nameIn table variant)) :
    Reader.choice table known enumeration d = .ok a ↔ variant = a := by
  rw [Reader.choice_of_str h (naming.lookup_nameIn variant), Except.ok.injEq]

@[simp] theorem choice_wrap_iff [Document δ] [InMemory δ] [DecidableEq α]
    {table : List (String × α)} [Naming table] {known : List String}
    {enumeration : String} {variant a : α} :
    Reader.choice table known enumeration (wrap (.str (nameIn table variant)) : δ) = .ok a ↔
      variant = a :=
  choice_nameIn_iff (InMemory.shown_wrap _)

/-! ### Structures that were written -/

section

variable {reader : FieldReader δ α} {part : Json → δ} {fields : List (String × Json)} {a : α}

theorem lookup_of_mem {field : String × Json} (nodup : (fields.map Prod.fst).Nodup)
    (hfield : field ∈ fields) : fields.lookup field.1 = some field.2 := by
  induction fields with
  | nil => cases hfield
  | cons first fields ih =>
    rw [List.map_cons, List.nodup_cons] at nodup
    rw [List.lookup_cons]
    rcases List.mem_cons.mp hfield with rfl | later
    · simp
    · have different : field.1 ≠ first.1 := fun same =>
        nodup.1 (same ▸ List.mem_map_of_mem later)
      rw [beq_false_of_ne different]
      exact ih nodup.2 later

theorem find?_ofField_map (part : Json → δ) (fields : List (String × Json)) (name : String) :
    ((fields.map (Entry.ofField part)).find? (·.name == name)).map Entry.value =
      (fields.lookup name).map part := by
  induction fields with
  | nil => rfl
  | cons field fields ih =>
    rw [List.map_cons, List.find?_cons, List.lookup_cons]
    by_cases h : field.1 = name
    · simp [Entry.ofField, h]
    · simpa [Entry.ofField, beq_false_of_ne h, beq_false_of_ne (Ne.symm h)] using ih

variable [Document δ] [InMemory δ]

/-- Entries of different names are accepted when their values are. -/
theorem checkEntries_eq_ok {declared : List (Field δ)} {seen : List String}
    (nodup : (fields.map Prod.fst).Nodup) (new : ∀ field ∈ fields, field.1 ∉ seen)
    (accepted : ∀ field ∈ declared, ∀ entry ∈ fields, field.name = entry.1 →
      field.accepts (part entry.2) = .ok ()) :
    checkEntries declared (fields.map (Entry.ofField part)) seen = .ok () := by
  induction fields generalizing seen with
  | nil => rfl
  | cons entry fields ih =>
    rw [List.map_cons, List.nodup_cons] at nodup
    have later := fun field hfield entry hentry => accepted field hfield entry (.tail _ hentry)
    rw [List.map_cons, checkEntries]
    simp only [Entry.ofField, bind, Except.bind]
    cases found : declared.find? (·.name == entry.1) with
    | none =>
      -- A field that is not declared is skipped.
      simp only [InMemory.skip_eq]
      exact ih nodup.2 (fun field hfield => new field (.tail _ hfield)) later
    | some field =>
      have named : field.name = entry.1 := by simpa using List.find?_some found
      have first := accepted field (List.mem_of_find?_eq_some found) entry (.head _) named
      simp only [if_neg (show ¬ seen.contains entry.1 from by simpa using new entry (.head _)),
        first]
      refine ih nodup.2 (fun other hother => ?_) later
      rw [List.mem_cons, not_or]
      exact ⟨fun same => nodup.1 (same ▸ List.mem_map_of_mem hother), new other (.tail _ hother)⟩

/-- A structure is read from the fields that it is built of. -/
theorem readEntries_of_build [lawful : reader.Lawful] (nodup : (fields.map Prod.fst).Nodup)
    (built : reader.build (fun name => (fields.lookup name).map part) = .ok a)
    (place : Option Place) :
    readEntries reader (fields.map (Entry.ofField part)) place = .ok a := by
  -- Three things can be wrong with an object: an entry, a field that is
  -- lacking, and what is built at the end.
  have checked : checkEntries reader.fields (fields.map (Entry.ofField part)) [] = .ok () := by
    refine checkEntries_eq_ok nodup (fun _ _ => List.not_mem_nil)
      fun field hfield entry hentry named => ?_
    refine lawful.accepts built field hfield _ ?_
    rw [named, lookup_of_mem nodup hentry]
    rfl
  have complete : reader.fields.find? (fun field =>
      field.required && !(fields.map (Entry.ofField part)).any (·.name == field.name)) = none := by
    refine List.find?_eq_none.mpr fun field hfield lacking => ?_
    rw [Bool.and_eq_true] at lacking
    refine lawful.required built field hfield lacking.1 ?_
    rw [Option.map_eq_none_iff, List.lookup_eq_none_iff]
    intro entry hentry
    have absent := lacking.2
    simp only [List.any_map, Bool.not_eq_true', List.any_eq_false,
      Function.comp_apply, Entry.ofField, beq_iff_eq] at absent
    simpa using Ne.symm (absent entry hentry)
  rw [readEntries, checked]
  simp only [bind, Except.bind, complete, find?_ofField_map, built]

theorem readStruct_of_obj {d : δ} {expecting : String} [reader.Lawful] (h : shown d = .obj fields)
    (nodup : (fields.map Prod.fst).Nodup)
    (built : reader.build (fun name => (fields.lookup name).map wrap) = .ok a) :
    readStruct expecting reader d = .ok a := by
  rw [readStruct, InMemory.view_eq, h]
  simp only [Json.viewWith, within_eq]
  exact readEntries_of_build nodup built _

end

/-! ### Structures that were read -/

section

variable [Document δ] {reader : FieldReader δ α} {a : α} {place : Option Place} {expecting : String}

/-- A structure that was read from the entries of an object is built of their values. -/
theorem exists_build_of_readEntries {entries : List (Entry δ)}
    (h : readEntries reader entries place = .ok a) : ∃ values, reader.build values = .ok a ∧
      ∀ name part, values name = some part → ∃ entry ∈ entries, entry.value = part := by
  rw [readEntries] at h
  cases checked : checkEntries reader.fields entries [] with
  | error rejection => simp [checked, bind, Except.bind] at h
  | ok _ =>
    simp only [checked, bind, Except.bind] at h
    split at h
    · cases h
    · refine ⟨_, h, fun name part found => ?_⟩
      obtain ⟨entry, hentry, same⟩ := Option.map_eq_some_iff.mp found
      exact ⟨entry, List.mem_of_find?_eq_some hentry, same⟩

/-- A structure that was read from an object is built of its fields. -/
theorem build_of_readStruct_obj [InMemory δ] {d : δ} {fields : List (String × Json)}
    (h : readStruct expecting reader d = .ok a) (same : shown d = .obj fields) :
    reader.build (fun name => (fields.lookup name).map wrap) = .ok a := by
  rw [readStruct, InMemory.view_eq, same] at h
  simp only [Json.viewWith, within_eq, readEntries] at h
  cases checked : checkEntries reader.fields (fields.map (Entry.ofField (wrap : Json → δ))) [] with
  | error rejection => simp [checked, bind, Except.bind] at h
  | ok _ =>
    simp only [checked, bind, Except.bind, find?_ofField_map] at h
    split at h
    · cases h
    · exact h

/-- A structure that was read from the items of a list is built of them. -/
theorem exists_build_of_readItems {items : List δ}
    (h : readItems expecting reader items place = .ok a) :
    ∃ values, reader.build values = .ok a ∧
      ∀ name part, values name = some part → part ∈ items := by
  rw [readItems] at h
  simp only [bind, Except.bind] at h
  split at h
  · cases h
  · split at h
    · cases h
    · refine ⟨_, h, fun name part found => ?_⟩
      obtain ⟨pair, hpair, rfl⟩ := Option.map_eq_some_iff.mp found
      exact (List.of_mem_zip (List.mem_of_find?_eq_some hpair)).2

/-- The parts of a content. -/
def Content.parts : Content δ → List δ
  | .named entries => entries.map Entry.value
  | .listed items => items

/-- A structure that was read from a content has what all structures have
that are built of its parts. -/
theorem property_of_readContent {content : Content δ} {property : α → Prop}
    (h : readContent expecting reader content = .ok a)
    (yields : ∀ values, (∀ name part, values name = some part → part ∈ content.parts) →
      reader.Yields values property) : property a := by
  cases content with
  | named entries =>
    obtain ⟨values, built, parts⟩ := exists_build_of_readEntries h
    exact yields values (fun name part found => List.mem_map.mpr (parts name part found)) a built
  | listed items =>
    obtain ⟨values, built, parts⟩ := exists_build_of_readItems h
    exact yields values parts a built

/-- A structure that was read from a document is built of parts of it. -/
theorem exists_build_of_readStruct [InMemory δ] {d : δ} {limit : Nat}
    (h : readStruct expecting reader d = .ok a) (fits : (shown d).Fits limit) :
    ∃ values, reader.build values = .ok a ∧
      ∀ name part, values name = some part → (shown part).Fits limit := by
  rw [readStruct, InMemory.view_eq] at h
  cases same : shown d with
  | arr items =>
    simp only [same, Json.viewWith, within_eq] at h
    obtain ⟨values, built, parts⟩ := exists_build_of_readItems h
    refine ⟨values, built, fun name part found => ?_⟩
    obtain ⟨item, hitem, rfl⟩ := List.mem_map.mp (parts name part found)
    rw [same, Json.fits_arr_iff] at fits
    simpa using fits item hitem
  | obj fields =>
    simp only [same, Json.viewWith, within_eq] at h
    obtain ⟨values, built, parts⟩ := exists_build_of_readEntries h
    refine ⟨values, built, fun name part found => ?_⟩
    obtain ⟨entry, hentry, rfl⟩ := parts name part found
    obtain ⟨field, hfield, rfl⟩ := List.mem_map.mp hentry
    rw [same, Json.fits_obj_iff] at fits
    simpa [Entry.ofField] using fits field hfield
  | _ => simp [same, Json.viewWith, rejectType_ne_ok] at h

/-- A structure that was read from a document has what all structures have
that are built of its parts. -/
theorem property_of_readStruct [InMemory δ] {d : δ} {limit : Nat} {property : α → Prop}
    (h : readStruct expecting reader d = .ok a) (fits : (shown d).Fits limit)
    (yields : ∀ values, (∀ name part, values name = some part → (shown part).Fits limit) →
      reader.Yields values property) : property a := by
  obtain ⟨values, built, parts⟩ := exists_build_of_readStruct h fits
  exact yields values parts a built

end

end RecordFlow
