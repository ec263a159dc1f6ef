import RecordFlow.Proofs.Document.Structures

/-!
# Expressions that were read

A condition or an expression that was read from a document has finite values, and its numbers have
the widths that they are read with. Its unsigned numbers are integers of the document, and so they
are below a limit if these are.

## Main definitions

* `Condition.IsSound`, `Expression.IsSound` — finite values and numbers of the right width
* `Expression.sizes` — the unsigned numbers of an expression

## Main results

* `Condition.isSound_of_reader`, `Expression.isSoundBelow_of_read` — what was read is sound
-/

namespace RecordFlow

/-- A signed integer of 64 bits. -/
def IsInt64 (i : Int) : Prop := -(2 ^ 63) ≤ i ∧ i < 2 ^ 63

/-- What is left out of a condition is not written as null, and a value is finite. -/
def Condition.IsSound (condition : Condition) : Prop :=
  ∀ value ∈ condition.value, value.IsFinite ∧ value.isNull = false

/-- The number of an operation has 64 bits. -/
def DateOp.IsSound : DateOp → Prop
  | add _ amount _ => IsInt64 amount
  | _ => True

/-- The numbers of an operation have 64 bits, and a value is finite. -/
def ListOp.IsSound : ListOp → Prop
  | includes value => value.IsFinite
  | .at index => IsInt64 index
  | slice start stop => IsInt64 start ∧ ∀ i ∈ stop, IsInt64 i
  | _ => True

/-- The signed numbers of an operation have 64 bits. -/
def TextOp.IsSound : TextOp → Prop
  | substring start stop => IsInt64 start ∧ ∀ i ∈ stop, IsInt64 i
  | _ => True

/-- The unsigned numbers of an operation. -/
def TextOp.sizes : TextOp → List Nat
  | padStart width _ => [width]
  | padEnd width _ => [width]
  | _ => []

namespace Expression

mutual

/-- The values of an expression are finite, and its signed numbers have 64 bits. -/
def IsSound : Expression → Prop
  | literal value => value.IsFinite
  | concat values _ => AllSound values
  | math _ left right => left.IsSound ∧ OptionSound right
  | coalesce values => AllSound values
  | conditional condition positive negative =>
    condition.IsSound ∧ positive.IsSound ∧ OptionSound negative
  | date op => op.IsSound
  | list _ op => op.IsSound
  | text _ op => op.IsSound
  | _ => True

/-- So are several expressions. -/
def AllSound : List Expression → Prop
  | [] => True
  | e :: es => e.IsSound ∧ AllSound es

/-- So is an expression that may be lacking. -/
def OptionSound : Option Expression → Prop
  | none => True
  | some e => e.IsSound

end

mutual

/-- The unsigned numbers of an expression. -/
def sizes : Expression → List Nat
  | concat values _ => allSizes values
  | math _ left right => left.sizes ++ optionSizes right
  | coalesce values => allSizes values
  | conditional _ positive negative => positive.sizes ++ optionSizes negative
  | text _ op => op.sizes
  | _ => []

/-- Those of several expressions. -/
def allSizes : List Expression → List Nat
  | [] => []
  | e :: es => e.sizes ++ allSizes es

/-- Those of an expression that may be lacking. -/
def optionSizes : Option Expression → List Nat
  | none => []
  | some e => e.sizes

end

end Expression

variable {δ : Type} [Document δ] [InMemory δ] {d : δ}

theorem isInt64_of_readsAs {part : Option δ} {i : Int} (h : ReadsAs Reader.int64 0 part i) :
    IsInt64 i := by
  cases part with
  | none =>
    rw [readsAs_none.mp h]
    exact ⟨by decide, by decide⟩
  | some d => exact (Reader.int64_eq_ok_iff.mp h).2

theorem isInt64_of_readsAs_optional {part : Option δ} {i : Option Int}
    (h : ReadsAs (Reader.optional Reader.int64) none part i) : ∀ a ∈ i, IsInt64 a := by
  rintro a rfl
  obtain ⟨d, -, -, read⟩ := exists_of_readsAs_optional h
  exact (Reader.int64_eq_ok_iff.mp read).2

/-- A condition that was read is sound. -/
theorem Condition.isSound_of_reader {condition : Condition}
    (read : Condition.reader d = .ok condition) (fits : (shown d).Fits sizeLimit) :
    condition.IsSound := by
  refine property_of_readStruct read fits fun values parts => ?_
  simp only [FieldReader.yields_map_iff, FieldReader.yields_seq_iff,
    FieldReader.yields_required_iff, FieldReader.yields_optional_iff]
  intro _ _ field _ _ _ comparison _ found readValue
  rintro value (rfl : found = some value)
  obtain ⟨part, found, there, same⟩ := exists_of_readsAs_optional readValue
  rw [← Reader.value_eq_ok_iff.mp same, Json.isNull_toValue]
  exact ⟨Json.isFinite_toValue (parts _ _ found), there⟩

namespace Expression

/-! ### Parts of documents -/

@[simp] theorem shown_partOf (json : Json) : shown (partOf json) = json := by
  cases json <;> simp only [partOf] <;> rfl

theorem partsOf_eq_map (items : List Json) : partsOf items = items.map partOf := by
  induction items with
  | nil => rw [partsOf, List.map_nil]
  | cons item items ih => rw [partsOf, ih, List.map_cons]

theorem entriesOf_eq_map (fields : List (String × Json)) :
    entriesOf fields = fields.map (Entry.ofField partOf) := by
  induction fields with
  | nil => rw [entriesOf, List.map_nil]
  | cons field fields ih => rw [entriesOf, ih, List.map_cons]; rfl

/-- An expression is sound, and its unsigned numbers are below a limit. -/
def IsSoundBelow (limit : Nat) (e : Expression) : Prop := e.IsSound ∧ ∀ n ∈ e.sizes, n < limit

/-- A part is sound whatever it is read as. -/
structure Part.IsSound (limit : Nat) (part : Part) : Prop where
  fits : (shown part).Fits limit
  expression : ∀ {e}, part.expression = .ok e → e.IsSoundBelow limit
  expressions : ∀ {es}, part.expressions = .ok es → ∀ e ∈ es, e.IsSoundBelow limit

variable {limit : Nat} {content : Content Part}

/-- What is left of a level without its tag are parts of it. -/
theorem splitTag_parts {name expecting : String} {level : View Part}
    {tag : Part} {content : Content Part} {parts : List Part}
    (h : splitTag name expecting level = .ok (tag, content))
    (ofList : ∀ items, level = .list items → items ⊆ parts)
    (ofMap : ∀ entries, level = .map entries → entries.map Entry.value ⊆ parts) :
    content.parts ⊆ parts := by
  cases level with
  | list items =>
    cases items with
    | nil => cases h
    | cons tag' rest =>
      cases h
      exact fun part hpart => ofList _ rfl (.tail _ hpart)
  | map entries =>
    simp only [splitTag] at h
    split at h
    · cases h
      rintro part hpart
      obtain ⟨entry, hentry, rfl⟩ := List.mem_map.mp hpart
      exact ofMap _ rfl (List.mem_map_of_mem (List.mem_of_mem_filter hentry))
    · cases h
  | _ => cases h

theorem mem_of_readTag {α : Type} {manner : Manner} {shapes : List (String × α)}
    {tag : Part} {shape : α} (h : readTag manner shapes tag = .ok shape) :
    ∃ entry ∈ shapes, entry.2 = shape := by
  simp only [readTag] at h
  split at h
  · split at h
    next found =>
      obtain ⟨before, behind, rfl, -⟩ := List.lookup_eq_some_iff.mp found
      cases h
      exact ⟨_, List.mem_append_right _ (.head _), rfl⟩
    next => cases h
  · split at h
    · split at h
      next found =>
        cases h
        exact ⟨_, List.mem_of_getElem? found, rfl⟩
      next => cases h
    · cases h
  · cases h

/-- An operation that was read is one of a table, read from parts. -/
theorem exists_of_readOperation {α : Type}
    {ops : List (String × (Content Part → Except Rejection α))} {expecting : String} {a : α}
    (h : readOperation expecting ops content = .ok a) :
    ∃ op ∈ ops, ∃ rest, op.2 rest = .ok a ∧ rest.parts ⊆ content.parts := by
  rw [readOperation] at h
  cases split : splitTag "operation" expecting content.view with
  | error rejection => simp [split, bind, Except.bind] at h
  | ok apart =>
    obtain ⟨tag, rest⟩ := apart
    cases read : readTag .setAside ops tag with
    | error rejection => simp [split, read, bind, Except.bind] at h
    | ok op =>
      obtain ⟨entry, hentry, rfl⟩ := mem_of_readTag read
      simp only [split, read, bind, Except.bind] at h
      refine ⟨entry, hentry, rest, h, splitTag_parts split ?_ ?_⟩
      · intro items same
        cases content with
        | named entries => cases same
        | listed => cases same; exact List.Subset.refl _
      · intro entries same
        cases content with
        | named => cases same; exact List.Subset.refl _
        | listed items => cases same

/-! ### Operations -/

theorem isSound_of_dateOps {op : String × (Content Part → Except Rejection DateOp)}
    (hop : op ∈ dateOps) {a : DateOp} (read : op.2 content = .ok a) : a.IsSound := by
  simp only [dateOps, List.mem_cons, List.not_mem_nil, or_false] at hop
  rcases hop with rfl | rfl | rfl | rfl | rfl | rfl | rfl
  · cases content with
    | named entries => cases read; trivial
    | listed items => cases items <;> cases read; trivial
  all_goals
    refine property_of_readContent read fun values _ => ?_
    simp +contextual [DateOp.IsSound, IsInt64]

theorem isSound_of_listOps {op : String × (Content Part → Except Rejection Expression)}
    (hop : op ∈ listOps) (parts : ∀ part ∈ content.parts, part.IsSound limit)
    (le : limit ≤ sizeLimit) {e : Expression} (read : op.2 content = .ok e) :
    e.IsSoundBelow limit := by
  simp only [listOps, List.mem_cons, List.not_mem_nil, or_false] at hop
  rcases hop with rfl | rfl | rfl | rfl | rfl | rfl | rfl
  -- The length, an end, a joined text
  iterate 4
    · refine property_of_readContent read fun values _ => ?_
      simp [IsSoundBelow, IsSound, ListOp.IsSound, sizes]
  -- Whether a value is among the items
  · refine property_of_readContent read fun values within => ?_
    simp only [FieldReader.yields_map_iff, FieldReader.yields_seq_iff,
      FieldReader.yields_required_iff]
    intro _ _ path _ part found value hvalue
    refine ⟨?_, by simp [sizes]⟩
    rw [IsSound, ← Reader.value_eq_ok_iff.mp hvalue]
    exact Json.isFinite_toValue ((parts part (within _ _ found)).fits.mono le)
  -- The item at an index
  · refine property_of_readContent read fun values _ => ?_
    simp +contextual [IsSoundBelow, IsSound, ListOp.IsSound, IsInt64, sizes]
  -- A slice
  · refine property_of_readContent read fun values _ => ?_
    simp only [FieldReader.yields_map_iff, FieldReader.yields_seq_iff,
      FieldReader.yields_required_iff, FieldReader.yields_withDefault_iff,
      FieldReader.yields_optional_iff]
    intro _ _ path _ start hstart stop hstop
    refine ⟨?_, by simp [sizes]⟩
    rw [IsSound]
    exact ⟨isInt64_of_readsAs hstart, isInt64_of_readsAs_optional hstop⟩

theorem isSound_of_textOps {op : String × (Content Part → Except Rejection Expression)}
    (hop : op ∈ textOps) (parts : ∀ part ∈ content.parts, part.IsSound limit) {e : Expression}
    (read : op.2 content = .ok e) : e.IsSoundBelow limit := by
  have ofSize {part : Part} (hpart : part ∈ content.parts) {n : Nat} (same : shown part = .int n) :
      n < limit := by
    have fits := (parts part hpart).fits
    rw [same, Json.fits_int_iff] at fits
    exact_mod_cast fits.2
  simp only [textOps, List.mem_cons, List.not_mem_nil, or_false] at hop
  rcases hop with rfl | rfl | rfl | rfl | rfl | rfl | rfl | rfl | rfl
  -- The width of a padding
  case' inr.inr.inr.inr.inr.inr.inr.inl | inr.inr.inr.inr.inr.inr.inr.inr =>
    refine property_of_readContent read fun values within => ?_
    simp only [FieldReader.yields_map_iff, FieldReader.yields_seq_iff,
      FieldReader.yields_required_iff, FieldReader.yields_withDefault_iff, Reader.size_eq_ok_iff]
    rintro _ _ path _ part found width ⟨same, -⟩ pad _
    exact ⟨by simp [IsSound, TextOp.IsSound], by
      simpa [sizes, TextOp.sizes] using ofSize (within _ _ found) same⟩
  -- A part of a text
  case' inr.inr.inr.inr.inl =>
    refine property_of_readContent read fun values _ => ?_
    simp only [FieldReader.yields_map_iff, FieldReader.yields_seq_iff,
      FieldReader.yields_required_iff, FieldReader.yields_withDefault_iff,
      FieldReader.yields_optional_iff]
    intro _ _ path _ start hstart stop hstop
    refine ⟨?_, by simp [sizes, TextOp.sizes]⟩
    rw [IsSound]
    exact ⟨isInt64_of_readsAs hstart, isInt64_of_readsAs_optional hstop⟩
  all_goals
    refine property_of_readContent read fun values _ => ?_
    simp [IsSoundBelow, IsSound, TextOp.IsSound, sizes, TextOp.sizes]

/-! ### Expressions -/

theorem allSound_iff {es : List Expression} : AllSound es ↔ ∀ e ∈ es, e.IsSound := by
  induction es with
  | nil => simp [AllSound]
  | cons e es ih => rw [AllSound, ih, List.forall_mem_cons]

theorem allSizes_eq_flatMap (es : List Expression) : allSizes es = es.flatMap sizes := by
  induction es with
  | nil => rw [allSizes, List.flatMap_nil]
  | cons e es ih => rw [allSizes, ih, List.flatMap_cons]

/-- Several expressions are sound if each of them is. -/
theorem allSound_and_lt {es : List Expression} (each : ∀ e ∈ es, e.IsSoundBelow limit) :
    AllSound es ∧ ∀ n ∈ allSizes es, n < limit := by
  rw [allSound_iff, allSizes_eq_flatMap, List.forall_mem_flatMap]
  exact ⟨fun e he => (each e he).1, fun e he => (each e he).2⟩

/-- An expression that may be lacking is sound, and its unsigned numbers are below a limit. -/
def OptionSoundBelow (limit : Nat) (e : Option Expression) : Prop :=
  OptionSound e ∧ ∀ n ∈ optionSizes e, n < limit

namespace IsSoundBelow

variable {es : List Expression} {e : Expression} {e' : Option Expression}

theorem concat (each : ∀ e ∈ es, e.IsSoundBelow limit) (separator : String) :
    (concat es separator).IsSoundBelow limit := by
  rw [IsSoundBelow, IsSound, sizes]
  exact allSound_and_lt each

theorem coalesce (each : ∀ e ∈ es, e.IsSoundBelow limit) : (coalesce es).IsSoundBelow limit := by
  rw [IsSoundBelow, IsSound, sizes]
  exact allSound_and_lt each

theorem math (op : MathOp) (left : e.IsSoundBelow limit) (right : OptionSoundBelow limit e') :
    (math op e e').IsSoundBelow limit := by
  rw [IsSoundBelow, IsSound, sizes, List.forall_mem_append]
  exact ⟨⟨left.1, right.1⟩, left.2, right.2⟩

theorem conditional {condition : Condition} (sound : condition.IsSound)
    (positive : e.IsSoundBelow limit) (negative : OptionSoundBelow limit e') :
    (conditional condition e e').IsSoundBelow limit := by
  rw [IsSoundBelow, IsSound, sizes, List.forall_mem_append]
  exact ⟨⟨sound, positive.1, negative.1⟩, positive.2, negative.2⟩

end IsSoundBelow

/-- An expression that may be lacking was read from a part. -/
theorem isSoundBelow_of_readsAs {values : String → Option Part} {name : String}
    (parts : ∀ part, values name = some part → part.IsSound limit) {e : Option Expression}
    (h : ReadsAs (Reader.optional Part.expression) none (values name) e) :
    OptionSoundBelow limit e := by
  cases e with
  | none => simp [OptionSoundBelow, OptionSound, optionSizes]
  | some e =>
    obtain ⟨part, found, -, read⟩ := exists_of_readsAs_optional h
    rw [OptionSoundBelow, OptionSound, optionSizes]
    exact (parts part found).expression read

/-- What is read from sound parts is sound. -/
theorem isSoundBelow_of_readKind (parts : ∀ part ∈ content.parts, part.IsSound limit)
    (le : limit ≤ sizeLimit) {kind : Kind} {e : Expression} (read : readKind content kind = .ok e) :
    e.IsSoundBelow limit := by
  cases kind <;> rw [readKind] at read
  case field | template =>
    refine property_of_readContent read fun values _ => ?_
    simp [IsSoundBelow, IsSound, sizes]
  case literal =>
    refine property_of_readContent read fun values within => ?_
    simp only [FieldReader.yields_map_iff, FieldReader.yields_required_iff, Reader.value_eq_ok_iff]
    rintro part found _ rfl
    refine ⟨?_, by simp [sizes]⟩
    rw [IsSound]
    exact Json.isFinite_toValue ((parts part (within _ _ found)).fits.mono le)
  case concat =>
    refine property_of_readContent read fun values within => ?_
    simp only [FieldReader.yields_map_iff, FieldReader.yields_seq_iff,
      FieldReader.yields_required_iff, FieldReader.yields_withDefault_iff]
    intro part found es readEach separator _
    exact IsSoundBelow.concat ((parts part (within _ _ found)).expressions readEach) separator
  case coalesce =>
    refine property_of_readContent read fun values within => ?_
    simp only [FieldReader.yields_map_iff, FieldReader.yields_required_iff]
    intro part found es readEach
    exact IsSoundBelow.coalesce ((parts part (within _ _ found)).expressions readEach)
  case math =>
    refine property_of_readContent read fun values within => ?_
    simp only [FieldReader.yields_map_iff, FieldReader.yields_seq_iff,
      FieldReader.yields_required_iff, FieldReader.yields_optional_iff]
    intro _ _ op _ part found left readLeft right readRight
    have ofRight :=
      isSoundBelow_of_readsAs (fun part found => parts part (within _ _ found)) readRight
    exact .math op ((parts part (within _ _ found)).expression readLeft) ofRight
  case conditional =>
    refine property_of_readContent read fun values within => ?_
    simp only [FieldReader.yields_map_iff, FieldReader.yields_seq_iff,
      FieldReader.yields_required_iff, FieldReader.yields_optional_iff]
    intro part₁ found₁ condition readCondition part₂ found₂ positive
      readPositive negative readNegative
    have ofCondition := Condition.isSound_of_reader readCondition
      ((parts part₁ (within _ _ found₁)).fits.mono le)
    have ofNegative :=
      isSoundBelow_of_readsAs (fun part found => parts part (within _ _ found)) readNegative
    exact .conditional ofCondition
      ((parts part₂ (within _ _ found₂)).expression readPositive) ofNegative
  case date =>
    -- The operation of a date is wrapped here, those of lists and texts where they are read.
    cases readOp : readOperation "internally tagged enum DateExpression" dateOps content with
    | error rejection => simp [readOp] at read
    | ok op =>
      simp only [readOp, Except.map_ok, Except.ok.injEq] at read
      subst read
      obtain ⟨entry, hentry, rest, read, -⟩ := exists_of_readOperation readOp
      refine ⟨?_, by simp [sizes]⟩
      rw [IsSound]
      exact isSound_of_dateOps hentry read
  case list =>
    obtain ⟨op, hop, rest, read, left⟩ := exists_of_readOperation read
    exact isSound_of_listOps hop (fun part hpart => parts part (left hpart)) le read
  case text =>
    obtain ⟨op, hop, rest, read, left⟩ := exists_of_readOperation read
    exact isSound_of_textOps hop (fun part hpart => parts part (left hpart)) read

theorem isSoundBelow_of_readView {manner : Manner} {level : View Part} (parts : List Part)
    (sound : ∀ part ∈ parts, part.IsSound limit) (le : limit ≤ sizeLimit)
    (ofList : ∀ items, level = .list items → items ⊆ parts)
    (ofMap : ∀ entries, level = .map entries → entries.map Entry.value ⊆ parts) {e : Expression}
    (read : readView manner level = .ok e) : e.IsSoundBelow limit := by
  rw [readView] at read
  cases split : splitTag "type" "internally tagged enum Expression" level with
  | error rejection => simp [split, bind, Except.bind] at read
  | ok apart =>
    obtain ⟨tag, content⟩ := apart
    cases named : readTag manner kinds tag with
    | error rejection => simp [split, named, bind, Except.bind] at read
    | ok kind =>
      simp only [split, named, bind, Except.bind] at read
      have left := splitTag_parts split ofList ofMap
      exact isSoundBelow_of_readKind (fun part hpart => sound part (left hpart)) le read

theorem isSoundBelow_of_readItems {manner : Manner} {items : List Json}
    (sound : ∀ item ∈ items, (partOf item).IsSound limit) (le : limit ≤ sizeLimit) {e : Expression}
    (read : readView manner (.list (partsOf items)) = .ok e) : e.IsSoundBelow limit := by
  rw [partsOf_eq_map] at read
  refine isSoundBelow_of_readView (items.map partOf) (List.forall_mem_map.mpr sound) le ?_ ?_ read
  · rintro _ ⟨⟩
    exact List.Subset.refl _
  · rintro _ ⟨⟩

theorem isSoundBelow_of_readFields {manner : Manner} {fields : List (String × Json)}
    (sound : ∀ field ∈ fields, (partOf field.2).IsSound limit)
    (le : limit ≤ sizeLimit) {e : Expression}
    (read : readView manner (.map (entriesOf fields)) = .ok e) : e.IsSoundBelow limit := by
  rw [entriesOf_eq_map] at read
  refine isSoundBelow_of_readView (fields.map fun field => partOf field.2)
    (List.forall_mem_map.mpr sound) le ?_ ?_ read
  · rintro _ ⟨⟩
  · rintro _ ⟨⟩
    rw [List.map_map]
    exact List.Subset.refl _

/-- Every part of a document is sound. -/
theorem isSound_partOf {json : Json} (fits : json.Fits limit) (le : limit ≤ sizeLimit) :
    (partOf json).IsSound limit := by
  have plain (json : Json) (fits : json.Fits limit) : (Part.plain json).IsSound limit :=
    ⟨fits, nofun, nofun⟩
  -- A list is also read as a list of expressions, an object is not, and
  -- other documents as no expression.
  induction fits with
  | arr fits ih =>
    refine ⟨by rw [shown_partOf]; exact .arr fits, ?_, ?_⟩
    · rw [partOf]
      exact isSoundBelow_of_readItems ih le
    · rw [partOf]
      intro es read e he
      rw [partsOf_eq_map, mapM_eq_ok_iff, List.forall₂_map_left_iff] at read
      obtain ⟨item, hitem, same⟩ := exists_of_forall₂ read he
      exact (ih item hitem).expression same
  | obj fits ih =>
    refine ⟨by rw [shown_partOf]; exact .obj fits, ?_, ?_⟩
    · rw [partOf]
      exact isSoundBelow_of_readFields ih le
    · rw [partOf]
      exact nofun
  | _ => exact plain _ (by constructor <;> assumption)

/-- An expression that was read is sound, and its unsigned numbers are
below the limit of the document. -/
theorem isSoundBelow_of_read {json : Json} {e : Expression} (read : Expression.read json = .ok e)
    (fits : json.Fits limit) (le : limit ≤ sizeLimit) : e.IsSoundBelow limit := by
  cases fits with
  | arr fits =>
    rw [Expression.read] at read
    exact isSoundBelow_of_readItems (fun item hitem => isSound_partOf (fits item hitem) le) le read
  | obj fits =>
    rw [Expression.read] at read
    exact isSoundBelow_of_readFields
      (fun field hfield => isSound_partOf (fits field hfield) le) le read
  | _ => simp [Expression.read, Part.plain] at read

end Expression

end RecordFlow
