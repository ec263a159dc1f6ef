import RecordFlow.Expression.Basic

/-!
# Templates

A template is put together from segments: texts without braces, and placeholders, in which blanks
around the name do not count. It is filled in segment by segment. A placeholder ends where its
braces are closed, so the next segment is met at its first character, whatever it is; and what was
put in is behind the reader then, so it stands as it is.

## Main definitions

* `TemplateSegment` — the segments, with their sources and with what they are rendered as
* `Fills` — a text is filled in as another one

## Main results

* `Fills.segment` — a segment is rendered in front of what follows it
* `Expression.evaluate_template` — a template is rendered segment by segment
-/

namespace RecordFlow

/-- A segment of a template: a text without braces, or a placeholder for a field of a record. -/
inductive TemplateSegment where
  | literal (text : String) (plain : ∀ c ∈ text.toList, c ≠ '\x7b' ∧ c ≠ '\x7d')
  | placeholder (before name after : String)
    (blanksBefore : ∀ c ∈ before.toList, Text.isBlank c = true)
    (named : name ≠ "")
    (isName : ∀ c ∈ name.toList, c ≠ '\x7b' ∧ c ≠ '\x7d' ∧ Text.isBlank c = false)
    (blanksAfter : ∀ c ∈ after.toList, Text.isBlank c = true)

/-- The text of a field of a record; null and what is absent have none. -/
def Record.fieldText (record : Record) (name : String) : String :=
  match record.get? name with
  | none | some .null => ""
  | some value => value.toText

namespace TemplateSegment

/-- A segment as it is written in a template. -/
def source : TemplateSegment → String
  | literal text _ => text
  | placeholder before name after .. => "\x7b\x7b" ++ before ++ name ++ after ++ "\x7d\x7d"

/-- What a segment is rendered as for a record. -/
def rendered (record : Record) : TemplateSegment → String
  | literal text _ => text
  | placeholder _ name .. => record.fieldText name

end TemplateSegment

variable {record : Record} {text rest out : List Char}

/-! ### Placeholders -/

theorem isNameChar_iff {c : Char} :
    isNameChar c = true ↔ c ≠ '\x7b' ∧ c ≠ '\x7d' ∧ Text.isBlank c = false := by
  simp [isNameChar, and_assoc]

/-- No placeholder starts with a character that is no brace. -/
theorem placeholder?_of_ne {c : Char} (h : c ≠ '\x7b') : placeholder? (c :: rest) = none := by
  rw [placeholder?]
  simp [h]

/-- Where blanks end, whatever follows them is left, if it starts with none. -/
theorem dropWhile_isBlank_append {blanks : List Char}
    (h : ∀ c ∈ blanks, Text.isBlank c = true) {c : Char} (hc : Text.isBlank c = false) :
    (blanks ++ c :: rest).dropWhile Text.isBlank = c :: rest := by
  rw [List.dropWhile_append_of_pos h, List.dropWhile_cons_of_neg (by simp [hc])]

/-- The name of a placeholder ends where the blanks behind it or the closing braces start. -/
theorem head_not_isNameChar {blanks : List Char} (h : ∀ c ∈ blanks, Text.isBlank c = true)
    (rest : List Char) :
    ∃ c others, blanks ++ '\x7d' :: '\x7d' :: rest = c :: others ∧ isNameChar c = false := by
  cases blanks with
  | nil => exact ⟨'\x7d', _, rfl, rfl⟩
  | cons c blanks => exact ⟨c, _, rfl, by simp [isNameChar, h c (.head _)]⟩

theorem placeholder?_source {before name after : List Char}
    (blanksBefore : ∀ c ∈ before, Text.isBlank c = true) (named : name ≠ [])
    (isName : ∀ c ∈ name, isNameChar c = true) (blanksAfter : ∀ c ∈ after, Text.isBlank c = true)
    (rest : List Char) :
    placeholder? ('\x7b' :: '\x7b' :: (before ++ (name ++ (after ++ '\x7d' :: '\x7d' :: rest)))) =
      some (name, rest) := by
  obtain ⟨first, others, rfl⟩ := List.exists_cons_of_ne_nil named
  obtain ⟨c, tail, behind, ends⟩ := head_not_isNameChar blanksAfter rest
  have notBlank : Text.isBlank first = false := (isNameChar_iff.mp (isName first (.head _))).2.2
  have opened : (before ++ (first :: others ++ (c :: tail))).dropWhile Text.isBlank =
      first :: others ++ (c :: tail) :=
    dropWhile_isBlank_append blanksBefore notBlank
  have taken : (first :: others ++ (c :: tail)).takeWhile isNameChar = first :: others := by
    rw [List.takeWhile_append_of_pos isName, List.takeWhile_cons_of_neg (by simp [ends]),
      List.append_nil]
  have left : (first :: others ++ (c :: tail)).dropWhile isNameChar = c :: tail := by
    rw [List.dropWhile_append_of_pos isName, List.dropWhile_cons_of_neg (by simp [ends])]
  have closed : (c :: tail).dropWhile Text.isBlank = '\x7d' :: '\x7d' :: rest := by
    rw [← behind]
    exact dropWhile_isBlank_append blanksAfter (by decide)
  rw [behind, placeholder?]
  simp only [opened, taken, left, closed, List.isEmpty_cons, Bool.false_eq_true, if_false]

/-! ### Filling in -/

/-- A text is filled in as another one, with any fuel that is enough. -/
def Fills (record : Record) (text out : List Char) : Prop :=
  ∀ fuel, text.length ≤ fuel → fillFrom record fuel text = out

namespace Fills

theorem nil : Fills record [] [] := by
  intro fuel _
  cases fuel <;> rfl

/-- A character with which no placeholder starts stays. -/
theorem cons {c : Char} (h : c ≠ '\x7b') (fills : Fills record rest out) :
    Fills record (c :: rest) (c :: out) := by
  intro fuel enough
  cases fuel with
  | zero => cases enough
  | succ fuel =>
    rw [fillFrom, placeholder?_of_ne h]
    simp only [fills fuel (Nat.le_of_succ_le_succ enough)]

theorem plain (h : ∀ c ∈ text, c ≠ '\x7b') (fills : Fills record rest out) :
    Fills record (text ++ rest) (text ++ out) := by
  induction text with
  | nil => exact fills
  | cons c text ih =>
    obtain ⟨first, others⟩ := List.forall_mem_cons.mp h
    exact .cons first (ih others)

/-- A placeholder is replaced, and filling in goes on behind it. -/
theorem placeholder {c : Char} {name : List Char}
    (found : placeholder? (c :: text) = some (name, rest)) (shorter : rest.length ≤ text.length)
    (fills : Fills record rest out) :
    Fills record (c :: text) ((record.fieldText (String.ofList name)).toList ++ out) := by
  intro fuel enough
  cases fuel with
  | zero => cases enough
  | succ fuel =>
    have value : ((record.get? (String.ofList name)).map Value.toText).getD "" =
        record.fieldText (String.ofList name) := by
      rw [Record.fieldText]
      rcases record.get? (String.ofList name) with _ | (_ | _) <;> rfl
    rw [fillFrom, found]
    simp only [value, fills fuel (Nat.le_trans shorter (Nat.le_of_succ_le_succ enough))]

/-- A segment is rendered in front of what follows it. -/
theorem segment (segment : TemplateSegment) (fills : Fills record rest out) :
    Fills record (segment.source.toList ++ rest) ((segment.rendered record).toList ++ out) := by
  cases segment with
  | literal text noBraces => exact .plain (fun c hc => (noBraces c hc).1) fills
  | placeholder before name after blanksBefore named isName blanksAfter =>
    have written : (TemplateSegment.placeholder before name after blanksBefore named isName
        blanksAfter).source.toList ++ rest =
        '\x7b' :: '\x7b' :: (before.toList ++
          (name.toList ++ (after.toList ++ '\x7d' :: '\x7d' :: rest))) := by
      simp [TemplateSegment.source]
    have found := placeholder?_source blanksBefore (mt String.toList_eq_nil_iff.mp named)
      (fun c hc => isNameChar_iff.mpr (isName c hc)) blanksAfter rest
    have filled := fills.placeholder found (by simp; omega)
    rw [String.ofList_toList] at filled
    rw [written]
    exact filled

theorem segments (segments : List TemplateSegment) :
    Fills record (segments.flatMap fun segment => segment.source.toList)
      (segments.flatMap fun segment => (segment.rendered record).toList) := by
  induction segments with
  | nil => exact .nil
  | cons segment segments ih => exact ih.segment segment

end Fills

/-- **Templates are rendered segment by segment.** The text of a template that is put together from
segments is what these are rendered as: texts without braces stay, and placeholders become the texts
of their fields, in which nothing is looked for again. -/
theorem Expression.evaluate_template (now : Timestamp) (record : Record)
    (segments : List TemplateSegment) :
    (template (String.join (segments.map TemplateSegment.source))).evaluate now record =
      some (.text (String.join (segments.map (TemplateSegment.rendered record)))) := by
  have source : (String.join (segments.map TemplateSegment.source)).toList =
      segments.flatMap fun segment => segment.source.toList := by
    rw [String.toList_join, List.flatMap_map]
  have rendered : (String.join (segments.map (TemplateSegment.rendered record))).toList =
      segments.flatMap fun segment => (segment.rendered record).toList := by
    rw [String.toList_join, List.flatMap_map]
  have enough : (segments.flatMap fun segment => segment.source.toList).length ≤
      (String.join (segments.map TemplateSegment.source)).length :=
    Nat.le_of_eq (by rw [← source, String.length_toList])
  rw [evaluate, fillPlaceholders, source, Fills.segments segments _ enough,
    ← rendered, String.ofList_toList]

/-- A placeholder in a field stays. -/
example : (Expression.template "Dear \x7b\x7b name \x7d\x7d\x7b\x7bsuffix\x7d\x7d!").evaluate .epoch
    [("name", .text "\x7b\x7bid\x7d\x7d"), ("id", .int 7), ("suffix", .null)] =
      some (.text "Dear \x7b\x7bid\x7d\x7d!") := rfl

end RecordFlow
