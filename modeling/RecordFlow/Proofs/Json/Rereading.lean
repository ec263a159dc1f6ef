import RecordFlow.Proofs.Document.InMemory
import RecordFlow.Proofs.Json.Layout

/-!
# Documents that are written and read again

The reader reads a document from each of its texts, as long as no more arrays and objects lie in
each other than it can hold open. In front of another text it stops at the end of its own, but for
white space that may be left behind a float.

## Main definitions

* `Json.IsReadFrom` — a document is read from a text, whatever follows

## Main results

* `Json.IsTextOf.isReadFrom`, `Json.IsTextOf.read` — a document is read from its texts
-/

namespace RecordFlow.Json

/-! ### White space -/

namespace Cursor

theorem skipSpace_behind {gap : List Char} (isGap : IsGap gap) (text : List Char) (offset : Nat) :
    (⟨gap ++ text, offset⟩ : Cursor).skipSpace =
      (⟨text, offset + gap.length⟩ : Cursor).skipSpace := by
  simp only [skipSpace, List.takeWhile_append_of_pos isGap, List.length_append, List.drop_append,
    Nat.add_assoc]
  simp

theorem skipSpace_of_head? {text : List Char} (h : ∀ d ∈ text.head?, isSpace d = false)
    (offset : Nat) : (⟨text, offset⟩ : Cursor).skipSpace = ⟨text, offset⟩ := by
  cases text with
  | nil => rfl
  | cons d text => simp [skipSpace, h d rfl]

theorem skipSpace_cons {d : Char} (h : isSpace d = false) (text : List Char) (offset : Nat) :
    (⟨d :: text, offset⟩ : Cursor).skipSpace = ⟨d :: text, offset⟩ := by
  refine skipSpace_of_head? (fun first hfirst => ?_) offset
  obtain rfl := Option.some.inj hfirst
  exact h

/-- White space is skipped up to what is none. -/
theorem exists_gap (c : Cursor) : ∃ gap left, IsGap gap ∧ (∀ d ∈ left.head?, isSpace d = false) ∧
    c.rest = gap ++ left ∧ c.skipSpace = ⟨left, c.offset + gap.length⟩ := by
  obtain ⟨text, offset⟩ := c
  have parts := List.takeWhile_append_dropWhile (p := isSpace) (l := text)
  have isGap : IsGap (text.takeWhile isSpace) := fun c hc => List.mem_takeWhile_imp hc
  have stops : ∀ d ∈ (text.dropWhile isSpace).head?, isSpace d = false := by
    intro d hd
    have first := List.head?_dropWhile_not isSpace text
    rwa [hd] at first
  refine ⟨_, _, isGap, stops, parts.symm, ?_⟩
  conv_lhs => rw [← parts]
  rw [skipSpace_behind isGap, skipSpace_of_head? stops]

theorem skipSpace_skipSpace (c : Cursor) : c.skipSpace.skipSpace = c.skipSpace := by
  obtain ⟨gap, left, -, stops, -, skip⟩ := c.exists_gap
  rw [skip, skipSpace_of_head? stops]

theorem isGap_of_skipSpace {c : Cursor} (h : c.skipSpace.rest = []) : IsGap c.rest := by
  obtain ⟨gap, left, isGap, -, parts, skip⟩ := c.exists_gap
  rw [skip] at h
  rwa [parts, show left = [] from h, List.append_nil]

/-- What is skipped in front of a part is skipped inside of a longer text, too. -/
theorem skipSpace_inside {c : Cursor} {d : Char} {text : List Char}
    (first : c.skipSpace.rest = d :: text) (ahead : Nat) (rest : List Char) :
    (c.inside ahead rest).skipSpace = c.skipSpace.inside ahead rest := by
  obtain ⟨gap, left, isGap, stops, parts, skip⟩ := c.exists_gap
  rw [skip] at first
  obtain rfl : left = d :: text := first
  rw [skip, Cursor.inside, parts, List.append_assoc, skipSpace_behind isGap, List.cons_append,
    skipSpace_cons (stops d rfl), Cursor.inside, List.cons_append, Nat.add_assoc]

end Cursor

/-- Where a value starts, it does not matter how much white space has been skipped. -/
theorem readValue_congr {stray : Bool} {depth : Nat} {c c' : Cursor}
    (h : c.skipSpace = c'.skipSpace) :
    readValue stray (depth + 1) c = readValue stray (depth + 1) c' := by
  simp only [readValue, h]

/-- Where a value starts, something is left that closes no array. -/
theorem exists_cons_of_readValue {depth : Nat} {c : Cursor} {result : Json × Cursor}
    (h : readValue false (depth + 1) c = .ok result) :
    ∃ d text, c.skipSpace.rest = d :: text ∧ d ≠ ']' := by
  cases left : c.skipSpace.rest with
  | nil =>
    simp only [readValue, left] at h
    cases h
  | cons d text =>
    refine ⟨d, text, rfl, ?_⟩
    rintro rfl
    simp only [readValue, left] at h
    cases h

/-- A number is read behind its sign. -/
theorem readValue_minus {depth : Nat} {c : Cursor} {text : List Char}
    (first : c.skipSpace.rest = '-' :: text) : readValue false (depth + 1) c =
      (readNumber false true c.skipSpace.skipOne).map fun (n, c) => (n.json, c) := by
  simp only [readValue, first]

theorem readValue_digit {depth : Nat} {c : Cursor} {d : Char} {text : List Char}
    (first : c.skipSpace.rest = d :: text) (h : d.isDigit = true) :
    readValue false (depth + 1) c = (readNumber false false c.skipSpace).map fun (n, c) =>
      (n.json, c) := by
  have apart (other : Char) (noDigit : other.isDigit = false) : d ≠ other := by
    rintro rfl
    cases h.symm.trans noDigit
  simp only [readValue, first]
  split
  next same => cases same
  next same => exact absurd (List.cons.inj same).1 (apart 'n' rfl)
  next same => exact absurd (List.cons.inj same).1 (apart 't' rfl)
  next same => exact absurd (List.cons.inj same).1 (apart 'f' rfl)
  next same => exact absurd (List.cons.inj same).1 (apart '-' rfl)
  next same => exact absurd (List.cons.inj same).1 (apart '"' rfl)
  next same => exact absurd (List.cons.inj same).1 (apart '[' rfl)
  next same => exact absurd (List.cons.inj same).1 (apart '\x7b' rfl)
  next same =>
    cases same
    rw [if_pos h]

theorem exists_of_map_eq_ok {ε α β : Type} {f : α → β} {result : Except ε α} {b : β}
    (h : result.map f = .ok b) : ∃ a, result = .ok a ∧ f a = b := by
  cases result with
  | error error => cases h
  | ok a => exact ⟨a, rfl, Except.ok.inj h⟩

theorem map_ne_ok {ε α β : Type} {f : α → β} {result : Except ε α} {b : β} (other : ∀ a, f a ≠ b) :
    result.map f ≠ .ok b := by
  intro h
  obtain ⟨a, -, same⟩ := exists_of_map_eq_ok h
  exact other a same

/-- Only a number is read as a float. -/
theorem first_of_readValue_float {depth : Nat} {c c' : Cursor} {f : Float}
    (h : readValue false (depth + 1) c = .ok (.float f, c')) :
    ∃ d text, c.skipSpace.rest = d :: text ∧ (d = '-' ∨ d.isDigit = true) := by
  -- The first character tells what is read.
  simp only [readValue] at h
  split at h
  next => cases h
  next => exact absurd h (map_ne_ok nofun)
  next => exact absurd h (map_ne_ok nofun)
  next => exact absurd h (map_ne_ok nofun)
  next first => exact ⟨_, _, first, .inl rfl⟩
  next => exact absurd h (map_ne_ok nofun)
  next =>
    split at h
    · cases h
    · exact absurd h (map_ne_ok nofun)
  next =>
    split at h
    · cases h
    · exact absurd h (map_ne_ok nofun)
  next first =>
    split at h
    next digit => exact ⟨_, _, first, .inr digit⟩
    next => cases h

/-- What a text is read as is read at its start, and nothing is left but white space. -/
theorem exists_of_read {text : List Char} {json : Json} (h : read text = .ok json) :
    ∃ c, readValue false (127 + 1) ⟨text, 0⟩ = .ok (json, c) ∧ c.skipSpace.rest = [] := by
  rw [Json.read] at h
  change (readValue false (127 + 1) ⟨text, 0⟩ >>= _) = _ at h
  cases first : readValue false (127 + 1) ⟨text, 0⟩ with
  | error fault =>
    rw [first] at h
    cases h
  | ok result =>
    obtain ⟨same, c⟩ := result
    simp only [first, bind, Except.bind] at h
    split at h
    next left =>
      cases h
      exact ⟨c, rfl, by simpa using left⟩
    next => cases h

/-! ### Single values -/

/-- A document is read from a text, whatever follows that a number does not go on
in. White space may be left. -/
def IsReadFrom (depth : Nat) (json : Json) (text : List Char) : Prop :=
  ∀ rest offset, EndsNumber rest → ∃ gap behind, IsGap gap ∧
    readValue false depth ⟨text ++ rest, offset⟩ = .ok (json, ⟨gap ++ rest, behind⟩)

namespace IsReadFrom

variable {depth : Nat}

theorem behind {json : Json} {gap text : List Char} (isGap : IsGap gap)
    (h : IsReadFrom (depth + 1) json text) : IsReadFrom (depth + 1) json (gap ++ text) := by
  intro rest offset ends
  obtain ⟨left, behind, isLeft, read⟩ := h rest (offset + gap.length) ends
  refine ⟨left, behind, isLeft, ?_⟩
  rw [List.append_assoc, readValue_congr (Cursor.skipSpace_behind isGap (text ++ rest) offset),
    read]

/-- A name is read that its first letter tells. -/
theorem named {json : Json} {letter : Char} {others : List Char}
    (h : ∀ text offset, readValue false (depth + 1) ⟨letter :: text, offset⟩ =
      (readIdent false others ⟨text, offset + 1⟩).map fun c => (json, c)) :
    IsReadFrom (depth + 1) json (letter :: others) := by
  intro rest offset _
  refine ⟨[], offset + 1 + others.length, isGap_nil, ?_⟩
  rw [List.cons_append, h, readIdent_append]
  rfl

theorem str (s : String) : IsReadFrom (depth + 1) (.str s) (quoteChars s.toList) := by
  intro rest offset _
  obtain ⟨behind, read⟩ := readString_quoted s.toList rest (offset + 1) []
  refine ⟨[], behind, isGap_nil, ?_⟩
  rw [quoteChars, List.cons_append, List.append_assoc, List.singleton_append]
  change (readString false (s.toList.flatMap escapeChar ++ '"' :: rest) (offset + 1) 0 []).map _ = _
  rw [read, List.reverse_nil, List.nil_append, String.ofList_toList]
  rfl

theorem isSpace_of_isDigit {d : Char} (h : d.isDigit = true) : isSpace d = false := by
  cases space : isSpace d with
  | false => rfl
  | true =>
    simp only [isSpace, Bool.or_eq_true, beq_iff_eq] at space
    obtain ((rfl | rfl) | rfl) | rfl := space <;> cases h

theorem int {i : Int} (low : -(2 ^ 63) ≤ i) (high : i < sizeLimit) :
    IsReadFrom (depth + 1) (.int i) (toString i).toList := by
  intro rest offset ends
  cases i with
  | ofNat n =>
    obtain ⟨d, digits, shape⟩ :=
      List.exists_cons_of_length_pos (Nat.length_toDigits_pos (b := 10) (n := n))
    have digit : d.isDigit = true :=
      Nat.isDigit_of_mem_toDigits (by decide) (by decide) (shape ▸ List.mem_cons_self)
    have first := Cursor.skipSpace_cons (isSpace_of_isDigit digit) (digits ++ rest) offset
    obtain ⟨behind, read⟩ := readNumber_toDigits ends false (n := n) (Int.ofNat_lt.mp high) offset
    refine ⟨[], behind, isGap_nil, ?_⟩
    rw [show (toString (Int.ofNat n)).toList = _ from toList_toString_natCast n]
    rw [shape, List.cons_append] at read ⊢
    rw [readValue_digit (congrArg Cursor.rest first) digit, first, read]
    rfl
  | negSucc n =>
    have small : n + 1 < 2 ^ 64 := by omega
    obtain ⟨behind, read⟩ := readNumber_toDigits ends true small (offset + 1)
    refine ⟨[], behind, isGap_nil, ?_⟩
    rw [toList_toString_negSucc, List.cons_append]
    have first :=
      Cursor.skipSpace_cons (show isSpace '-' = false from rfl)
        (Nat.toDigits 10 (n + 1) ++ rest) offset
    rw [readValue_minus (congrArg Cursor.rest first), first]
    change (readNumber false true ⟨Nat.toDigits 10 (n + 1) ++ rest, offset + 1⟩).map _ = _
    have inRange : ¬ (n + 1 = 0 ∨ Nat.pow 2 63 < n + 1) :=
      show ¬ (n + 1 = 0 ∨ 2 ^ 63 < n + 1) by omega
    rw [read, wholeNumber, if_neg (by decide), if_neg inRange]
    rfl

/-- A float that is read from its text alone is read in front of other text, too. -/
theorem float {f : Float} (reads : ReadsBack f) :
    IsReadFrom (depth + 1) (.float f) (floatChars f) := by
  intro rest offset ends
  obtain ⟨c, alone, left⟩ := exists_of_read reads
  obtain ⟨d, text, first, start⟩ := first_of_readValue_float alone
  have skip := Cursor.skipSpace_inside first offset rest
  refine ⟨c.rest, offset + c.offset, Cursor.isGap_of_skipSpace left, ?_⟩
  change readValue Bool.false (depth + 1) ((⟨floatChars f, 0⟩ : Cursor).inside offset rest) = _
  have inFront : ((⟨floatChars f, 0⟩ : Cursor).inside offset rest).skipSpace.rest =
      d :: (text ++ rest) := by
    rw [skip, Cursor.inside, first, List.cons_append]
  obtain rfl | digit := start
  · rw [readValue_minus first] at alone
    obtain ⟨⟨number, c'⟩, read, same⟩ := exists_of_map_eq_ok alone
    obtain ⟨kind, rfl⟩ := Prod.mk.inj same
    rw [readValue_minus inFront, skip, Cursor.skipOne_inside (congrArg List.head? first),
      readNumber_inside ends read, ← kind]
    rfl
  · rw [readValue_digit first digit] at alone
    obtain ⟨⟨number, c'⟩, read, same⟩ := exists_of_map_eq_ok alone
    obtain ⟨kind, rfl⟩ := Prod.mk.inj same
    rw [readValue_digit inFront digit, skip, readNumber_inside ends read, ← kind]
    rfl

end IsReadFrom

/-! ### Arrays -/

theorem endsNumber_of_gap {gap : List Char} (isGap : IsGap gap) {rest : List Char}
    (ends : EndsNumber rest) : EndsNumber (gap ++ rest) := by
  cases gap with
  | nil => exact ends
  | cons d gap =>
    intro first hfirst
    obtain rfl := Option.some.inj hfirst
    have space := isGap d List.mem_cons_self
    simp only [isSpace, Bool.or_eq_true, beq_iff_eq] at space
    obtain ((rfl | rfl) | rfl) | rfl := space <;> decide

/-- A number ends in front of a comma and in front of an end. -/
theorem endsNumber_closed {close : List Char} (ends : ∀ rest, EndsNumber (close ++ rest))
    (parts : List (List Char)) (rest : List Char) : EndsNumber (closed close parts ++ rest) := by
  cases parts with
  | nil => exact ends rest
  | cons part parts =>
    intro first hfirst
    obtain rfl := Option.some.inj hfirst
    decide

theorem endsNumber_close {gap : List Char} (isGap : IsGap gap) {close : Char}
    (h : close = ']' ∨ close = '\x7d') (rest : List Char) :
    EndsNumber (gap ++ [close] ++ rest) := by
  rw [List.append_assoc]
  refine endsNumber_of_gap isGap fun first hfirst => ?_
  obtain rfl := Option.some.inj hfirst
  obtain rfl | rfl := h <;> decide

theorem length_le_closed (close : List Char) (parts : List (List Char)) :
    parts.length + close.length ≤ (closed close parts).length := by
  induction parts with
  | nil => simp [closed]
  | cons part parts ih => simp only [closed, List.length_cons, List.length_append]; omega

theorem length_le_listed {close : List Char} (some : close ≠ []) (parts : List (List Char)) :
    parts.length ≤ (listed close parts).length := by
  cases parts with
  | nil => exact Nat.zero_le _
  | cons part parts =>
    have := length_le_closed close parts
    have := List.length_pos_of_ne_nil some
    simp only [listed, List.length_cons, List.length_append]
    omega

section

variable {gap : List Char} (isGap : IsGap gap) {depth : Nat}

include isGap

theorem nextItem_closed (first : Bool) (rest : List Char) (offset : Nat) :
    nextItem false first ⟨gap ++ ']' :: rest, offset⟩ =
      .ok (.closed ⟨rest, offset + gap.length + 1⟩) := by
  rw [nextItem, Cursor.skipSpace_behind isGap, Cursor.skipSpace_cons rfl]
  rfl

omit isGap in
/-- The first item starts where a value does. -/
theorem nextItem_first {c : Cursor} {result : Json × Cursor}
    (h : readValue false (depth + 1) c = .ok result) :
    nextItem false true c = .ok (.item c.skipSpace) := by
  obtain ⟨d, text, first, noEnd⟩ := exists_cons_of_readValue h
  rw [nextItem]
  split
  next same => cases first.symm.trans same
  next same => exact absurd (List.cons.inj (first.symm.trans same)).1 noEnd
  next => rfl

/-- Behind an item stands a comma in front of a value. -/
theorem nextItem_comma {text : List Char} {offset : Nat} {result : Json × Cursor}
    (h : readValue false (depth + 1) ⟨text, offset + gap.length + 1⟩ = .ok result) :
    nextItem false false ⟨gap ++ ',' :: text, offset⟩ =
      .ok (.item (⟨text, offset + gap.length + 1⟩ : Cursor).skipSpace) := by
  obtain ⟨d, others, first, noEnd⟩ := exists_cons_of_readValue h
  rw [nextItem, Cursor.skipSpace_behind isGap, Cursor.skipSpace_cons rfl]
  simp only [Bool.false_eq_true, if_false, Cursor.skipOne, List.drop_one, List.tail_cons]
  split
  next same => cases same
  next same => cases same
  next same =>
    cases same
    rw [if_pos rfl]
    -- The comma is taken, and what stands behind it is looked at.
    split
    next same => cases first.symm.trans same
    next same => exact absurd (List.cons.inj (first.symm.trans same)).1 noEnd
    next => rfl

end

section

variable {gap : List Char} (isGap : IsGap gap) {depth : Nat} {items : List (List Char × Json)}
  (each : ∀ item ∈ items, IsReadFrom (depth + 1) item.2 item.1)

include isGap each

/-- The items behind an item are read. -/
theorem readItems_closed {fuel : Nat} (enough : items.length < fuel)
    {left : List Char} (isLeft : IsGap left) (rest : List Char) (offset : Nat) : ∃ behind,
    readItems false (readValue false (depth + 1)) fuel false
        ⟨left ++ (closed (gap ++ [']']) (items.map Prod.fst) ++ rest), offset⟩ =
      .ok (items.map Prod.snd, ⟨rest, behind⟩) := by
  induction items generalizing fuel left offset with
  | nil =>
    obtain ⟨fuel, rfl⟩ := Nat.exists_eq_succ_of_ne_zero (Nat.ne_of_gt enough)
    have ends := nextItem_closed (List.forall_mem_append.mpr ⟨isLeft, isGap⟩) false rest offset
    refine ⟨offset + (left ++ gap).length + 1, ?_⟩
    rw [readItems]
    simp only [List.map_nil, closed, List.append_assoc, List.singleton_append] at ends ⊢
    rw [ends]
    rfl
  | cons item items ih =>
    obtain ⟨fuel, rfl⟩ := Nat.exists_eq_succ_of_ne_zero (Nat.ne_of_gt (Nat.zero_lt_of_lt enough))
    obtain ⟨first, others⟩ := List.forall_mem_cons.mp each
    have ends := endsNumber_closed (endsNumber_close isGap (.inl rfl)) (items.map Prod.fst) rest
    obtain ⟨left', behind, isLeft', read⟩ := first _ (offset + left.length + 1) ends
    obtain ⟨behind', later⟩ := ih others (Nat.lt_of_succ_lt_succ enough) isLeft' behind
    refine ⟨behind', ?_⟩
    rw [readItems, List.map_cons, closed, List.cons_append, List.append_assoc,
      nextItem_comma isLeft read]
    change (readValue false (depth + 1) _ >>= _) = _
    rw [readValue_congr (Cursor.skipSpace_skipSpace _), read]
    change (readItems _ _ _ _ _ >>= _) = _
    rw [later]
    rfl

/-- The items of an array are read behind its bracket. -/
theorem readItems_listed {fuel : Nat} (enough : items.length < fuel) (rest : List Char)
    (offset : Nat) : ∃ behind, readItems false (readValue false (depth + 1)) fuel true
        ⟨listed (gap ++ [']']) (items.map Prod.fst) ++ rest, offset⟩ =
      .ok (items.map Prod.snd, ⟨rest, behind⟩) := by
  obtain ⟨fuel, rfl⟩ := Nat.exists_eq_succ_of_ne_zero (Nat.ne_of_gt (Nat.zero_lt_of_lt enough))
  cases items with
  | nil =>
    have ends := nextItem_closed isGap true rest offset
    refine ⟨offset + gap.length + 1, ?_⟩
    rw [readItems]
    simp only [List.map_nil, listed, List.append_assoc, List.singleton_append]
    rw [ends]
    rfl
  | cons item items =>
    obtain ⟨first, others⟩ := List.forall_mem_cons.mp each
    have ends := endsNumber_closed (endsNumber_close isGap (.inl rfl)) (items.map Prod.fst) rest
    obtain ⟨left, behind, isLeft, read⟩ := first _ offset ends
    obtain ⟨behind', later⟩ :=
      readItems_closed isGap others (Nat.lt_of_succ_lt_succ enough) isLeft rest behind
    refine ⟨behind', ?_⟩
    rw [readItems, List.map_cons, listed, List.append_assoc, nextItem_first read]
    change (readValue false (depth + 1) _ >>= _) = _
    rw [readValue_congr (Cursor.skipSpace_skipSpace _), read]
    change (readItems _ _ _ _ _ >>= _) = _
    rw [later]
    rfl

end

/-! ### Objects -/

section

variable {gap before : List Char}

theorem nextEntry_closed (isGap : IsGap gap) (first : Bool) (rest : List Char) (offset : Nat) :
    nextEntry false first ⟨gap ++ '\x7d' :: rest, offset⟩ =
      .ok (.closed ⟨rest, offset + gap.length + 1⟩) := by
  rw [nextEntry, Cursor.skipSpace_behind isGap, Cursor.skipSpace_cons rfl]
  rfl

/-- The first entry starts with its name. -/
theorem nextEntry_first (isBefore : IsGap before) (text : List Char) (offset : Nat) :
    nextEntry false true ⟨before ++ '"' :: text, offset⟩ =
      .ok (.item ⟨'"' :: text, offset + before.length⟩) := by
  rw [nextEntry, Cursor.skipSpace_behind isBefore, Cursor.skipSpace_cons rfl]
  rfl

/-- Behind an entry stands a comma in front of a name. -/
theorem nextEntry_comma (isGap : IsGap gap) (isBefore : IsGap before) (text : List Char)
    (offset : Nat) : nextEntry false false ⟨gap ++ ',' :: (before ++ '"' :: text), offset⟩ =
      .ok (.item ⟨'"' :: text, offset + gap.length + 1 + before.length⟩) := by
  have behind : (⟨before ++ '"' :: text, offset + gap.length + 1⟩ : Cursor).skipSpace =
      ⟨'"' :: text, offset + gap.length + 1 + before.length⟩ := by
    rw [Cursor.skipSpace_behind isBefore, Cursor.skipSpace_cons rfl]
  rw [nextEntry, Cursor.skipSpace_behind isGap, Cursor.skipSpace_cons rfl]
  simp only [Bool.false_eq_true, if_false, Cursor.skipOne, List.drop_one, List.tail_cons, behind]
  rfl

end

section

variable {depth : Nat}

/-- An entry is read: its name, the colon and its value. -/
theorem readFields_entry {first : Bool} {c : Cursor} {field : WrittenField}
    {rest : List Char} {offset : Nat} (next : nextEntry false first c =
      .ok (.item ⟨quoteChars field.name.toList ++ ':' :: (field.text ++ rest), offset⟩))
    (isRead : IsReadFrom (depth + 1) field.value field.text) (ends : EndsNumber rest) (fuel : Nat)
    (fields : List (String × Json)) : ∃ left behind, IsGap left ∧
      readFields false (readValue false (depth + 1)) (fuel + 1) first fields c =
        readFields false (readValue false (depth + 1)) fuel false
          (insertField fields field.name field.value) ⟨left ++ rest, behind⟩ := by
  obtain ⟨named, name⟩ :=
    readString_quoted field.name.toList (':' :: (field.text ++ rest)) (offset + 1) []
  obtain ⟨left, behind, isLeft, read⟩ := isRead rest (named + 1) ends
  refine ⟨left, behind, isLeft, ?_⟩
  have colon : skipColon false ⟨':' :: (field.text ++ rest), named⟩ =
      .ok ⟨field.text ++ rest, named + 1⟩ := rfl
  have quoted : readString false
    ((quoteChars field.name.toList ++ ':' :: (field.text ++ rest)).drop 1)
      (offset + 1) 0 [] = .ok (field.name, ⟨':' :: (field.text ++ rest), named⟩) := by
    rw [quoteChars, List.cons_append, List.drop_one, List.tail_cons,
      List.append_assoc, List.singleton_append, name, List.reverse_nil,
      List.nil_append, String.ofList_toList]
  simp only [readFields, next, quoted, colon, read, bind, Except.bind]

variable {gap : List Char} (isGap : IsGap gap) {fields : List WrittenField}
  (each : ∀ field ∈ fields, IsReadFrom (depth + 1) field.value field.text)
  (spaced : ∀ field ∈ fields, IsGap field.before)

include isGap each spaced

/-- The entries behind an entry are read, if their names are new. -/
theorem readFields_closed {fuel : Nat} (enough : fields.length < fuel)
    {left : List Char} (isLeft : IsGap left) {done : List (String × Json)}
    (nodup : ((done ++ fields.map WrittenField.field).map Prod.fst).Nodup) (rest : List Char)
    (offset : Nat) : ∃ behind, readFields false (readValue false (depth + 1)) fuel false done
        ⟨left ++ (closed (gap ++ ['\x7d']) (fields.map WrittenField.chars) ++ rest), offset⟩ =
      .ok (done ++ fields.map WrittenField.field, ⟨rest, behind⟩) := by
  induction fields generalizing fuel left done offset with
  | nil =>
    obtain ⟨fuel, rfl⟩ := Nat.exists_eq_succ_of_ne_zero (Nat.ne_of_gt enough)
    have ends := nextEntry_closed (List.forall_mem_append.mpr ⟨isLeft, isGap⟩) false rest offset
    refine ⟨offset + (left ++ gap).length + 1, ?_⟩
    rw [readFields]
    simp only [List.map_nil, closed, List.append_assoc, List.singleton_append,
      List.append_nil] at ends ⊢
    rw [ends]
    rfl
  | cons field fields ih =>
    obtain ⟨fuel, rfl⟩ := Nat.exists_eq_succ_of_ne_zero (Nat.ne_of_gt (Nat.zero_lt_of_lt enough))
    obtain ⟨first, others⟩ := List.forall_mem_cons.mp each
    obtain ⟨before, spaces⟩ := List.forall_mem_cons.mp spaced
    have new : field.name ∉ done.map Prod.fst := by
      rw [List.map_append, List.nodup_append] at nodup
      exact fun hmem => nodup.2.2 _ hmem field.name List.mem_cons_self rfl
    have ends :=
      endsNumber_closed (endsNumber_close isGap (.inr rfl)) (fields.map WrittenField.chars) rest
    have next := nextEntry_comma isLeft before
        (field.name.toList.flatMap escapeChar ++ ['"'] ++ ':' ::
          (field.text ++ (closed (gap ++ ['\x7d']) (fields.map WrittenField.chars) ++ rest))) offset
    obtain ⟨left', behind, isLeft', entry⟩ := readFields_entry next first ends fuel done
    rw [insertField_of_not_mem new] at entry
    have nodup' : ((done ++ [(field.name, field.value)] ++ fields.map WrittenField.field).map
        Prod.fst).Nodup := by
      simpa [WrittenField.field] using nodup
    obtain ⟨behind', later⟩ :=
      ih others spaces (Nat.lt_of_succ_lt_succ enough) isLeft' nodup' behind
    refine ⟨behind', ?_⟩
    rw [List.map_cons, closed, WrittenField.chars]
    simp only [List.cons_append, List.append_assoc, quoteChars] at entry ⊢
    rw [entry, later, List.append_assoc]
    rfl

/-- The entries of an object are read behind its brace. -/
theorem readFields_listed {fuel : Nat} (enough : fields.length < fuel)
    (nodup : (fields.map WrittenField.name).Nodup) (rest : List Char) (offset : Nat) : ∃ behind,
    readFields false (readValue false (depth + 1)) fuel true []
        ⟨listed (gap ++ ['\x7d']) (fields.map WrittenField.chars) ++ rest, offset⟩ =
      .ok (fields.map WrittenField.field, ⟨rest, behind⟩) := by
  obtain ⟨fuel, rfl⟩ := Nat.exists_eq_succ_of_ne_zero (Nat.ne_of_gt (Nat.zero_lt_of_lt enough))
  cases fields with
  | nil =>
    have ends := nextEntry_closed isGap true rest offset
    refine ⟨offset + gap.length + 1, ?_⟩
    rw [readFields]
    simp only [List.map_nil, listed, List.append_assoc, List.singleton_append]
    rw [ends]
    rfl
  | cons field fields =>
    obtain ⟨first, others⟩ := List.forall_mem_cons.mp each
    obtain ⟨before, spaces⟩ := List.forall_mem_cons.mp spaced
    have ends :=
      endsNumber_closed (endsNumber_close isGap (.inr rfl)) (fields.map WrittenField.chars) rest
    have next := nextEntry_first before (field.name.toList.flatMap escapeChar ++ ['"'] ++ ':' ::
      (field.text ++ (closed (gap ++ ['\x7d']) (fields.map WrittenField.chars) ++ rest))) offset
    obtain ⟨left, behind, isLeft, entry⟩ := readFields_entry next first ends fuel []
    have nodup' : (([field.field] ++ fields.map WrittenField.field).map Prod.fst).Nodup := by
      simpa [WrittenField.field, Function.comp_def] using nodup
    obtain ⟨behind', later⟩ :=
      readFields_closed isGap others spaces
        (Nat.lt_of_succ_lt_succ enough) isLeft nodup' rest behind
    refine ⟨behind', ?_⟩
    rw [List.map_cons, listed, WrittenField.chars]
    simp only [List.cons_append, List.append_assoc, quoteChars] at entry ⊢
    exact entry.trans later

end

/-! ### All documents -/

theorem readValue_bracket (depth : Nat) (text : List Char) (offset : Nat) :
    readValue false (depth + 1 + 1) ⟨'[' :: text, offset⟩ =
      (readItems false (readValue false (depth + 1)) (text.length + 1) true ⟨text, offset + 1⟩).map
        fun (items, c) => (.arr items, c) := rfl

theorem readValue_brace (depth : Nat) (text : List Char) (offset : Nat) :
    readValue false (depth + 1 + 1) ⟨'\x7b' :: text, offset⟩ =
      (readFields false (readValue false (depth + 1)) (text.length + 1) true
        [] ⟨text, offset + 1⟩).map fun (fields, c) => (.obj fields, c) := rfl

/-- A document is read from each of its texts, if it is not too deep. -/
theorem IsTextOf.isReadFrom {json : Json} {text : List Char} (h : IsTextOf json text) {depth : Nat}
    (deep : json.depth ≤ depth) : IsReadFrom (depth + 1) json text := by
  induction h generalizing depth with
  | null => exact .named fun _ _ => rfl
  | yes => exact .named fun _ _ => rfl
  | no => exact .named fun _ _ => rfl
  | int low high => exact .int low high
  | float reads => exact .float reads
  | str s => exact .str s
  | behind isGap _ ih => exact (ih deep).behind isGap
  | @arr items gap _ isGap ih =>
    obtain ⟨depth, rfl⟩ : ∃ n, depth = n + 1 :=
      Nat.exists_eq_add_of_le' ((Nat.le_add_left 1 _).trans deep)
    have shallow := List.forall_mem_map.mp (depth_arr_le_iff.mp deep)
    intro rest offset _
    -- There are no more items than characters.
    have enough : items.length <
        (listed (gap ++ [']']) (items.map Prod.fst) ++ rest).length + 1 := by
      have fewer := length_le_listed (show gap ++ [']'] ≠ [] by simp) (items.map Prod.fst)
      rw [List.length_map] at fewer
      rw [List.length_append]
      omega
    obtain ⟨behind, read⟩ := readItems_listed isGap
      (fun item hitem => ih item hitem (shallow item hitem)) enough rest (offset + 1)
    refine ⟨[], behind, isGap_nil, ?_⟩
    rw [List.cons_append, readValue_bracket, read]
    rfl
  | @obj fields gap _ spaced nodup isGap ih =>
    obtain ⟨depth, rfl⟩ : ∃ n, depth = n + 1 :=
      Nat.exists_eq_add_of_le' ((Nat.le_add_left 1 _).trans deep)
    have shallow := List.forall_mem_map.mp (depth_obj_le_iff.mp deep)
    intro rest offset _
    have enough : fields.length <
        (listed (gap ++ ['\x7d']) (fields.map WrittenField.chars) ++ rest).length + 1 := by
      have fewer :=
        length_le_listed (show gap ++ ['\x7d'] ≠ [] by simp) (fields.map WrittenField.chars)
      rw [List.length_map] at fewer
      rw [List.length_append]
      omega
    obtain ⟨behind, read⟩ := readFields_listed isGap
      (fun field hfield => ih field hfield (shallow field hfield))
      spaced enough nodup rest (offset + 1)
    refine ⟨[], behind, isGap_nil, ?_⟩
    rw [List.cons_append, readValue_brace, read]
    rfl

/-- A document that is not too deep is what is read from each of its texts. -/
theorem IsTextOf.read {json : Json} {text : List Char} (h : IsTextOf json text)
    (deep : json.depth < depthLimit) : Json.read text = .ok json := by
  have ends : EndsNumber [] := fun _ none => by cases none
  obtain ⟨gap, behind, isGap, read⟩ := h.isReadFrom (Nat.le_of_lt_succ deep) [] 0 ends
  rw [List.append_nil, List.append_nil] at read
  have left := Cursor.skipSpace_behind isGap [] behind
  rw [List.append_nil] at left
  change (readValue false (127 + 1) ⟨text, 0⟩ >>= _) = _
  simp only [read, left, bind, Except.bind]
  rfl

end RecordFlow.Json
