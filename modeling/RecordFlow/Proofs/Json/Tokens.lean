import RecordFlow.Json.Printer
import RecordFlow.Json.Reader
import RecordFlow.Proofs.Calendar.Rereading
import Mathlib.Data.List.TakeWhile

/-!
# Names, numbers and strings in documents

A document that is neither an array nor an object is written as one piece. It is read again whatever
text follows, but for a number, which must not go on in what follows.

## Main definitions

* `Json.EndsNumber` — a number does not go on in a text
* `Json.Cursor.inside` — a place in a text, seen in a longer one
* `Json.readPower`, `Json.readFraction`, `Json.readBehind` — the parts of a
  number, each behind the one before

## Main results

* `Json.readString_quoted` — a string is read behind its opening quote
* `Json.readNumber_inside` — a number is read in front of other text
* `Json.readNumber_toDigits` — an integer is read from its digits
-/

namespace RecordFlow.Json

/-! ### Names -/

/-- A name is read behind its first letter. -/
theorem readIdent_append (name rest : List Char) (offset : Nat) :
    readIdent false name ⟨name ++ rest, offset⟩ = .ok ⟨rest, offset + name.length⟩ := by
  induction name generalizing offset with
  | nil => rfl
  | cons letter name ih =>
    rw [readIdent]
    simp only [List.cons_append, if_true, Cursor.skipOne, List.drop_one, List.tail_cons, ih,
      List.length_cons, Nat.add_assoc, Nat.add_comm 1]

/-! ### Strings -/

theorem natInBase?_codeDigits {n : Nat} (h : n < 32) :
    Text.natInBase? 16 ['0', '0', Text.hexDigit (n / 16), Text.hexDigit (n % 16)] = some n ∧
      Text.byteCount ['0', '0', Text.hexDigit (n / 16), Text.hexDigit (n % 16)] = 4 := by
  revert n
  decide

/-- A control character is read from its code. -/
theorem readEscape_code {c : Char} (h : c.toNat < 32) (rest : List Char) (offset : Nat) :
    readEscape false ('u' :: '0' :: '0' :: Text.hexDigit (c.toNat / 16) ::
      Text.hexDigit (c.toNat % 16) :: rest) offset = .ok (c, 5) := by
  obtain ⟨code, size⟩ := natInBase?_codeDigits h
  simp only [readEscape, readHex, List.take_succ_cons, List.take_zero, code,
    size, Nat.lt_irrefl, if_false, bind, Except.bind]
  rw [if_neg (by omega), if_neg (by omega), Char.ofNat_toNat]

theorem eq_ofNat_of_toNat {c : Char} {n : Nat} (h : c.toNat = n) : c = Char.ofNat n := by
  rw [← h, Char.ofNat_toNat]

/-- A character is read from its escaped form. -/
theorem readString_escapeChar (c : Char) (rest : List Char) (offset : Nat) (read : List Char) :
    ∃ behind, readString false (escapeChar c ++ rest) offset 0 read =
      readString false rest behind 0 (c :: read) := by
  unfold escapeChar
  split
  next h =>
    subst h
    exact ⟨_, rfl⟩
  split
  next h =>
    subst h
    exact ⟨_, rfl⟩
  -- The other characters with a short escape are told by their codes.
  split
  next h => exact eq_ofNat_of_toNat h ▸ ⟨_, rfl⟩
  split
  next h => exact eq_ofNat_of_toNat h ▸ ⟨_, rfl⟩
  split
  next h => exact eq_ofNat_of_toNat h ▸ ⟨_, rfl⟩
  split
  next h => exact eq_ofNat_of_toNat h ▸ ⟨_, rfl⟩
  split
  next h => exact eq_ofNat_of_toNat h ▸ ⟨_, rfl⟩
  split
  next h =>
    refine ⟨offset + 6, ?_⟩
    simp only [List.cons_append, List.nil_append, readString, readEscape_code h]
    rfl
  next quote backslash _ _ _ _ _ h =>
    refine ⟨offset + c.utf8Size, ?_⟩
    rw [List.singleton_append, readString, if_neg quote, if_neg backslash, if_neg h]

/-- A string is read behind its opening quote. -/
theorem readString_quoted (cs rest : List Char) (offset : Nat) (read : List Char) :
    ∃ behind, readString false (cs.flatMap escapeChar ++ '"' :: rest) offset 0 read =
      .ok (String.ofList (read.reverse ++ cs), ⟨rest, behind⟩) := by
  induction cs generalizing offset read with
  | nil =>
    refine ⟨offset + 1, ?_⟩
    rw [List.flatMap_nil, List.nil_append, readString, if_pos rfl, List.append_nil]
  | cons c cs ih =>
    obtain ⟨between, first⟩ :=
      readString_escapeChar c (cs.flatMap escapeChar ++ '"' :: rest) offset read
    obtain ⟨behind, others⟩ := ih between (c :: read)
    refine ⟨behind, ?_⟩
    rw [List.flatMap_cons, List.append_assoc, first, others, List.reverse_cons, List.append_assoc,
      List.singleton_append]

/-! ### The parts of a number -/

/-- The rest of a number after the letter and the sign of its exponent. -/
def readPower (stray negative minus : Bool) (n : Nat) (e : Int) (c : Cursor) :
    Except Fault (Number × Cursor) :=
  let digits := c.rest.takeWhile Char.isDigit
  if digits.isEmpty then
    if c.rest.isEmpty && !stray then .error (c.fault .endInValue)
    else .error (c.skipOne.fault .invalidNumber)
  else
    let behind : Cursor := ⟨c.rest.drop digits.length, c.offset + digits.length⟩
    match exponentLimit 0 digits with
    | some taken =>
      if n ≠ 0 ∧ !minus then .error { error := .numberOutOfRange, offset := c.offset + taken }
      else .ok (.float (if negative then -0.0 else 0.0), behind)
    | none =>
      let power : Int := Text.digitsValue digits
      floatAt stray negative n (if minus then e - power else e + power) behind

theorem readExponentAt_eq (stray negative : Bool) (n : Nat) (e : Int) (c : Cursor) :
    readExponentAt stray negative n e c =
      if c.rest.head? = some '-' then readPower stray negative true n e c.skipOne
      else readPower stray negative false n e
        (if c.rest.head? = some '+' then c.skipOne else c) := by
  obtain ⟨text, offset⟩ := c
  cases text with
  | nil => rfl
  | cons sign text =>
    by_cases minus : sign = '-'
    · subst minus
      rfl
    by_cases plus : sign = '+'
    · subst plus
      rfl
    · simp only [List.head?_cons, Option.some.injEq, minus, plus, if_false]
      rw [readExponentAt]
      split
      next signed =>
        split at signed
        next same => exact absurd (List.cons.inj same).1 minus
        next same => exact absurd (List.cons.inj same).1 plus
        next =>
          cases signed
          rfl

theorem head?_ne_of_forall {text : List Char} {d : Char}
    (h : ∀ others, text = d :: others → False) : text.head? ≠ some d := by
  intro first
  obtain ⟨others, same⟩ := List.head?_eq_some_iff.mp first
  exact h others same

theorem readTail_eq (stray negative : Bool) (n : Nat) (e : Int) (c : Cursor) :
    readTail stray negative n e c =
      if c.rest.head? = some 'e' ∨
        c.rest.head? = some 'E' then readExponentAt stray negative n e c.skipOne
      else floatAt stray negative n e c := by
  obtain ⟨text, offset⟩ := c
  rw [readTail]
  split
  next same => rw [if_pos (.inl (congrArg List.head? same))]
  next same => rw [if_pos (.inr (congrArg List.head? same))]
  next lower upper => rw [if_neg (not_or.mpr ⟨head?_ne_of_forall lower, head?_ne_of_forall upper⟩)]

/-- The rest of a number behind the point, that follows the digits of `n`. -/
def readFraction (stray negative : Bool) (n dropped : Nat) (c : Cursor) :
    Except Fault (Number × Cursor) :=
  let fraction := c.rest.takeWhile Char.isDigit
  if fraction.isEmpty then
    .error (c.faultAhead stray (if c.rest.isEmpty && !stray then .endInValue else .invalidNumber))
  else
    readTail stray negative (appendDigits n fraction).1 (dropped - (appendDigits n fraction).2)
      ⟨c.rest.drop fraction.length, c.offset + fraction.length⟩

/-- A number without a point and an exponent. -/
def wholeNumber (negative : Bool) (n : Nat) : Number :=
  if !negative then .int n else if n = 0 ∨
    Nat.pow 2 63 < n then .float (-(floatOfInt n)) else .int (-n)

/-- The rest of a number behind its digits before the point. -/
def readBehind (stray negative : Bool) (n dropped : Nat) (c : Cursor) :
    Except Fault (Number × Cursor) :=
  if c.rest.head? = some '.' then readFraction stray negative n dropped c.skipOne
  else if c.rest.head? = some 'e' ∨ c.rest.head? = some 'E' then readTail stray negative n dropped c
  else if dropped ≠ 0 then floatAt stray negative n dropped c
  else .ok (wholeNumber negative n, c)

theorem readNumber_eq (stray negative : Bool) (c : Cursor) :
    readNumber stray negative c =
      let whole := c.rest.takeWhile Char.isDigit
      if whole.isEmpty then
        if c.rest.isEmpty && !stray then .error (c.fault .endInValue)
        else .error (c.skipOne.fault .invalidNumber)
      else if whole.head? = some '0' ∧ 1 < whole.length then
        .error { error := .invalidNumber, offset := c.offset + 2 }
      else
        readBehind stray negative (appendDigits 0 whole).1 (whole.length - (appendDigits 0 whole).2)
          ⟨c.rest.drop whole.length, c.offset + whole.length⟩ := by
  rw [readNumber]
  generalize c.rest.takeWhile Char.isDigit = whole
  split
  next => rfl
  next => rfl
  next some single =>
    have notEmpty : ¬ whole.isEmpty := by simpa using some
    have notPadded : ¬ (whole.head? = Option.some '0' ∧ 1 < whole.length) := by
      rintro ⟨first, long⟩
      obtain ⟨others, rfl⟩ := List.head?_eq_some_iff.mp first
      obtain ⟨second, others, rfl⟩ := List.exists_cons_of_length_pos (Nat.lt_of_succ_lt_succ long)
      exact single second others rfl
    simp only [if_neg notEmpty, if_neg notPadded]
    rw [readBehind]
    generalize c.rest.drop whole.length = left
    generalize c.offset + whole.length = offset
    split
    next => rfl
    next => rfl
    next => rfl
    next point lower upper =>
      rw [if_neg (head?_ne_of_forall point),
        if_neg (not_or.mpr ⟨head?_ne_of_forall lower, head?_ne_of_forall upper⟩), wholeNumber]
      simp only [apply_ite
        (fun number => (Except.ok (number, (⟨left, offset⟩ : Cursor)) : Except Fault _))]

/-! ### Numbers in front of other text -/

/-- A number does not go on in a text. -/
def EndsNumber (rest : List Char) : Prop :=
  ∀ c ∈ rest.head?, c.isDigit = false ∧ c ≠ '.' ∧ c ≠ 'e' ∧ c ≠ 'E'

/-- A cursor of a text inside of a longer one, with a number of bytes ahead of
the text and a rest behind. -/
def Cursor.inside (c : Cursor) (ahead : Nat) (rest : List Char) : Cursor :=
  ⟨c.rest ++ rest, ahead + c.offset⟩

section

variable {rest : List Char} {ahead : Nat} {negative : Bool} {n : Nat} {e : Int}
    {c c' : Cursor} {number : Number}

theorem Cursor.skipOne_inside {letter : Char} (h : c.rest.head? = some letter) :
    (c.inside ahead rest).skipOne = c.skipOne.inside ahead rest := by
  obtain ⟨others, same⟩ := List.head?_eq_some_iff.mp h
  simp [Cursor.inside, Cursor.skipOne, same, Nat.add_assoc]

theorem drop_takeWhile_append (p : Char → Bool) (text : List Char) :
    (text ++ rest).drop (text.takeWhile p).length = text.drop (text.takeWhile p).length ++ rest :=
  List.drop_append_of_le_length (List.takeWhile_prefix p).length_le

theorem floatAt_inside (h : floatAt false negative n e c = .ok (number, c')) :
    floatAt false negative n e (c.inside ahead rest) = .ok (number, c'.inside ahead rest) := by
  rw [floatAt] at h ⊢
  cases scaled : scaleByTen? (floatOfInt n) e with
  | none =>
    rw [scaled] at h
    cases h
  | some f =>
    rw [scaled] at h
    cases h
    rfl

variable (ends : EndsNumber rest)

include ends

theorem EndsNumber.takeWhile_append (text : List Char) :
    (text ++ rest).takeWhile Char.isDigit = text.takeWhile Char.isDigit := by
  induction text with
  | nil =>
    cases rest with
    | nil => rfl
    | cons c rest =>
      rw [List.nil_append, List.takeWhile_cons, (ends c rfl).1]
      rfl
  | cons c text ih => rw [List.cons_append, List.takeWhile_cons, List.takeWhile_cons, ih]

/-- The characters that a number goes on with are its own. -/
theorem EndsNumber.head?_inside_iff {letter : Char} (h : letter = '.' ∨ letter = 'e' ∨ letter = 'E')
    (c : Cursor) : (c.inside ahead rest).rest.head? = some letter ↔ c.rest.head? = some letter := by
  obtain ⟨text, offset⟩ := c
  cases text with
  | cons d text => rfl
  | nil =>
    refine ⟨fun first => ?_, fun none => by cases none⟩
    obtain ⟨_, point, lower, upper⟩ := ends letter first
    exact (h.elim point fun h => h.elim lower upper).elim

theorem readPower_inside {minus : Bool}
    (h : readPower false negative minus n e c = .ok (number, c')) :
    readPower false negative minus n e (c.inside ahead rest) =
      .ok (number, c'.inside ahead rest) := by
  rw [readPower] at h ⊢
  simp only [Cursor.inside, ends.takeWhile_append, drop_takeWhile_append, Nat.add_assoc] at h ⊢
  split at h
  next =>
    split at h <;> cases h
  next some =>
    rw [if_neg some]
    cases limit : exponentLimit 0 (c.rest.takeWhile Char.isDigit) with
    | none =>
      rw [limit] at h
      exact floatAt_inside h
    | some taken =>
      simp only [limit] at h ⊢
      split at h
      next => cases h
      next zero =>
        cases h
        rw [if_neg zero]

theorem readExponentAt_inside (h : readExponentAt false negative n e c = .ok (number, c')) :
    readExponentAt false negative n e (c.inside ahead rest) =
      .ok (number, c'.inside ahead rest) := by
  rw [readExponentAt_eq] at h ⊢
  obtain ⟨text, offset⟩ := c
  cases text with
  | nil => cases h
  | cons sign text =>
    simp only [Cursor.inside, List.cons_append, List.head?_cons, Option.some.injEq] at h ⊢
    split at h
    next minus =>
      rw [if_pos minus]
      exact readPower_inside ends h
    next notMinus =>
      rw [if_neg notMinus]
      split at h
      next plus =>
        rw [if_pos plus]
        exact readPower_inside ends h
      next notPlus =>
        rw [if_neg notPlus]
        exact readPower_inside ends h

theorem readTail_inside (h : readTail false negative n e c = .ok (number, c')) :
    readTail false negative n e (c.inside ahead rest) = .ok (number, c'.inside ahead rest) := by
  rw [readTail_eq] at h ⊢
  simp only [ends.head?_inside_iff (.inr (.inl rfl)), ends.head?_inside_iff (.inr (.inr rfl))]
  split at h
  next letter =>
    have first : (c.inside ahead rest).skipOne = c.skipOne.inside ahead rest :=
      letter.elim Cursor.skipOne_inside Cursor.skipOne_inside
    rw [if_pos letter, first]
    exact readExponentAt_inside ends h
  next other =>
    rw [if_neg other]
    exact floatAt_inside h

theorem readFraction_inside {dropped : Nat}
    (h : readFraction false negative n dropped c = .ok (number, c')) :
    readFraction false negative n dropped (c.inside ahead rest) =
      .ok (number, c'.inside ahead rest) := by
  rw [readFraction] at h ⊢
  simp only [Cursor.inside, ends.takeWhile_append, drop_takeWhile_append, Nat.add_assoc] at h ⊢
  split at h
  next => cases h
  next some =>
    rw [if_neg some]
    exact readTail_inside ends h

theorem readBehind_inside {dropped : Nat}
    (h : readBehind false negative n dropped c = .ok (number, c')) :
    readBehind false negative n dropped (c.inside ahead rest) =
      .ok (number, c'.inside ahead rest) := by
  rw [readBehind] at h ⊢
  simp only [ends.head?_inside_iff (.inl rfl), ends.head?_inside_iff (.inr (.inl rfl)),
    ends.head?_inside_iff (.inr (.inr rfl))]
  split at h
  next point =>
    rw [if_pos point, Cursor.skipOne_inside point]
    exact readFraction_inside ends h
  next noPoint =>
    rw [if_neg noPoint]
    split at h
    next letter =>
      rw [if_pos letter]
      exact readTail_inside ends h
    next noLetter =>
      rw [if_neg noLetter]
      split at h
      next long =>
        rw [if_pos long]
        exact floatAt_inside h
      next short =>
        rw [if_neg short]
        cases h
        rfl

/-- A number is read in front of a text that it does not go on in. -/
theorem readNumber_inside (h : readNumber false negative c = .ok (number, c')) :
    readNumber false negative (c.inside ahead rest) = .ok (number, c'.inside ahead rest) := by
  rw [readNumber_eq] at h ⊢
  simp only [Cursor.inside, ends.takeWhile_append, drop_takeWhile_append, Nat.add_assoc] at h ⊢
  split at h
  next => split at h <;> cases h
  next some =>
    rw [if_neg some]
    split at h
    next => cases h
    next single =>
      rw [if_neg single]
      exact readBehind_inside ends h

end

/-! ### Integers -/

/-- Digits are appended as long as the number stays below `2 ^ 64`. -/
theorem appendDigits_of_lt {digits : List Char} {n : Nat}
    (h : Nat.ofDigitChars 10 digits n < 2 ^ 64) :
    appendDigits n digits = (Nat.ofDigitChars 10 digits n, digits.length) := by
  induction digits generalizing n with
  | nil => rfl
  | cons c digits ih =>
    rw [Nat.ofDigitChars_cons] at h ⊢
    have next : n * 10 + Text.decimalValue c = 10 * n + (c.toNat - '0'.toNat) := by
      rw [Text.decimalValue, Nat.mul_comm]
    -- What is appended later makes the number no smaller.
    have small : 10 * n + (c.toNat - '0'.toNat) < Nat.pow 2 64 := by
      refine Nat.lt_of_le_of_lt ?_ h
      rw [Nat.ofDigitChars_eq_ofDigitChars_zero]
      exact Nat.le_add_right_of_le (Nat.le_mul_of_pos_left _ (Nat.pow_pos (by decide)))
    simp only [appendDigits, next, if_pos small, ih h, List.length_cons]

theorem head?_toDigits_ne_zero {n : Nat} (pos : 0 < n) : (Nat.toDigits 10 n).head? ≠ some '0' := by
  induction n using Nat.strongRecOn with
  | ind n ih =>
    rw [Nat.toDigits_eq_if (by decide)]
    split
    next small =>
      have none : ∀ m < 10, 0 < m → [m.digitChar].head? ≠ some '0' := by decide
      exact none n small pos
    next large =>
      have smaller : 0 < n / 10 := by omega
      rw [List.head?_append, Option.or_of_isSome (List.isSome_head?.mpr Nat.toDigits_ne_nil)]
      exact ih (n / 10) (by omega) smaller

/-- An integer is read from its digits. -/
theorem readNumber_toDigits {rest : List Char} (ends : EndsNumber rest) (negative : Bool) {n : Nat}
    (h : n < 2 ^ 64) (offset : Nat) : ∃ behind,
    readNumber false negative ⟨Nat.toDigits 10 n ++ rest, offset⟩ =
      .ok (wholeNumber negative n, ⟨rest, behind⟩) := by
  have areDigits : (Nat.toDigits 10 n).takeWhile Char.isDigit = Nat.toDigits 10 n :=
    List.takeWhile_eq_self_iff.mpr fun c hc =>
      Nat.isDigit_of_mem_toDigits (by decide) (by decide) hc
  have appended : appendDigits 0 (Nat.toDigits 10 n) = (n, (Nat.toDigits 10 n).length) := by
    rw [appendDigits_of_lt (by rwa [Nat.ofDigitChars_ten_toDigits]), Nat.ofDigitChars_ten_toDigits]
  have notPadded : ¬ ((Nat.toDigits 10 n).head? = some '0' ∧ 1 < (Nat.toDigits 10 n).length) := by
    rintro ⟨first, long⟩
    obtain rfl : n = 0 := Nat.eq_zero_of_not_pos fun pos => head?_toDigits_ne_zero pos first
    exact absurd long (by decide)
  have alone : readNumber false negative ⟨Nat.toDigits 10 n, 0⟩ =
      .ok (wholeNumber negative n, ⟨[], 0 + (Nat.toDigits 10 n).length⟩) := by
    rw [readNumber_eq]
    simp only [areDigits, List.isEmpty_iff, Nat.toDigits_ne_nil, if_false,
      if_neg notPadded, appended, List.drop_length, Nat.sub_self]
    rfl
  -- What is read alone is read in the same way in front of the rest.
  exact ⟨_, readNumber_inside ends alone⟩

theorem toList_toString_natCast (n : Nat) : (toString (n : Int)).toList = Nat.toDigits 10 n := by
  rw [show toString (n : Int) = toString n from rfl, Nat.toString_eq_ofList_toDigits,
    String.toList_ofList]

theorem toList_toString_negSucc (n : Nat) :
    (toString (Int.negSucc n)).toList = '-' :: Nat.toDigits 10 (n + 1) := by
  rw [show toString (Int.negSucc n) = "-" ++ toString (n + 1) from rfl, String.toList_append,
    Nat.toString_eq_ofList_toDigits, String.toList_ofList,
    String.toList_ofList, List.singleton_append]

end RecordFlow.Json
