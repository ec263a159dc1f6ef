import RecordFlow.Text.Split
import Mathlib.Data.List.Infix

/-!
# Texts cut at a separator

The occurrences of a separator are found from the left and do not overlap: a text is cut at the
leftmost occurrence, and so is what follows it, until the separator does not occur any more. This
determines the parts. Joined with the separator they are the text again, and joined with another
text they are the text with all occurrences replaced. A single character does not overlap itself, so
that the parts are simply those without it.

## Main definitions

* `IsLeftmost` — an occurrence of which there is none further to the left
* `IsCut` — the parts between occurrences that follow one another from the left

## Main results

* `splitAtChar_ne_nil` — there is at least one part
* `splitAtChar_of_not_mem` — a text without the character is one part
* `exists_splitAtChar_eq_of_mem` — a text with the character has at least two parts
* `not_mem_of_mem_splitAtChar` — the parts do not have the character
* `splitAtChar_append` — what follows the last occurrence is the last part
* `isCut_iff` — every text is cut in one way, the one that `splitOn` computes
* `joinWith_splitOn` — joining the parts replaces all occurrences
* `IsCut.joinWith_eq` — the parts make up the text
* `IsCut.replaceFirst_eq` — where the first occurrence is replaced
-/

namespace RecordFlow.Text

/-! ### Single characters -/

theorem splitFrom_singleton_cons (c d : Char) (cs part : List Char) :
    splitFrom [c] (d :: cs) 0 part =
    if d = c then part.reverse :: splitOn [c] cs else splitFrom [c] cs 0 (d :: part) := by
  by_cases same : d = c <;> simp [splitFrom, splitOn, same, Ne.symm]

theorem splitFrom_append (c : Char) (cs rest part : List Char) :
    splitFrom [c] (cs ++ c :: rest) 0 part = splitFrom [c] cs 0 part ++ splitOn [c] rest := by
  induction cs generalizing part with
  | nil => rw [List.nil_append, splitFrom_singleton_cons, if_pos rfl]; rfl
  | cons d cs ih =>
    rw [List.cons_append, splitFrom_singleton_cons, splitFrom_singleton_cons]
    split
    · rw [splitOn, ih]; rfl
    · exact ih _

theorem splitFrom_of_not_mem {c : Char} {cs : List Char} (h : c ∉ cs) (part : List Char) :
    splitFrom [c] cs 0 part = [part.reverse ++ cs] := by
  induction cs generalizing part with
  | nil => simp [splitFrom]
  | cons d cs ih =>
    rw [List.mem_cons, not_or] at h
    rw [splitFrom_singleton_cons, if_neg (Ne.symm h.1), ih h.2]
    simp

theorem not_mem_of_mem_splitFrom {c : Char} {cs part found : List Char} (h : c ∉ part)
    (hfound : found ∈ splitFrom [c] cs 0 part) : c ∉ found := by
  induction cs generalizing part with
  | nil =>
    rw [splitFrom, List.mem_singleton] at hfound
    rwa [hfound, List.mem_reverse]
  | cons d cs ih =>
    rw [splitFrom_singleton_cons] at hfound
    split at hfound
    next =>
      rcases List.mem_cons.mp hfound with rfl | behind
      · rwa [List.mem_reverse]
      · exact ih List.not_mem_nil behind
    next different => exact ih (List.not_mem_cons_of_ne_of_not_mem (Ne.symm different) h) hfound

theorem splitFrom_ne_nil (separator text : List Char) (skip : Nat) (part : List Char) :
    splitFrom separator text skip part ≠ [] := by
  fun_induction splitFrom separator text skip part <;> simp_all

theorem splitAtChar_ne_nil (c : Char) (text : String) : splitAtChar c text ≠ [] :=
  mt List.map_eq_nil_iff.mp (splitFrom_ne_nil [c] text.toList 0 [])

theorem splitAtChar_of_not_mem {c : Char} {text : String} (h : c ∉ text.toList) :
    splitAtChar c text = [text] := by
  rw [splitAtChar, splitOn, splitFrom_of_not_mem h]
  simp

/-- A text with the character has at least two parts. -/
theorem exists_splitAtChar_eq_of_mem {c : Char} {text : String} (h : c ∈ text.toList) :
    ∃ first second rest, splitAtChar c text = first :: second :: rest := by
  obtain ⟨front, back, parts⟩ := List.append_of_mem h
  obtain ⟨first, others, hfront⟩ := List.exists_cons_of_ne_nil (splitFrom_ne_nil [c] front 0 [])
  obtain ⟨second, rest, hback⟩ := List.exists_cons_of_ne_nil (splitFrom_ne_nil [c] back 0 [])
  rw [splitAtChar, parts, splitOn, splitFrom_append, splitOn, hfront, hback]
  cases others <;> simp

/-- The parts do not have the character. -/
theorem not_mem_of_mem_splitAtChar {c : Char} {text part : String} (h : part ∈ splitAtChar c text) :
    c ∉ part.toList := by
  obtain ⟨found, hfound, rfl⟩ := List.mem_map.mp h
  rw [String.toList_ofList]
  exact not_mem_of_mem_splitFrom List.not_mem_nil hfound

theorem splitAtChar_append {c : Char} {name : String} (h : c ∉ name.toList) (text : String) :
    splitAtChar c (text ++ String.singleton c ++ name) = splitAtChar c text ++ [name] := by
  have parts : (text ++ String.singleton c ++ name).toList =
    text.toList ++ c :: name.toList := by simp
  rw [splitAtChar, parts, splitOn, splitFrom_append, splitOn, splitFrom_of_not_mem h,
    List.map_append, splitAtChar, splitOn]
  simp

variable {separator text front back : List Char} {c : Char} {parts : List (List Char)}

/-! ### The leftmost occurrence -/

/-- No occurrence of a separator between two texts is further to the
left than the one between them. -/
def IsLeftmost (separator front back : List Char) : Prop :=
  ∀ before after, before ++ separator ++ after = front ++ separator ++ back →
    front.length ≤ before.length

theorem IsLeftmost.not_isPrefixOf (h : IsLeftmost separator (c :: front) back) :
    ¬separator.isPrefixOf (c :: (front ++ separator ++ back)) = true := by
  rw [List.isPrefixOf_iff_prefix]
  rintro ⟨after, same⟩
  exact absurd (h [] after same) (by simp)

theorem IsLeftmost.tail (h : IsLeftmost separator (c :: front) back) :
    IsLeftmost separator front back := by
  intro before after same
  exact Nat.le_of_succ_le_succ (h (c :: before) after (congrArg (c :: ·) same))

theorem IsLeftmost.cons (h : IsLeftmost separator front back)
    (notHere : ¬separator <+: c :: (front ++ separator ++ back)) :
    IsLeftmost separator (c :: front) back := by
  intro before after same
  cases before with
  | nil => exact absurd ⟨after, same⟩ notHere
  | cons d before => exact Nat.succ_le_succ (h before after (List.cons.inj same).2)

/-- A separator that occurs has a leftmost occurrence. -/
theorem exists_isLeftmost (h : separator <:+: text) :
    ∃ front back, text = front ++ separator ++ back ∧ IsLeftmost separator front back := by
  induction text with
  | nil =>
    obtain rfl := List.infix_nil.mp h
    exact ⟨[], [], rfl, fun _ _ _ => Nat.zero_le _⟩
  | cons c text ih =>
    by_cases here : separator <+: c :: text
    · obtain ⟨back, same⟩ := here
      exact ⟨[], back, same.symm, fun _ _ _ => Nat.zero_le _⟩
    · obtain ⟨front, back, rfl, leftmost⟩ := ih ((List.infix_cons_iff.mp h).resolve_left here)
      exact ⟨c :: front, back, rfl, leftmost.cons here⟩

/-! ### The parts of a text -/

/-- The parts of a text between the occurrences of a separator, each of which is the leftmost
one behind the one before it. -/
inductive IsCut (separator : List Char) : List Char → List (List Char) → Prop
  | last {text : List Char} : ¬separator <:+: text → IsCut separator text [text]
  | cons {front back : List Char} {parts : List (List Char)} : IsLeftmost separator front back →
      IsCut separator back parts → IsCut separator (front ++ separator ++ back) (front :: parts)

namespace IsCut

theorem ne_nil (h : IsCut separator text parts) : parts ≠ [] := by
  cases h <;> exact List.cons_ne_nil _ _

end IsCut

/-- Every text can be cut. -/
theorem exists_isCut (ne : separator ≠ []) (text : List Char) :
    ∃ parts, IsCut separator text parts := by
  by_cases occurs : separator <:+: text
  · obtain ⟨front, back, rfl, leftmost⟩ := exists_isLeftmost occurs
    have shorter : back.length < (front ++ separator ++ back).length := by
      have := List.length_pos_iff.mpr ne
      simp only [List.length_append]
      omega
    obtain ⟨parts, behind⟩ := exists_isCut ne back
    exact ⟨front :: parts, .cons leftmost behind⟩
  · exact ⟨[text], .last occurs⟩
termination_by text.length

theorem splitFrom_skip (separator taken back part : List Char) :
    splitFrom separator (taken ++ back) taken.length part = splitFrom separator back 0 part := by
  induction taken with
  | nil => rfl
  | cons c taken ih => exact ih

/-- A text is cut at the leftmost occurrence. -/
theorem splitFrom_of_isLeftmost (ne : separator ≠ []) (h : IsLeftmost separator front back)
    (part : List Char) :
    splitFrom separator (front ++ separator ++ back) 0 part =
      (part.reverse ++ front) :: splitOn separator back := by
  induction front generalizing part with
  | nil =>
    -- The rest of the occurrence is skipped.
    obtain ⟨c, rest, rfl⟩ := List.exists_cons_of_ne_nil ne
    have here : (c :: rest).isPrefixOf (c :: (rest ++ back)) = true := by simp
    simp only [List.nil_append, List.cons_append, splitFrom, here, if_true,
      List.append_nil, List.length_cons, Nat.add_sub_cancel, splitFrom_skip, splitOn]
  | cons c front ih =>
    rw [List.cons_append, List.cons_append, splitFrom, if_neg h.not_isPrefixOf, ih h.tail]
    simp

theorem splitFrom_of_not_infix (h : ¬separator <:+: text) (part : List Char) :
    splitFrom separator text 0 part = [part.reverse ++ text] := by
  induction text generalizing part with
  | nil => simp [splitFrom]
  | cons c text ih =>
    rw [List.infix_cons_iff, not_or, ← List.isPrefixOf_iff_prefix] at h
    rw [splitFrom, if_neg h.1, ih h.2]
    simp

/-- **Every text is cut in one way**, the one that `splitOn` computes. -/
theorem isCut_iff (ne : separator ≠ []) :
    IsCut separator text parts ↔ splitOn separator text = parts := by
  have unique {parts : List (List Char)} (h : IsCut separator text parts) :
      splitOn separator text = parts := by
    induction h with
    | last never => exact splitFrom_of_not_infix never []
    | cons leftmost _ ih =>
      rw [splitOn, splitFrom_of_isLeftmost ne leftmost, ih, List.reverse_nil, List.nil_append]
  refine ⟨unique, ?_⟩
  rintro rfl
  obtain ⟨parts, h⟩ := exists_isCut ne text
  rwa [unique h]

/-! ### Joining and replacing -/

theorem joinWith_cons (separator part : List Char) (h : parts ≠ []) :
    joinWith separator (part :: parts) = part ++ separator ++ joinWith separator parts := by
  obtain ⟨second, rest, rfl⟩ := List.exists_cons_of_ne_nil h
  rfl

theorem joinWith_splitFrom (separator replacement text : List Char) (skip : ℕ) (part : List Char) :
    joinWith replacement (splitFrom separator text skip part) =
      part.reverse ++ replaceFrom separator replacement text skip := by
  fun_induction splitFrom separator text skip part with
  | case1 => simp [joinWith, replaceFrom]
  | case2 c text skip part ih => rw [ih, replaceFrom]
  | case3 c text part here ih =>
    rw [joinWith_cons _ _ (splitFrom_ne_nil _ _ _ _), ih, replaceFrom, if_pos here]
    simp
  | case4 c text part notHere ih =>
    rw [ih, replaceFrom, if_neg notHere]
    simp

/-- Joining the parts replaces all occurrences. -/
theorem joinWith_splitOn (ne : separator ≠ []) (replacement text : List Char) :
    joinWith replacement (splitOn separator text) = replaceAll separator replacement text := by
  rw [splitOn, joinWith_splitFrom, replaceAll, if_neg (by simpa using ne)]
  rfl

theorem replaceFirst_of_isLeftmost (ne : separator ≠ []) (h : IsLeftmost separator front back)
    (replacement : List Char) :
    replaceFirst separator replacement (front ++ separator ++ back) =
      front ++ replacement ++ back := by
  induction front with
  | nil =>
    obtain ⟨c, rest, rfl⟩ := List.exists_cons_of_ne_nil ne
    have here : (c :: rest).isPrefixOf (c :: (rest ++ back)) = true := by simp
    simp only [List.nil_append, List.cons_append, replaceFirst, here, if_true,
      List.length_cons, List.drop_succ_cons, List.drop_left]
  | cons c front ih =>
    rw [List.cons_append, List.cons_append, replaceFirst, if_neg h.not_isPrefixOf, ih h.tail]
    simp

theorem replaceFirst_of_not_infix (h : ¬separator <:+: text) (replacement : List Char) :
    replaceFirst separator replacement text = text := by
  induction text with
  | nil => rw [replaceFirst, if_neg (by simpa using h)]
  | cons c text ih =>
    rw [List.infix_cons_iff, not_or, ← List.isPrefixOf_iff_prefix] at h
    rw [replaceFirst, if_neg h.1, ih h.2]

namespace IsCut

/-- The parts make up the text. -/
theorem joinWith_eq (h : IsCut separator text parts) : joinWith separator parts = text := by
  induction h with
  | last => rfl
  | cons _ behind ih => rw [joinWith_cons _ _ behind.ne_nil, ih]

/-- The first occurrence is replaced behind the first part. -/
theorem replaceFirst_eq (ne : separator ≠ []) {first : List Char} {rest : List (List Char)}
    (h : IsCut separator text (first :: rest)) (replacement : List Char) :
    replaceFirst separator replacement text =
      if rest = [] then first else first ++ replacement ++ joinWith separator rest := by
  cases h with
  | last never => rw [if_pos rfl, replaceFirst_of_not_infix never]
  | cons leftmost behind =>
    rw [if_neg behind.ne_nil, replaceFirst_of_isLeftmost ne leftmost, behind.joinWith_eq]

end IsCut

end RecordFlow.Text
