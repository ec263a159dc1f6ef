import RecordFlow.Expression.Operation
import RecordFlow.Proofs.Text.Split

/-!
# Splitting, joining and replacing in fields

The list that splitting a text yields, held by any field, joins to the text again with the same
separator, also if that is empty. To join it with another text is to replace all occurrences of the
separator, and to replace the first one is to put the other text behind the first part only.

## Main definitions

* `ListOp.JoinsTo` — what texts join to, whichever field holds them

## Main results

* `TextOp.split_joins` — splitting, joining and replacing fit together
-/

namespace RecordFlow

/-- Wherever a list of some texts is held, joining it yields a text. -/
def ListOp.JoinsTo (separator : String) (parts : List String) (joined : String) : Prop :=
  ∀ (record : Record) (path : String), record.getPath? path = some (.list (parts.map .text)) →
    (join separator).evaluate path record = some (.text joined)

theorem ListOp.evaluate_eq {record : Record} {path : String} {items : List Value} (op : ListOp)
    (h : record.getPath? path = some (.list items)) : op.evaluate path record = op.apply items := by
  have found : (record.getPath? path).bind Value.asList? = some items := by
    rw [h]
    rfl
  rw [evaluate, found]

theorem ListOp.joinsTo_joinStrings (separator : String) (parts : List String) :
    JoinsTo separator parts (Text.joinStrings separator parts) := by
  intro record path holds
  have texts : (parts.map Value.text).map Value.toText = parts := by
    rw [List.map_map]
    exact List.map_id parts
  rw [evaluate_eq _ holds, apply, texts]

theorem Text.map_toList_ofList (parts : List (List Char)) :
    (parts.map String.ofList).map String.toList = parts := by
  simp [Function.comp_def]

theorem Text.joinStrings_ofList (separator : String) (parts : List (List Char)) :
    joinStrings separator (parts.map String.ofList) =
      String.ofList (joinWith separator.toList parts) := by
  rw [joinStrings, map_toList_ofList]

/-- Characters are joined with nothing in between. -/
theorem Text.joinWith_singletons (text : List Char) :
    joinWith [] (text.map fun c => [c]) = text := by
  induction text with
  | nil => rfl
  | cons c text ih =>
    cases text with
    | nil => rfl
    | cons d text => exact congrArg (c :: ·) ih

namespace TextOp

open ListOp Text

variable {record : Record} {path s t : String}

theorem evaluate_eq (op : TextOp) (h : record.getPath? path = some (.text s)) :
    op.evaluate path record = op.apply s := by
  rw [evaluate, h]
  rfl

theorem apply_split (s t : String) :
    apply s (split t) = some (.list (((TextOp.parts s t).map String.ofList).map .text)) := by
  rw [apply, List.map_map]
  rfl

theorem parts_empty (s : String) : TextOp.parts s "" = s.toList.map fun c => [c] := by
  rw [TextOp.parts, if_pos (String.isEmpty_iff.mpr rfl)]

theorem isCut_parts (ne : t ≠ "") (s : String) : IsCut t.toList s.toList (TextOp.parts s t) := by
  rw [TextOp.parts, if_neg (mt String.isEmpty_iff.mp ne)]
  exact (isCut_iff (mt String.toList_eq_nil_iff.mp ne)).mpr rfl

theorem joinsTo_parts (s t : String) : JoinsTo t ((TextOp.parts s t).map String.ofList) s := by
  have joined : joinWith t.toList (TextOp.parts s t) = s.toList := by
    by_cases empty : t = ""
    · rw [empty, parts_empty]
      exact joinWith_singletons s.toList
    · exact (isCut_parts empty s).joinWith_eq
  have joins := joinsTo_joinStrings t ((TextOp.parts s t).map String.ofList)
  rwa [joinStrings_ofList, joined, String.ofList_toList] at joins

/-- **Splitting, joining and replacing fit together.** The parts join to the text. They are its
characters for an empty separator and are cut out by the occurrences of any other one. Then what
they join to with another text is the text with all occurrences replaced, and if only the first
one is replaced, then the first part remains and, if there are others, is followed by the other
text and what these join to. -/
theorem split_joins (h : record.getPath? path = some (.text s)) (t : String) : ∃ parts :
    List String, (split t).evaluate path record = some (.list (parts.map .text)) ∧
    JoinsTo t parts s ∧ (t = "" → parts = s.toList.map String.singleton) ∧
    (t ≠ "" → IsCut t.toList s.toList (parts.map String.toList) ∧
      ∃ first rest, parts = first :: rest ∧ ∀ r : String,
        (∃ replaced, (replace t r true).evaluate path record = some (.text replaced) ∧
          JoinsTo r parts replaced) ∧
          (rest = [] → (replace t r false).evaluate path record = some (.text first)) ∧
        (rest ≠ [] → ∃ joined, JoinsTo t rest joined ∧
          (replace t r false).evaluate path record = some (.text (first ++ r ++ joined)))) := by
  refine ⟨_, (evaluate_eq (split t) h).trans (apply_split s t), joinsTo_parts s t, ?_, fun ne => ?_⟩
  · rintro rfl
    rw [parts_empty, List.map_map]
    rfl
  have ne_nil : t.toList ≠ [] := mt String.toList_eq_nil_iff.mp ne
  have cut := isCut_parts ne s
  obtain ⟨first, rest, hparts⟩ := List.exists_cons_of_ne_nil cut.ne_nil
  rw [map_toList_ofList]
  refine ⟨cut, String.ofList first, rest.map String.ofList, by rw [hparts, List.map_cons],
    fun r => ?_⟩
  have all : joinWith r.toList (TextOp.parts s t) = replaceAll t.toList r.toList s.toList := by
    rw [← (isCut_iff ne_nil).mp cut, joinWith_splitOn ne_nil]
  have one := (hparts ▸ cut).replaceFirst_eq ne_nil r.toList
  have replaceOne : (replace t r false).evaluate path record =
      some (.text (String.ofList (replaceFirst t.toList r.toList s.toList))) := evaluate_eq _ h
  refine ⟨⟨_, evaluate_eq (replace t r true) h, ?_⟩, fun alone => ?_, fun others => ?_⟩
  · have joins := joinsTo_joinStrings r ((TextOp.parts s t).map String.ofList)
    rwa [joinStrings_ofList, all] at joins
  · rw [replaceOne, one, if_pos (List.map_eq_nil_iff.mp alone)]
  · have joins := joinsTo_joinStrings t (rest.map String.ofList)
    rw [joinStrings_ofList] at joins
    refine ⟨_, joins, ?_⟩
    rw [replaceOne, one, if_neg (mt List.map_eq_nil_iff.mpr others),
      String.ofList_append, String.ofList_append, String.ofList_toList]

/-- A separator that overlaps itself is found twice in five letters. -/
theorem split_joins_overlapping :
    (split "aa").evaluate "word" [("word", .text "aaaaa")] = some
    (.list (["", "", "a"].map .text)) ∧ JoinsTo "aa" ["", "", "a"] "aaaaa" ∧
      JoinsTo "b" ["", "", "a"] "bba" ∧ ∃ joined, JoinsTo "aa" ["", "a"] joined ∧
      (replace "aa" "b" false).evaluate "word" [("word", .text "aaaaa")] =
        some (.text ("" ++ "b" ++ joined)) := by
  have holds : Record.getPath? [("word", .text "aaaaa")] "word" = some (.text "aaaaa") := rfl
  have cut : (split "aa").evaluate "word" [("word", .text "aaaaa")] =
    some (.list (["", "", "a"].map .text)) := rfl
  have all : (replace "aa" "b" true).evaluate "word" [("word", .text "aaaaa")] =
    some (.text "bba") := rfl
  obtain ⟨parts, hsplit, joins, -, notEmpty⟩ := split_joins holds "aa"
  have same : parts.map Value.text = ["", "", "a"].map .text :=
    Value.list.inj (Option.some_inj.mp (hsplit.symm.trans cut))
  obtain rfl := List.map_injective_iff.mpr (fun _ _ => Value.text.inj) same
  obtain ⟨-, first, rest, hparts, replaces⟩ := notEmpty (by decide)
  obtain ⟨rfl, rfl⟩ := List.cons.inj hparts
  obtain ⟨⟨replaced, hreplaced, replaced_joins⟩, -, one⟩ := replaces "b"
  obtain rfl := Value.text.inj (Option.some_inj.mp (hreplaced.symm.trans all))
  exact ⟨cut, joins, replaced_joins, one (List.cons_ne_nil _ _)⟩

end TextOp

end RecordFlow
