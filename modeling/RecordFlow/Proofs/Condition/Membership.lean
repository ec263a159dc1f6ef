import RecordFlow.Condition.Basic
import RecordFlow.Proofs.Value.Equality
import RecordFlow.Proofs.Value.Path

/-!
# Membership in conditions

To be among the items of a list is to equal one of them, and not to be among them is to differ
from all. Equality takes an absent field as null, and so does the exclusion from a list; but
what is absent is never among the items. If null is an item, then an absent field is neither
among the items nor not among them.

## Main definitions

* `Record.Meets` — a field compares with a value as it should
* `Record.IsMissed` — a field is absent, and the list has null for it

## Main results

* `Record.meets_membership` — membership as equality with the items, and where the two differ
* `Record.meets_neither_membership` — a field that is neither among the
  items of a list nor not among them
-/

namespace RecordFlow

namespace Record

variable {record : Record} {field : String} {wanted : Value} {items : List Value}

/-- A record meets the condition that a field compares with a value in some way. -/
def Meets (record : Record) (field : String) (comparison : Comparison) (wanted : Value) : Prop :=
  (Condition.mk field comparison (some wanted)).holds record = true

instance (comparison : Comparison) : Decidable (record.Meets field comparison wanted) :=
  inferInstanceAs (Decidable (_ = true))

/-- A field is absent, which equals null, and null is an item of the list. -/
def IsMissed (record : Record) (field : String) (items : List Value) : Prop :=
  record.getPath? field = none ∧ Value.null ∈ items

/-! ### The comparisons -/

theorem meets_eq_iff :
    record.Meets field .eq wanted ↔ ((record.getPath? field).getD .null == wanted) = true := Iff.rfl

theorem meets_ne_iff : record.Meets field .ne wanted ↔ ¬record.Meets field .eq wanted := by
  change (!((record.getPath? field).getD .null == wanted)) = true ↔ _
  rw [Bool.not_eq_true', meets_eq_iff, Bool.not_eq_true]

theorem meets_among_iff : record.Meets field .among (.list items) ↔
    ∃ value, record.getPath? field = some value ∧ ∃ item ∈ items, (item == value) = true := by
  rw [Meets, Condition.holds, Comparison.test.eq_def]
  cases record.getPath? field with
  | none => simp
  | some value => simp [Value.isAmong]

theorem meets_notAmong_iff : record.Meets field .notAmong (.list items) ↔
    ∀ item ∈ items, ¬(item == (record.getPath? field).getD .null) = true := by
  change (!(items.any (· == (record.getPath? field).getD .null))) = true ↔ _
  rw [Bool.not_eq_true', List.any_eq_false]

/-! ### Membership as equality -/

section

variable (distinct : (Value.object record).HasDistinctNames)
    (distinctItems : (Value.list items).HasDistinctNames)

include distinct in
/-- What equality takes for the value of a field has no name twice. -/
theorem hasDistinctNames_getD (field : String) :
    ((record.getPath? field).getD .null).HasDistinctNames := by
  cases found : record.getPath? field with
  | none => exact .null
  | some value => exact hasDistinctNames_of_getPath? distinct found

include distinct distinctItems

/-- Membership compares in the other direction than equality does. -/
theorem same_iff_meets_eq {item : Value} (hitem : item ∈ items) :
    (item == (record.getPath? field).getD .null) = true ↔ record.Meets field .eq item := by
  have hfield := hasDistinctNames_getD distinct field
  have hvalue := Value.hasDistinctNames_list_iff.mp distinctItems item hitem
  exact ⟨Value.same_symm hvalue hfield, Value.same_symm hfield hvalue⟩

theorem meets_notAmong_iff_forall_ne : record.Meets field .notAmong (.list items) ↔
    ∀ item ∈ items, record.Meets field .ne item := by
  rw [meets_notAmong_iff]
  refine forall₂_congr fun item hitem => ?_
  rw [same_iff_meets_eq distinct distinctItems hitem, meets_ne_iff]

theorem meets_among_iff_exists_eq : record.Meets field .among (.list items) ↔
    record.getPath? field ≠ none ∧ ∃ item ∈ items, record.Meets field .eq item := by
  rw [meets_among_iff]
  constructor
  · rintro ⟨value, found, item, hitem, same⟩
    refine ⟨by simp [found], item, hitem, (same_iff_meets_eq distinct distinctItems hitem).mp ?_⟩
    rwa [found]
  · rintro ⟨there, item, hitem, meets⟩
    obtain ⟨value, found⟩ := Option.ne_none_iff_exists'.mp there
    refine ⟨value, found, item, hitem, ?_⟩
    simpa [found] using (same_iff_meets_eq distinct distinctItems hitem).mpr meets

omit distinct distinctItems in
/-- An absent field equals an item only if that is null. -/
theorem isMissed_iff : record.IsMissed field items ↔
    record.getPath? field = none ∧ ∃ item ∈ items, record.Meets field .eq item := by
  refine and_congr_right fun absent => ?_
  simp only [meets_eq_iff, absent, Option.getD_none, Value.null_same_iff]
  exact ⟨fun hnull => ⟨.null, hnull, rfl⟩, fun ⟨item, hitem, hnull⟩ => hnull ▸ hitem⟩

/-- **Membership agrees with equality.** A field is not among the items of a list exactly if it
differs from each of them. It is among them exactly if it equals one of them, and then and only then
it is not "not among" them: all this except where the field is absent and null is an item. There the
field equals an item, and yet it is neither among the items nor not among them. -/
theorem meets_membership (field : String) :
    (record.Meets field .notAmong (.list items) ↔ ∀ item ∈ items, record.Meets field .ne item) ∧
    ((record.Meets field .among (.list items) ↔ ∃ item ∈ items, record.Meets field .eq item) ↔
      ¬record.IsMissed field items) ∧
    (Xor (record.Meets field .among (.list items)) (record.Meets field .notAmong (.list items)) ↔
      ¬record.IsMissed field items) := by
  have notAmong : record.Meets field .notAmong _ ↔ _ :=
    meets_notAmong_iff_forall_ne distinct distinctItems
  have among : record.Meets field .among _ ↔ _ := meets_among_iff_exists_eq distinct distinctItems
  have differs : (∀ item ∈ items, record.Meets field .ne item) ↔ ¬∃ item ∈ items,
      record.Meets field .eq item := by
    simp only [meets_ne_iff, not_exists, not_and]
  rw [isMissed_iff, notAmong, among, differs]
  refine ⟨Iff.rfl, ?_⟩
  -- Two facts decide all that is left: whether the field is absent, and whether it equals an item.
  by_cases absent : record.getPath? field = none <;>
    by_cases equal : ∃ item ∈ items, record.Meets field .eq item <;> simp [absent, equal, Xor]

end

/-- A person without a phone. -/
def alice : Record := [("name", .text "Alice"), ("email", .null)]

/-- A field that is null is among the items of a list that has null, and
nothing else is to be said of it. -/
theorem meets_membership_alice :
    (Value.object alice).HasDistinctNames ∧ (Value.list [.int 1, .null]).HasDistinctNames ∧
      Xor (alice.Meets "email" .among (.list [.int 1, .null]))
        (alice.Meets "email" .notAmong (.list [.int 1, .null])) := by
  have distinct : (Value.object alice).HasDistinctNames := by decide +kernel
  have distinctItems : (Value.list [.int 1, .null]).HasDistinctNames := by decide +kernel
  refine ⟨distinct, distinctItems,
    (meets_membership distinct distinctItems "email").2.2.mpr fun missed => ?_⟩
  have there : alice.getPath? "email" ≠ none := by decide +kernel
  exact there missed.1

/-- An absent field equals null, and is neither among the items of a list that
has null nor not among them. -/
theorem meets_neither_membership :
    alice.Meets "phone" .eq .null ∧ ¬alice.Meets "phone" .among (.list [.null]) ∧
      ¬alice.Meets "phone" .notAmong (.list [.null]) := by
  decide +kernel

end Record

end RecordFlow
