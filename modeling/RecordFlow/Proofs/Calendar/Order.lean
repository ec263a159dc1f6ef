import RecordFlow.Calendar.Timestamp
import Mathlib.Data.Int.Order.Basic
import Mathlib.Order.Lattice

/-!
# Instants in order

Instants are ordered by their seconds since the epoch and, within a second, by their nanoseconds; a
leap second comes behind all of the second whose number it shares. Outside of leap seconds an
instant is known by its nanoseconds since the epoch, and these say what comes first.

## Main definitions

* `Timestamp.nanos` — the nanoseconds since the epoch
* `Timestamp.later?` — the instant some nanoseconds later

## Main results

* `Timestamp.before_iff_lt` — `Timestamp.before` is this order
* `Timestamp.ofDay?_eq_some_iff`, `Timestamp.ofSeconds?_eq_some_iff`,
  `Timestamp.addSeconds?_eq_some_iff` — which instant is made or reached
* `Timestamp.exists_ofSeconds?_iff` — there is an instant for each second of the days in use
-/

namespace RecordFlow

namespace Timestamp

variable {t a b r : Timestamp}

/-! ### The order -/

theorem seconds_eq (t : Timestamp) : t.seconds = t.day * 86400 + t.second := rfl

theorem second_lt' (t : Timestamp) : t.second < 86400 := t.second_lt

theorem eq_of_seconds (hseconds : a.seconds = b.seconds) (hnano : a.nano = b.nano) : a = b := by
  have := a.second_lt'
  have := b.second_lt'
  rw [seconds_eq, seconds_eq] at hseconds
  have hday : a.day = b.day := by omega
  have hsecond : a.second = b.second := by omega
  cases a
  cases b
  simp_all

instance : LinearOrder Timestamp where
  le a b := a.seconds < b.seconds ∨ a.seconds = b.seconds ∧ a.nano ≤ b.nano
  lt a b := a.seconds < b.seconds ∨ a.seconds = b.seconds ∧ a.nano < b.nano
  le_refl a := by omega
  le_trans a b c := by omega
  lt_iff_le_not_ge a b := by omega
  le_antisymm a b ab ba := eq_of_seconds (by omega) (by omega)
  le_total a b := by omega
  toDecidableLE _ _ := inferInstanceAs (Decidable (_ ∨ _))
  toDecidableLT _ _ := inferInstanceAs (Decidable (_ ∨ _))
  toDecidableEq := inferInstance

theorem le_iff : a ≤ b ↔ a.seconds < b.seconds ∨ a.seconds = b.seconds ∧ a.nano ≤ b.nano := Iff.rfl

theorem lt_iff : a < b ↔ a.seconds < b.seconds ∨ a.seconds = b.seconds ∧ a.nano < b.nano := Iff.rfl

theorem seconds_le_of_le (h : a ≤ b) : a.seconds ≤ b.seconds := by
  rcases le_iff.mp h with less | ⟨same, -⟩
  · exact less.le
  · exact same.le

theorem before_iff_lt : a.before b = true ↔ a < b := by
  have := a.second_lt'
  have := b.second_lt'
  simp only [before, Bool.or_eq_true, Bool.and_eq_true, decide_eq_true_iff,
    beq_iff_eq, lt_iff, seconds_eq]
  omega

/-! ### Which instant is made -/

theorem ofDay?_eq_some_iff {day : ℤ} {second nano : ℕ} :
    ofDay? day second nano = some t ↔ t.day = day ∧ t.second = second ∧ t.nano = nano := by
  rw [ofDay?]
  constructor
  · intro h
    split at h
    next => obtain rfl := Option.some_inj.mp h; exact ⟨rfl, rfl, rfl⟩
    next => cases h
  · rintro ⟨rfl, rfl, rfl⟩
    rw [dif_pos ⟨t.day_in_use, t.second_lt, t.nano_lt⟩]

theorem ofDay?_eq_some_iff_seconds {day : ℤ} {second nano : ℕ} (h : second < 86400) :
    ofDay? day second nano = some t ↔ t.seconds = day * 86400 + second ∧ t.nano = nano := by
  have := t.second_lt'
  rw [ofDay?_eq_some_iff, seconds_eq]
  omega

theorem ofSeconds?_eq_some_iff {n : ℤ} {nano : ℕ} :
    ofSeconds? n nano = some t ↔ t.seconds = n ∧ t.nano = nano := by
  rw [ofSeconds?, secondsPerDay, ofDay?_eq_some_iff_seconds (by omega)]
  omega

/-- There is an instant for each second of the days in use. -/
theorem exists_ofSeconds?_iff {n : ℤ} {nano : ℕ} (hnano : nano < 2 * nanosPerSecond) :
    (∃ t, ofSeconds? n nano = some t) ↔ firstDay ≤ n / 86400 ∧ n / 86400 ≤ lastDay := by
  have second_lt : (n % (secondsPerDay : ℤ)).toNat < secondsPerDay := by
    rw [secondsPerDay]
    omega
  rw [ofSeconds?, ofDay?]
  constructor
  · rintro ⟨t, ht⟩
    split at ht
    next inUse => exact inUse.1
    next => cases ht
  · intro inUse
    rw [dif_pos ⟨inUse, second_lt, hnano⟩]
    exact ⟨_, rfl⟩

theorem day_eq (t : Timestamp) : t.seconds / 86400 = t.day := by
  have := t.second_lt'
  rw [seconds_eq]
  omega

/-! ### Nanoseconds -/

/-- The nanoseconds since the epoch of an instant that is in no leap second. -/
def nanos (t : Timestamp) : ℤ := t.seconds * 1000000000 + t.nano

theorem isLeapSecond_eq_false_iff : t.isLeapSecond = false ↔ t.nano < 1000000000 := by
  rw [isLeapSecond, decide_eq_false_iff_not, not_le]
  rfl

/-- Outside of leap seconds, what comes first is what has the fewer nanoseconds. -/
theorem le_iff_nanos (ha : a.isLeapSecond = false) (hb : b.isLeapSecond = false) :
    a ≤ b ↔ a.nanos ≤ b.nanos := by
  rw [isLeapSecond_eq_false_iff] at ha hb
  rw [le_iff, nanos, nanos]
  omega

theorem lt_iff_nanos (ha : a.isLeapSecond = false) (hb : b.isLeapSecond = false) :
    a < b ↔ a.nanos < b.nanos := by
  rw [← not_le, le_iff_nanos hb ha, not_le]

theorem nanosSince_eq (ha : a.isLeapSecond = false) (hb : b.isLeapSecond = false) :
    a.nanosSince b = a.nanos - b.nanos := by
  rw [nanosSince]
  simp only [ha, hb, Bool.and_false, Bool.false_eq_true, if_false, nanosPerSecond, nanos]
  omega

theorem addSeconds?_eq_some_iff (ht : t.isLeapSecond = false) {n : ℤ} :
    t.addSeconds? n = some r ↔ r.seconds = t.seconds + n ∧ r.nano = t.nano := by
  rw [addSeconds?]
  split
  next zero =>
    rw [zero, Int.add_zero, Option.some_inj]
    exact ⟨fun same => same ▸ ⟨rfl, rfl⟩, fun same => eq_of_seconds same.1.symm same.2.symm⟩
  next =>
    rw [if_neg (by simp [ht]), ofSeconds?_eq_some_iff]

/-- The instant some nanoseconds later, or earlier, than one that is in no leap second. -/
def later? (t : Timestamp) (n : ℤ) : Option Timestamp :=
  ofSeconds? ((t.nanos + n) / 1000000000) ((t.nanos + n) % 1000000000).toNat

theorem later?_eq_some_iff {n : ℤ} :
    t.later? n = some r ↔ r.nanos = t.nanos + n ∧ r.isLeapSecond = false := by
  rw [later?, ofSeconds?_eq_some_iff, isLeapSecond_eq_false_iff]
  have : r.nanos = r.seconds * 1000000000 + r.nano := rfl
  omega

theorem previousMilli?_eq (ht : t.isLeapSecond = false) :
    t.previousMilli? = t.later? (-1000000) := by
  have := t.second_lt'
  rw [isLeapSecond_eq_false_iff] at ht
  ext r
  rw [later?_eq_some_iff, isLeapSecond_eq_false_iff, previousMilli?, nanos,
    nanos, seconds_eq, seconds_eq]
  have := r.second_lt'
  split
  next =>
    rw [ofDay?_eq_some_iff]
    omega
  next =>
    rw [ofSeconds?_eq_some_iff, seconds_eq]
    omega

end Timestamp

end RecordFlow
