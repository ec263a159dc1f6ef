/-!
# Actions on a state

What is done one after the other on a state, by actions that may fail.

## Main definitions

* `Keeps` — an action leaves a part of the state as it is
* `Preserves` — an action leaves a property of the state true
* `Avoids` — an action does not fail in a certain way
* `Matches` — two actions give the same side by side

## Main results

* `run_bind`, `run_exceptBind` — of two actions the second one runs behind the first
* `ok_of_exceptBind`, `error_of_exceptBind` — how two actions have ended, taken apart
-/

namespace RecordFlow

variable {σ α β γ ε ε' : Type}

theorem run_bind (x : StateM σ α) (f : α → StateM σ β) (w : σ) :
    (x >>= f).run w = (f (x.run w).1).run (x.run w).2 := rfl

@[simp] theorem run_pure (a : α) (w : σ) : (pure a : StateM σ α).run w = (a, w) := rfl

/-- Of two actions that may fail the second one runs if the first has not failed. -/
theorem run_exceptBind (action : ExceptT ε (StateM σ) α)
    (next : α → ExceptT ε (StateM σ) β) (w : σ) : (action >>= next).run.run w =
      match (action.run.run w).1 with
      | .ok a => (next a).run.run (action.run.run w).2
      | .error error => (.error error, (action.run.run w).2) := by
  change (action.run >>= ExceptT.bindCont next).run w = _
  rw [run_bind]
  cases (action.run.run w).1 <;> rfl

theorem run_adapt (action : ExceptT ε (StateM σ) α) (f : ε → ε') (w : σ) :
    (action.adapt f).run.run w = ((action.run.run w).1.mapError f, (action.run.run w).2) := rfl

theorem run_lift (action : StateM σ α) (w : σ) :
    (liftM action : ExceptT ε (StateM σ) α).run.run w = (.ok (action.run w).1, (action.run w).2) :=
  rfl

@[simp] theorem mapError_ok (f : ε → ε') (a : α) :
    (Except.ok a : Except ε α).mapError f = .ok a := rfl

@[simp] theorem mapError_error (f : ε → ε') (error : ε) :
    (Except.error error : Except ε α).mapError f = .error (f error) := rfl

/-! ### How actions have ended -/

section

variable {action : ExceptT ε (StateM σ) α} {next : α → ExceptT ε (StateM σ) β} {w w' : σ}

/-- Two actions have not failed if neither has. -/
theorem ok_of_exceptBind {b : β} (h : (action >>= next).run.run w = (.ok b, w')) :
    ∃ a v, action.run.run w = (.ok a, v) ∧ (next a).run.run v = (.ok b, w') := by
  rw [run_exceptBind] at h
  generalize action.run.run w = first at h
  obtain ⟨_ | a, v⟩ := first
  · cases h
  · exact ⟨a, v, rfl, h⟩

/-- Two actions have failed if the first has, or the second behind the first. -/
theorem error_of_exceptBind {error : ε} (h : (action >>= next).run.run w = (.error error, w')) :
    action.run.run w = (.error error, w') ∨
      ∃ a v, action.run.run w = (.ok a, v) ∧ (next a).run.run v = (.error error, w') := by
  rw [run_exceptBind] at h
  generalize action.run.run w = first at h
  obtain ⟨same | a, v⟩ := first
  · cases h
    exact .inl rfl
  · exact .inr ⟨a, v, rfl, h⟩

theorem ok_of_adapt {f : ε → ε'} {a : α} (h : (action.adapt f).run.run w = (.ok a, w')) :
    action.run.run w = (.ok a, w') := by
  rw [run_adapt] at h
  generalize action.run.run w = first at h
  obtain ⟨_ | same, v⟩ := first
  · cases h
  · cases h
    rfl

theorem error_of_adapt {f : ε → ε'} {error : ε'}
    (h : (action.adapt f).run.run w = (.error error, w')) :
    ∃ cause, action.run.run w = (.error cause, w') ∧ f cause = error := by
  rw [run_adapt] at h
  generalize action.run.run w = first at h
  obtain ⟨cause | _, v⟩ := first
  · cases h
    exact ⟨cause, rfl, rfl⟩
  · cases h

end

/-! ### What an action leaves as it is -/

/-- An action leaves a part of its surroundings as it is. -/
def Keeps (view : σ → γ) (action : StateM σ α) : Prop := ∀ w, view (action.run w).2 = view w

namespace Keeps

variable {view : σ → γ}

theorem pure (view : σ → γ) (a : α) : Keeps view (pure a : StateM σ α) := fun _ => rfl

theorem map {action : StateM σ α} (h : Keeps view action) (f : α → β) : Keeps view (f <$> action) :=
  fun w => h w

theorem comp {δ : Type} {action : StateM σ α} (h : Keeps view action) (f : γ → δ) :
    Keeps (fun w => f (view w)) action := fun w => congrArg f (h w)

theorem throw (view : σ → γ) (error : ε) :
    Keeps view (MonadExcept.throw error : ExceptT ε (StateM σ) α).run := fun _ => rfl

theorem lift {action : StateM σ α} (h : Keeps view action) :
    Keeps view (liftM action : ExceptT ε (StateM σ) α).run := fun w => h w

theorem exceptBind {action : ExceptT ε (StateM σ) α} {next : α → ExceptT ε (StateM σ) β}
    (h : Keeps view action.run) (hnext : ∀ a, Keeps view (next a).run) :
    Keeps view (action >>= next).run := by
  intro w
  rw [run_exceptBind]
  cases (action.run.run w).1 with
  | ok a => exact (hnext a _).trans (h w)
  | error error => exact h w

theorem adapt {action : ExceptT ε (StateM σ) α} (h : Keeps view action.run)
    (f : ε → ε') : Keeps view (action.adapt f).run :=
  h.map _

end Keeps

/-! ### What an action leaves true -/

/-- An action leaves a property of its surroundings true. -/
def Preserves (property : σ → Prop) (action : StateM σ α) : Prop :=
  ∀ w, property w → property (action.run w).2

namespace Preserves

variable {property : σ → Prop}

/-- What an action keeps tells nothing new. -/
theorem of_keeps {view : σ → γ} {action : StateM σ α} (h : Keeps view action) (holds : γ → Prop) :
    Preserves (fun w => holds (view w)) action := by
  intro w before
  rw [h w]
  exact before

theorem exceptBind {action : ExceptT ε (StateM σ) α} {next : α → ExceptT ε (StateM σ) β}
    (h : Preserves property action.run) (hnext : ∀ a, Preserves property (next a).run) :
    Preserves property (action >>= next).run := by
  intro w before
  rw [run_exceptBind]
  cases (action.run.run w).1 with
  | ok a => exact hnext a _ (h w before)
  | error error => exact h w before

end Preserves

/-! ### How an action does not fail -/

/-- An action does not fail in a certain way. -/
def Avoids (bad : ε → Prop) (action : ExceptT ε (StateM σ) α) : Prop :=
  ∀ w error, (action.run.run w).1 = .error error → ¬ bad error

namespace Avoids

variable {bad : ε → Prop}

theorem pure (bad : ε → Prop) (a : α) : Avoids bad (pure a : ExceptT ε (StateM σ) α) :=
  fun _ _ failed => by cases failed

theorem throw {error : ε} (h : ¬ bad error) :
    Avoids bad (MonadExcept.throw error : ExceptT ε (StateM σ) α) := by
  intro w other failed
  obtain rfl := Except.error.inj failed
  exact h

theorem exceptBind {action : ExceptT ε (StateM σ) α} {next : α → ExceptT ε (StateM σ) β}
    (h : Avoids bad action) (hnext : ∀ a, Avoids bad (next a)) : Avoids bad (action >>= next) := by
  intro w error failed
  rw [run_exceptBind] at failed
  cases first : (action.run.run w).1 with
  | ok a =>
    rw [first] at failed
    exact hnext a _ error failed
  | error same =>
    rw [first] at failed
    obtain rfl := Except.error.inj failed
    exact h w same first

theorem lift (bad : ε → Prop) (action : StateM σ α) :
    Avoids bad (liftM action : ExceptT ε (StateM σ) α) := by
  intro w error failed
  rw [run_lift] at failed
  cases failed

/-- An action whose failures are renamed avoids what is not a new name. -/
theorem adapt (action : ExceptT ε' (StateM σ) α) {f : ε' → ε} (h : ∀ error, ¬ bad (f error)) :
    Avoids bad (action.adapt f) := by
  intro w error failed
  rw [run_adapt] at failed
  cases first : (action.run.run w).1 with
  | ok a => simp [first] at failed
  | error same =>
    rw [first] at failed
    obtain rfl := Except.error.inj failed
    exact h same

end Avoids

/-! ### Two actions side by side -/

/-- From related surroundings two actions give the same, and they leave surroundings that are
related in a way that may depend on what they give. -/
def Matches (before : σ → σ → Prop) (action other : StateM σ α) (after : α → σ → σ → Prop) : Prop :=
  ∀ w v, before w v → (action.run w).1 = (other.run v).1 ∧
    after (action.run w).1 (action.run w).2 (other.run v).2

namespace Matches

variable {before : σ → σ → Prop}

theorem pure (a : α) (after : α → σ → σ → Prop) :
    Matches (after a) (pure a : StateM σ α) (pure a) after :=
  fun _ _ related => ⟨rfl, related⟩

theorem bind {action other : StateM σ α} {next next' : α → StateM σ β} {between : α → σ → σ → Prop}
    {after : β → σ → σ → Prop} (h : Matches before action other between)
    (hnext : ∀ a, Matches (between a) (next a) (next' a) after) :
    Matches before (action >>= next) (other >>= next') after := by
  intro w v related
  obtain ⟨same, middle⟩ := h w v related
  rw [run_bind, run_bind, ← same]
  exact hnext _ _ _ middle

/-- If the first of two actions fails on one side it fails on the other one too. -/
theorem exceptBind {action other : ExceptT ε (StateM σ) α} {next next' : α → ExceptT ε (StateM σ) β}
    {between : Except ε α → σ → σ → Prop} {after : Except ε β → σ → σ → Prop}
    (h : Matches before action.run other.run between)
    (hnext : ∀ a, Matches (between (.ok a)) (next a).run (next' a).run after)
    (hfail : ∀ error w v, between (.error error) w v → after (.error error) w v) :
    Matches before (action >>= next).run (other >>= next').run after := by
  intro w v related
  obtain ⟨same, middle⟩ := h w v related
  rw [run_exceptBind, run_exceptBind, ← same]
  cases result : (action.run.run w).1 with
  | ok a =>
    rw [result] at middle
    exact hnext a _ _ middle
  | error error =>
    rw [result] at middle
    exact ⟨rfl, hfail error _ _ middle⟩

end Matches

end RecordFlow
