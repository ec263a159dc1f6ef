import RecordFlow.Proofs.Pipeline.BuiltGraph

/-!
# Steps in another order

Two lists of steps may hold the same steps at different places and with different order numbers.
What a step needs does not depend on either: the dependencies between the places of the one list are
those between the places of the other one that hold the same steps.

## Main definitions

* `Step.unordered` — a step without its order number
* `IsReordering` — two lists of the same steps, whose ids and outputs all differ
* `Counterpart` — two places with the same step

## Main results

* `IsReordering.dependsOn_iff` — the dependencies are the same
* `IsReordering.exists_needs` — and so is what a step needs through others
-/

namespace RecordFlow

variable {steps others : List Step} {a a' b i j : Nat}

/-- A step without its order number. -/
def Step.unordered (step : Step) : Step := { step with order := 0 }

/-- Steps that are the same without their order numbers differ in nothing
that decides what they make. -/
theorem Step.eq_of_unordered {step other : Step} (same : step.unordered = other.unordered) :
    step.id = other.id ∧ step.config = other.config ∧ step.dependsOn = other.dependsOn := by
  obtain ⟨id, -, config, -, dependsOn⟩ := Step.mk.inj same
  exact ⟨id, config, dependsOn⟩

/-- Two lists hold the same steps but for their order numbers, and no two of them have the
same id or the same output. -/
structure IsReordering (steps others : List Step) : Prop where
  perm : (steps.map Step.unordered).Perm (others.map Step.unordered)
  ids : (steps.map Step.id).Nodup
  outputs : (steps.map (·.config.output)).Nodup

/-- The same step stands at the place `a` of one list and at the place `b` of another one. -/
def Counterpart (steps others : List Step) (a b : Nat) : Prop :=
  ∃ step other, steps[a]? = some step ∧ others[b]? = some other ∧ step.unordered = other.unordered

theorem Counterpart.symm (h : Counterpart steps others a b) : Counterpart others steps b a := by
  obtain ⟨step, other, hstep, hother, same⟩ := h
  exact ⟨other, step, hother, hstep, same.symm⟩

/-- The steps at two such places are the same but for their order numbers. -/
theorem Counterpart.same {step other : Step} (h : Counterpart steps others a b)
    (hstep : steps[a]? = some step) (hother : others[b]? = some other) :
    step.unordered = other.unordered := by
  obtain ⟨step', other', hstep', hother', same⟩ := h
  rw [hstep] at hstep'
  rw [hother] at hother'
  obtain rfl := Option.some.inj hstep'
  obtain rfl := Option.some.inj hother'
  exact same

/-- Of steps that differ in a property, the property tells the place. -/
theorem eq_place_of_nodup {α : Type} {view : Step → α} {step step' : Step}
    (nodup : (steps.map view).Nodup) (hstep : steps[a]? = some step)
    (hstep' : steps[a']? = some step') (same : view step = view step') : a = a' := by
  have at_a : (steps.map view)[a]? = some (view step) := by
    rw [List.getElem?_map, hstep, Option.map_some]
  have at_a' : (steps.map view)[a']? = some (view step') := by
    rw [List.getElem?_map, hstep', Option.map_some]
  obtain ⟨hlt, -⟩ := List.getElem?_eq_some_iff.mp at_a
  exact (List.getElem?_inj hlt nodup).mp (by rw [at_a, at_a', same])

namespace IsReordering

/-- Where it does not matter at which places steps stand, nor their order
numbers, the lists are alike. -/
theorem perm_map {α : Type} (h : IsReordering steps others) (view : Step → α)
    (blind : ∀ step : Step, view step.unordered = view step) :
    (steps.map view).Perm (others.map view) := by
  have perm := h.perm.map view
  have same : view ∘ Step.unordered = view := funext blind
  rwa [List.map_map, List.map_map, same] at perm

theorem symm (h : IsReordering steps others) : IsReordering others steps where
  perm := h.perm.symm
  ids := (h.perm_map Step.id fun _ => rfl).nodup_iff.mp h.ids
  outputs := (h.perm_map (·.config.output) fun _ => rfl).nodup_iff.mp h.outputs

/-- Every step is among the others but for its order number. -/
theorem exists_same (h : IsReordering steps others) {step : Step} (hmem : step ∈ steps) :
    ∃ other ∈ others, step.unordered = other.unordered := by
  have among : step.unordered ∈ others.map Step.unordered :=
    h.perm.mem_iff.mp (List.mem_map_of_mem hmem)
  obtain ⟨other, hother, same⟩ := List.mem_map.mp among
  exact ⟨other, hother, same.symm⟩

/-- Every step has a counterpart. -/
theorem exists_counterpart (h : IsReordering steps others) {step : Step}
    (hstep : steps[a]? = some step) : ∃ b, Counterpart steps others a b := by
  obtain ⟨other, hother, same⟩ := h.exists_same (List.mem_of_getElem? hstep)
  obtain ⟨b, hb⟩ := List.getElem?_of_mem hother
  exact ⟨b, step, other, hstep, hb, same⟩

/-- Two steps with one counterpart stand at the same place. -/
theorem eq_of_counterpart (h : IsReordering steps others) (hab : Counterpart steps others a b)
    (hab' : Counterpart steps others a' b) : a = a' := by
  obtain ⟨step, other, hstep, hother, same⟩ := hab
  obtain ⟨step', -, hstep', -, -⟩ := id hab'
  have same' := hab'.same hstep' hother
  exact eq_place_of_nodup h.ids hstep hstep' ((Step.eq_of_unordered (same.trans same'.symm)).1)

/-- The counterpart of a step tells its id. -/
theorem counterpart_of_id (h : IsReordering steps others) {step other : Step}
    (hstep : steps[a]? = some step) (hother : others[b]? = some other) (same : step.id = other.id) :
    Counterpart steps others a b := by
  obtain ⟨other', hmem, unordered⟩ := h.exists_same (List.mem_of_getElem? hstep)
  obtain ⟨b', hother'⟩ := List.getElem?_of_mem hmem
  obtain rfl : b' = b := by
    refine eq_place_of_nodup h.symm.ids hother' hother ?_
    exact (Step.eq_of_unordered unordered).1.symm.trans same
  exact ⟨step, other', hstep, hother', unordered⟩

/-- A dependency between two steps is one between their counterparts. -/
theorem dependsOn_of_counterpart (h : IsReordering steps others)
    (hij : Counterpart steps others i j) (hab : Counterpart steps others a b)
    (dependsOn : DependsOn (steps.map Node.ofStep) i a) :
    DependsOn (others.map Node.ofStep) j b := by
  have distinct : a ≠ i → b ≠ j := by
    rintro different rfl
    exact different (h.eq_of_counterpart hab hij)
  obtain ⟨reader, maker, hreader, hmaker, cause⟩ := dependsOn_ofStep_iff.mp dependsOn
  obtain ⟨-, reader', -, hreader', -⟩ := id hij
  obtain ⟨-, maker', -, hmaker', -⟩ := id hab
  obtain ⟨-, reads, names⟩ := Step.eq_of_unordered (hij.same hreader hreader')
  obtain ⟨id, config, -⟩ := Step.eq_of_unordered (hab.same hmaker hmaker')
  rw [id, config, names, reads] at cause
  refine dependsOn_ofStep_iff.mpr ⟨reader', maker', hreader', hmaker', cause.imp_right ?_⟩
  rintro ⟨different, hreads⟩
  exact ⟨distinct different, hreads⟩

/-- **The same dependencies.** -/
theorem dependsOn_iff (h : IsReordering steps others) (hij : Counterpart steps others i j)
    (hab : Counterpart steps others a b) :
    DependsOn (steps.map Node.ofStep) i a ↔ DependsOn (others.map Node.ofStep) j b :=
  ⟨h.dependsOn_of_counterpart hij hab, h.symm.dependsOn_of_counterpart hij.symm hab.symm⟩

/-- What a step needs has a counterpart that the counterpart of the step needs. -/
theorem exists_needs (h : IsReordering steps others) (hij : Counterpart steps others i j)
    (needs : Needs (steps.map Node.ofStep) i a) :
    ∃ b, Counterpart steps others a b ∧ Needs (others.map Node.ofStep) j b := by
  have exists_next : ∀ {c d}, DependsOn (steps.map Node.ofStep) c d →
      ∃ b, Counterpart steps others d b := by
    intro c d dependsOn
    obtain ⟨_, maker, -, hmaker, -⟩ := dependsOn_ofStep_iff.mp dependsOn
    exact h.exists_counterpart hmaker
  -- Along the dependencies every step is replaced by its counterpart.
  induction needs with
  | single dependsOn =>
    obtain ⟨b, hb⟩ := exists_next dependsOn
    exact ⟨b, hb, .single (h.dependsOn_of_counterpart hij hb dependsOn)⟩
  | tail _ dependsOn ih =>
    obtain ⟨c, hc, needs⟩ := ih
    obtain ⟨b, hb⟩ := exists_next dependsOn
    exact ⟨b, hb, needs.tail (h.dependsOn_of_counterpart hc hb dependsOn)⟩

end IsReordering

end RecordFlow
