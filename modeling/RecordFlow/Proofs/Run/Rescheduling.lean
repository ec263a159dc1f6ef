import RecordFlow.Proofs.Pipeline.Reordering
import RecordFlow.Proofs.Run.Lockstep

/-!
# The schedule of a run does not matter

In a run that continues on errors and that nothing disturbs, the fate of a step is a matter of the
fates of the steps that it needs: it is skipped if one of them has failed, and otherwise it makes
what it makes of their sets and of what was stored at first under all other names. The place of the
step, its order number and the position of its turn have no part in this, provided that no two steps
have the same output. So two pipelines of the same steps give every step the same fate and leave the
same in the store, but for what the clock has a part in: a step comes to its turn at another time.

## Main definitions

* `HasFate` — the fate of the step at a place of a pipeline in a new run

## Main results

* `HasFate.status_eq_skipped_iff`, `HasFate.exists_attempt` — the fate
  of a step by those that it needs
* `HasFate.resembles_of_counterpart` — in two runs of the same steps the
  fates of a step resemble each other
* `reschedule_resembles` — so do the results of such runs and what they leave
-/

namespace RecordFlow

variable {ω : Type} {env : Environment ω}

namespace Execution

variable {execution : Execution (StateM (World ω))} {slots : List Slot} {w : World ω} {s t : Nat}
  {fate : Fate}

namespace FaresAt

theorem statusAt_iff {status : StepStatus} (fares : execution.FaresAt env slots w s fate) :
    execution.StatusAt slots w s status ↔ fate.status = status := by
  obtain ⟨result, hresult, told, -⟩ := fares.advances
  rw [Execution.statusAt_iff hresult, told.status]

theorem made (fares : execution.FaresAt env slots w s fate) (hs : s < slots.length) :
    (execution.reach slots {} w (s + 1)).1.made =
      (execution.reach slots {} w s).1.made.hold slots[s].step.config.output fate := by
  obtain ⟨_, -, -, hprogress⟩ := fares.advances
  rw [hprogress]
  exact made_advance _ _ _ _

/-- A step that is not skipped is attempted. -/
theorem exists_attempt (fares : execution.FaresAt env slots w s fate) (hs : s < slots.length)
    (started : fate.status ≠ .skipped) : ∃ now, env.MayShow now ∧
      fate = .ofAttempt (slots[s].step.outcome execution.options.dryRun now
        ((execution.reach slots {} w s).1.made.found w.stored)) := by
  obtain ⟨now, shown, hfate⟩ := fares.fate_eq
  refine ⟨now, shown, ?_⟩
  rw [Execution.fate] at hfate
  split at hfate
  · rw [hfate] at started
    exact absurd rfl started
  · exact hfate

end FaresAt

/-- What the only step with an output has made is there from then on. -/
theorem FaresAt.records?_made (undisturbed : execution.IsUndisturbed env)
    (pending : ∀ slot ∈ slots, slot.pending = .pending slot.step)
    (distinct : ∀ t u (ht : t < slots.length) (hu : u < slots.length),
      slots[t].step.config.output = slots[u].step.config.output → t = u)
    (fares : execution.FaresAt env slots w t fate) (ht : t < slots.length) (hts : t < s)
    (hs : s ≤ slots.length) :
    (execution.reach slots {} w s).1.made.records? slots[t].step.config.output =
      fate.output?.map StepOutput.records := by
  induction s, hts using Nat.le_induction with
  | base =>
    -- No step in front of this one has its output, so that nothing of this name has been made yet.
    have before : (execution.reach slots {} w t).1.made.records? slots[t].step.config.output =
        none := by
      refine records?_made_eq_none execution w ht.le fun u hut slot hslot output => ?_
      obtain ⟨hu, rfl⟩ := List.getElem?_eq_some_iff.mp hslot
      exact hut.ne (distinct u t hu ht output)
    rw [Nat.succ_eq_add_one, fares.made ht, Collections.records?_hold,
      if_pos rfl, before, Option.or_none]
  | succ s hts ih =>
    obtain ⟨fate', fares'⟩ := undisturbed.exists_faresAt w pending hs
    -- A later step has another output, so that it leaves this one as it is.
    have different : slots[t].step.config.output ≠ slots[s].step.config.output := by
      intro output
      have := distinct t s ht hs output
      omega
    rw [fares'.made hs, Collections.records?_hold, if_neg different, Option.none_or, ih (by omega)]

end Execution

/-! ### Fates -/

section

variable {pipeline : Pipeline} {options : RunOptions} {order : List Nat}
  {w : World ω} {a b s t : Nat} {fate fate' : Fate} {step other : Step} {name : String}

/-- In a new run the step at a place has a fate. -/
def HasFate (env : Environment ω) (pipeline : Pipeline) (options : RunOptions) (order : List Nat)
    (w : World ω) (a : Nat) (fate : Fate) : Prop :=
  ∃ s, order[s]? = some a ∧ (Execution.ofNewRun env pipeline options w).FaresAt env
    (freshSlots pipeline order) (w.begun env pipeline options) s fate

/-- What stands at a position of an order waits at that position in a new run. -/
theorem getElem?_freshSlots (resolved : resolveOrder (pipeline.steps.map Node.ofStep) = .ok order)
    (hplace : order[s]? = some a) (hstep : pipeline.steps[a]? = some step) :
    (freshSlots pipeline order)[s]? = some ⟨a, step, .pending step⟩ := by
  rw [← map_place_freshSlots resolved, List.getElem?_map, Option.map_eq_some_iff] at hplace
  obtain ⟨slot, hslot, rfl⟩ := hplace
  obtain ⟨hstep', hpending⟩ := mem_freshSlots (List.mem_of_getElem? hslot)
  obtain rfl := Option.some.inj (hstep.symm.trans hstep')
  rw [hslot, ← hpending]

/-- Every step has a position in an order. -/
theorem exists_position (resolved : resolveOrder (pipeline.steps.map Node.ofStep) = .ok order)
    (hstep : pipeline.steps[a]? = some step) : ∃ s : Nat, order[s]? = some a := by
  obtain ⟨scheduled, full⟩ := resolveOrder_ok resolved
  have lt : a < pipeline.steps.length := (List.getElem?_eq_some_iff.mp hstep).1
  have hmem : a ∈ order := (scheduled.perm_range full).mem_iff.mpr (by simpa using lt)
  exact List.getElem?_of_mem hmem

/-- Steps with different outputs make different sets at different positions. -/
theorem eq_position_of_output (resolved : resolveOrder (pipeline.steps.map Node.ofStep) = .ok order)
    (outputs : (pipeline.steps.map (·.config.output)).Nodup)
    (hs : s < (freshSlots pipeline order).length) (ht : t < (freshSlots pipeline order).length)
    (same : (freshSlots pipeline order)[s].step.config.output =
      (freshSlots pipeline order)[t].step.config.output) : s = t := by
  have places : (freshSlots pipeline order)[s].place = (freshSlots pipeline order)[t].place :=
    eq_place_of_nodup outputs (mem_freshSlots (List.getElem_mem hs)).1
      (mem_freshSlots (List.getElem_mem ht)).1 same
  refine (List.getElem?_inj ?_ (scheduled_freshSlots resolved).nodup).mp ?_
  · simpa using hs
  · simpa [List.getElem?_eq_getElem hs, List.getElem?_eq_getElem ht] using places

section

variable (neverRefuses : env.NeverRefuses) (neverCancels : env.NeverCancels)
  (resolved : resolveOrder (pipeline.steps.map Node.ofStep) = .ok order)

include neverRefuses neverCancels resolved

theorem exists_hasFate (options : RunOptions) (w : World ω)
    (hstep : pipeline.steps[a]? = some step) :
    ∃ fate, HasFate env pipeline options order w a fate := by
  obtain ⟨s, hplace⟩ := exists_position resolved hstep
  have hs := (List.getElem?_eq_some_iff.mp (getElem?_freshSlots resolved hplace hstep)).1
  have undisturbed := isUndisturbed_ofNewRun neverRefuses neverCancels pipeline options w
  obtain ⟨fate, fares⟩ := undisturbed.exists_faresAt _ (fun _ => pending_of_mem_freshSlots) hs
  exact ⟨fate, s, hplace, fares⟩

namespace HasFate

/-- A step is skipped exactly when it needs one that has failed. -/
theorem status_eq_skipped_iff (continues : options.continueOnError = true)
    (has : HasFate env pipeline options order w a fate) :
    fate.status = .skipped ↔ ∃ b failed, Needs (pipeline.steps.map Node.ofStep) a b ∧
      HasFate env pipeline options order w b failed ∧ failed.status = .failed := by
  obtain ⟨s, hplace, fares⟩ := has
  have undisturbed := isUndisturbed_ofNewRun neverRefuses neverCancels pipeline options w
  have hs := fares.lt
  obtain rfl := Option.some.inj
    (hplace.symm.trans (getElem?_order resolved (List.getElem?_eq_getElem hs)))
  rw [← fares.statusAt_iff, Execution.statusAt_skipped_iff_of_continueOnError
    (scheduled_freshSlots resolved) hs continues fun t _ => undisturbed.not_stoppedAt _ _ t]
  -- Both sides speak of the same failed step, one by its position and one by its place.
  constructor
  · rintro ⟨t, failed, slot, hslot, needs⟩
    obtain ⟨fate', fares'⟩ :=
      undisturbed.exists_faresAt _ (fun _ => pending_of_mem_freshSlots) failed.lt
    exact ⟨slot.place, fate', needs, ⟨t, getElem?_order resolved hslot, fares'⟩,
      fares'.statusAt_iff.mp failed⟩
  · rintro ⟨b, fate', needs, ⟨t, hplace', fares'⟩, failed⟩
    obtain ⟨maker, hmaker⟩ : ∃ maker, pipeline.steps[b]? = some maker :=
      Option.isSome_iff_exists.mp
        (by simpa using lt_of_mem_order resolved (List.mem_of_getElem? hplace'))
    exact ⟨t, fares'.statusAt_iff.mpr failed, _, getElem?_freshSlots resolved hplace' hmaker, needs⟩

variable (outputs : (pipeline.steps.map (·.config.output)).Nodup)

include outputs

/-- What a step has made in the end. -/
theorem records?_lastProgress (has : HasFate env pipeline options order w a fate)
    (hstep : pipeline.steps[a]? = some step) :
    (lastProgress env pipeline options order w).made.records? step.config.output =
      fate.output?.map StepOutput.records := by
  obtain ⟨s, hplace, fares⟩ := has
  have undisturbed := isUndisturbed_ofNewRun neverRefuses neverCancels pipeline options w
  obtain ⟨hs, slot⟩ := List.getElem?_eq_some_iff.mp (getElem?_freshSlots resolved hplace hstep)
  have made := fares.records?_made undisturbed (fun _ => pending_of_mem_freshSlots)
    (fun _ _ => eq_position_of_output resolved outputs) hs hs le_rfl
  rwa [slot] at made

/-- A step that is not skipped is attempted: it finds the sets of other steps under the names of
their outputs, and what was stored at first under the names that no other step writes to. -/
theorem exists_attempt (has : HasFate env pipeline options order w a fate)
    (hstep : pipeline.steps[a]? = some step) (started : fate.status ≠ .skipped) :
    ∃ now find, env.MayShow now ∧ fate = .ofAttempt (step.outcome options.dryRun now find) ∧
      (∀ b other fate', b ≠ a → pipeline.steps[b]? = some other →
        other.config.output ∈ step.config.sources → HasFate env pipeline options order w b fate' →
        find other.config.output =
          (fate'.output?.map StepOutput.records).or (w.stored.records? other.config.output)) ∧
      ∀ name, (∀ b other, b ≠ a → pipeline.steps[b]? = some other → other.config.output ≠ name) →
        find name = w.stored.records? name := by
  obtain ⟨s, hplace, fares⟩ := has
  have undisturbed := isUndisturbed_ofNewRun neverRefuses neverCancels pipeline options w
  obtain ⟨hs, slot⟩ := List.getElem?_eq_some_iff.mp (getElem?_freshSlots resolved hplace hstep)
  have scheduled := scheduled_freshSlots resolved
  obtain ⟨now, shown, hfate⟩ := fares.exists_attempt hs started
  rw [slot] at hfate
  refine ⟨now, _, shown, hfate, ?_, ?_⟩
  · rintro b other fate' different hother reads ⟨t, hplace', fares'⟩
    obtain ⟨ht, slot'⟩ := List.getElem?_eq_some_iff.mp (getElem?_freshSlots resolved hplace' hother)
    -- The step that makes the source stands in front, since the reader depends on it.
    have dependsOn : DependsOn (pipeline.steps.map Node.ofStep) a b :=
      dependsOn_ofStep_iff.mpr ⟨step, other, hstep, hother, .inr ⟨different, reads⟩⟩
    have hts := (resolveOrder_ok resolved).1.lt_of_needs hplace hplace' (.single dependsOn)
    have made := fares'.records?_made undisturbed (fun _ => pending_of_mem_freshSlots)
      (fun _ _ => eq_position_of_output resolved outputs) ht hts hs.le
    rw [slot'] at made
    rw [Collections.found, made]
    rfl
  · intro name unwritten
    have notMade : ((Execution.ofNewRun env pipeline options w).reach (freshSlots pipeline order) {}
        (w.begun env pipeline options) s).1.made.records? name = none := by
      refine Execution.records?_made_eq_none _ _ hs.le fun t hts maker hmaker output => ?_
      have hmade := (mem_freshSlots (List.mem_of_getElem? hmaker)).1
      have at_t := getElem?_order resolved hmaker
      refine unwritten maker.place maker.step ?_ hmade output
      -- The step itself does not stand in front of itself.
      rintro rfl
      have lt := (List.getElem?_eq_some_iff.mp at_t).1
      have := (List.getElem?_inj lt (resolveOrder_ok resolved).1.nodup).mp (at_t.trans hplace.symm)
      omega
    rw [Collections.found, notMade]
    rfl

end HasFate

end

/-- Every result of a run tells the fate of a step. -/
theorem exists_hasFate_of_result (settings : EngineSettings) (neverRefuses : env.NeverRefuses)
    (neverCancels : env.NeverCancels)
    (resolved : resolveOrder (pipeline.steps.map Node.ofStep) = .ok order) {result : StepResult}
    (hmem : result ∈ ((runPipeline (memoryHost env) (aside env.isCancelled) settings pipeline
      options).run w).1.stepResults) :
    ∃ a step fate, pipeline.steps[a]? = some step ∧ HasFate env pipeline options order w a fate ∧
      (⟨a, step, fate⟩ : Episode).IsToldBy result := by
  have ends :=
    runPipeline_endsWith (memoryHost env) (aside env.isCancelled) settings options w resolved
  have undisturbed := isUndisturbed_ofNewRun neverRefuses neverCancels pipeline options w
  rw [ends.stepResults] at hmem
  obtain ⟨s, hresult⟩ := List.getElem?_of_mem hmem
  obtain ⟨hs, -⟩ := Execution.effect_of_result hresult
  obtain ⟨fate, fares⟩ := undisturbed.exists_faresAt _ (fun _ => pending_of_mem_freshSlots) hs
  obtain ⟨same, hsame, told, -⟩ := fares.advances
  obtain rfl := Option.some.inj (hresult.symm.trans hsame)
  have hstep := (mem_freshSlots (List.getElem_mem hs)).1
  exact ⟨_, _, fate, hstep, ⟨s, getElem?_order resolved (List.getElem?_eq_getElem hs), fares⟩, told⟩

/-- A run has a result for every step. -/
theorem perm_stepIds {σ : Type} (host : Host (StateM σ)) (isCancelled : StateM σ Bool)
    (settings : EngineSettings) (options : RunOptions) (w : σ)
    (resolved : resolveOrder (pipeline.steps.map Node.ofStep) = .ok order) :
    (((runPipeline host isCancelled settings pipeline options).run w).1.stepResults.map
      StepResult.stepId).Perm (pipeline.steps.map Step.id) := by
  obtain ⟨scheduled, full⟩ := resolveOrder_ok resolved
  have places := (scheduled.perm_range full).map fun i => (pipeline.steps[i]?).map Step.id
  have ids := runPipeline_stepIds host isCancelled settings options w resolved
  have steps : (List.range (pipeline.steps.map Node.ofStep).length).map
      (fun i => (pipeline.steps[i]?).map Step.id) = (pipeline.steps.map Step.id).map some := by
    refine List.ext_getElem (by simp) fun i hi hi' => ?_
    have lt : i < pipeline.steps.length := by simpa using hi
    simp [List.getElem?_eq_getElem lt]
  refine (List.map_perm_map_iff (Option.some_injective String)).mp ?_
  rw [← steps, List.map_map]
  exact (List.Perm.of_eq ids).trans places

end

/-! ### Two runs of the same steps -/

section

variable {p q : Pipeline} {order order' : List Nat} {options : RunOptions}
  {w w' : World ω} {a b : Nat} {fate fate' : Fate} (reordering : IsReordering p.steps q.steps)
  (neverRefuses : env.NeverRefuses) (neverCancels : env.NeverCancels)
  (resolved : resolveOrder (p.steps.map Node.ofStep) = .ok order)
  (resolved' : resolveOrder (q.steps.map Node.ofStep) = .ok order')

include reordering neverRefuses neverCancels resolved resolved'

namespace HasFate

/-- A step is skipped in both runs or in none, if what it needs has fates of the same kind. -/
theorem status_eq_skipped_iff_of_counterpart (continues : options.continueOnError = true)
    (counterpart : Counterpart p.steps q.steps a b) (has : HasFate env p options order w a fate)
    (has' : HasFate env q options order' w' b fate')
    (same : ∀ c d failed failed', Needs (p.steps.map Node.ofStep) a c →
      Counterpart p.steps q.steps c d → HasFate env p options order w c failed →
      HasFate env q options order' w' d failed' → failed.status = failed'.status) :
    fate.status = .skipped ↔ fate'.status = .skipped := by
  rw [has.status_eq_skipped_iff neverRefuses neverCancels resolved continues,
    has'.status_eq_skipped_iff neverRefuses neverCancels resolved' continues]
  constructor
  · rintro ⟨c, failed, needs, hc, hfailed⟩
    obtain ⟨d, hcd, needs'⟩ := reordering.exists_needs counterpart needs
    obtain ⟨_, _, -, hother, -⟩ := id hcd
    obtain ⟨failed', hd⟩ := exists_hasFate neverRefuses neverCancels resolved' options w' hother
    exact ⟨d, failed', needs', hd, (same c d failed failed' needs hcd hc hd).symm.trans hfailed⟩
  · rintro ⟨d, failed', needs', hd, hfailed⟩
    obtain ⟨c, hdc, needs⟩ := reordering.symm.exists_needs counterpart.symm needs'
    obtain ⟨_, _, -, hstep, -⟩ := id hdc
    obtain ⟨failed, hc⟩ := exists_hasFate neverRefuses neverCancels resolved options w hstep
    exact ⟨c, failed, needs, hc, (same c d failed failed' needs hdc.symm hc hd).trans hfailed⟩

/-- A step that is started in both runs has fates that resemble each other, if the steps on which it
depends have. -/
theorem resembles_of_started (sameStore : w.stored = w'.stored)
    (counterpart : Counterpart p.steps q.steps a b) (has : HasFate env p options order w a fate)
    (has' : HasFate env q options order' w' b fate') (started : fate.status ≠ .skipped)
    (started' : fate'.status ≠ .skipped)
    (same : ∀ c d made made', DependsOn (p.steps.map Node.ofStep) a c →
      Counterpart p.steps q.steps c d → HasFate env p options order w c made →
      HasFate env q options order' w' d made' →
        made.Resembles (p.IsFedTimelessAt env c) (p.IsTimelessAt env c) made') :
    fate.Resembles (p.IsFedTimelessAt env a) (p.IsTimelessAt env a) fate' := by
  obtain ⟨step, other, hstep, hother, unordered⟩ := id counterpart
  obtain ⟨-, config, -⟩ := Step.eq_of_unordered unordered
  obtain ⟨now, find, shown, hfate, ofOthers, ofStore⟩ :=
    has.exists_attempt neverRefuses neverCancels resolved reordering.outputs hstep started
  obtain ⟨now', find', shown', hfate', ofOthers', ofStore'⟩ :=
    has'.exists_attempt neverRefuses neverCancels resolved' reordering.symm.outputs hother started'
  rw [hfate, hfate', ← Step.outcome_of_config config]
  -- What the two runs find under the name of a source decides what the step makes.
  have found : ∀ name ∈ step.config.sources, (find name).isSome = (find' name).isSome ∧
      (p.IsFedTimelessAt env a → find name = find' name) := by
    intro name reads
    by_cases written : ∃ c maker, c ≠ a ∧ p.steps[c]? = some maker ∧ maker.config.output = name
    · obtain ⟨c, maker, different, hmaker, rfl⟩ := written
      obtain ⟨d, hcd⟩ := reordering.exists_counterpart hmaker
      obtain ⟨-, other', -, hother', -⟩ := id hcd
      obtain ⟨-, config', -⟩ := Step.eq_of_unordered (hcd.same hmaker hother')
      have different' : d ≠ b := by
        rintro rfl
        exact different (reordering.eq_of_counterpart hcd counterpart)
      have reads' : other'.config.output ∈ other.config.sources := by
        rw [← config', ← config]
        exact reads
      -- The fates of the maker resemble each other, since the reader depends on it.
      have dependsOn : DependsOn (p.steps.map Node.ofStep) a c :=
        dependsOn_ofStep_iff.mpr ⟨step, maker, hstep, hmaker, .inr ⟨different, reads⟩⟩
      obtain ⟨made, hc⟩ := exists_hasFate neverRefuses neverCancels resolved options w hmaker
      obtain ⟨made', hd⟩ := exists_hasFate neverRefuses neverCancels resolved' options w' hother'
      have alike := same c d made made' dependsOn hcd hc hd
      have found' := ofOthers' d other' made' different' hother' reads' hd
      rw [← config', ← sameStore] at found'
      rw [ofOthers c maker made different hmaker reads hc, found']
      refine ⟨?_, fun fed => ?_⟩
      · rw [Option.isSome_or, Option.isSome_or, Option.isSome_map, Option.isSome_map,
          alike.isSome_output]
      · rw [alike.eq (fed c ⟨step, maker, hstep, hmaker, different, reads⟩)]
    · -- Where no other step writes, both runs find what was stored at first.
      have unwritten : ∀ c maker, c ≠ a → p.steps[c]? = some maker → maker.config.output ≠ name :=
        fun c maker different hmaker output => written ⟨c, maker, different, hmaker, output⟩
      have unwritten' : ∀ d maker, d ≠ b → q.steps[d]? = some maker →
          maker.config.output ≠ name := by
        rintro d maker' different' hmaker' rfl
        obtain ⟨c, hdc⟩ := reordering.symm.exists_counterpart hmaker'
        obtain ⟨-, maker, -, hmaker, -⟩ := id hdc
        obtain ⟨-, config', -⟩ := Step.eq_of_unordered (hdc.same hmaker' hmaker)
        refine unwritten c maker ?_ hmaker (by rw [config'])
        rintro rfl
        exact different' (reordering.symm.eq_of_counterpart hdc counterpart.symm)
      have both : find name = find' name := by
        rw [ofStore name unwritten, ofStore' name unwritten', sameStore]
      exact ⟨by rw [both], fun _ => both⟩
  exact Step.resembles_outcome (.inl rfl) (fun name reads => (found name reads).1)
    (fun fed name reads => (found name reads).2 fed)
    fun timeless => ⟨timeless.fed, timeless.isTimeless hstep now now' shown shown'⟩

/-- **The same fates.** In two runs of the same steps from the same store every step has fates that
resemble each other. -/
theorem resembles_of_counterpart (continues : options.continueOnError = true)
    (sameStore : w.stored = w'.stored) (counterpart : Counterpart p.steps q.steps a b)
    (has : HasFate env p options order w a fate) (has' : HasFate env q options order' w' b fate') :
    fate.Resembles (p.IsFedTimelessAt env a) (p.IsTimelessAt env a) fate' := by
  obtain ⟨s, hplace, -⟩ := id has
  -- All that a step needs stands in front of it, so the fates are compared
  -- in the order of the first run.
  induction s using Nat.strong_induction_on generalizing a b fate fate' with
  | _ s ih =>
    have earlier : ∀ c d made made', Needs (p.steps.map Node.ofStep) a c →
        Counterpart p.steps q.steps c d → HasFate env p options order w c made →
        HasFate env q options order' w' d made' →
          made.Resembles (p.IsFedTimelessAt env c) (p.IsTimelessAt env c) made' := by
      intro c d made made' needs hcd hc hd
      obtain ⟨t, hplace', -⟩ := id hc
      exact ih t ((resolveOrder_ok resolved).1.lt_of_needs hplace hplace' needs) hcd hc hd hplace'
    have skipped_iff :=
      status_eq_skipped_iff_of_counterpart reordering neverRefuses neverCancels resolved resolved'
        continues counterpart has has' fun c d made made' needs hcd hc hd =>
          (earlier c d made made' needs hcd hc hd).status
    by_cases skipped : fate.status = .skipped
    · rw [Fate.eq_skipped_of_status skipped, Fate.eq_skipped_of_status (skipped_iff.mp skipped)]
      exact .refl _ _ _
    · exact resembles_of_started reordering neverRefuses neverCancels resolved resolved' sameStore
        counterpart has has' skipped (mt skipped_iff.mpr skipped)
        fun c d made made' dependsOn => earlier c d made made' (.single dependsOn)

end HasFate

/-- What two runs of the same steps make resembles each other. -/
theorem resembles_made_of_reordering (continues : options.continueOnError = true)
    (sameStore : w.stored = w'.stored) :
    (lastProgress env p options order w).made.Resembles (p.IsTimelessUnder env)
      (lastProgress env q options order' w').made := by
  have made : ∀ name, ((lastProgress env p options order w).made.records? name).isSome =
      ((lastProgress env q options order' w').made.records? name).isSome ∧
      (p.IsTimelessUnder env name → (lastProgress env p options order w).made.records? name =
        (lastProgress env q options order' w').made.records? name) := by
    intro name
    by_cases written : ∃ step ∈ p.steps, name = step.config.output
    · obtain ⟨step, hmem, rfl⟩ := written
      obtain ⟨a, hstep⟩ := List.getElem?_of_mem hmem
      obtain ⟨b, counterpart⟩ := reordering.exists_counterpart hstep
      obtain ⟨-, other, -, hother, -⟩ := id counterpart
      obtain ⟨-, config, -⟩ := Step.eq_of_unordered (counterpart.same hstep hother)
      obtain ⟨fate, has⟩ := exists_hasFate neverRefuses neverCancels resolved options w hstep
      obtain ⟨fate', has'⟩ := exists_hasFate neverRefuses neverCancels resolved' options w' hother
      have alike := has.resembles_of_counterpart reordering neverRefuses
        neverCancels resolved resolved' continues sameStore counterpart has'
      have made :=
        has.records?_lastProgress neverRefuses neverCancels resolved reordering.outputs hstep
      have made' :=
        has'.records?_lastProgress neverRefuses neverCancels resolved'
          reordering.symm.outputs hother
      rw [← config] at made'
      rw [made, made']
      refine ⟨?_, fun timeless => ?_⟩
      · rw [Option.isSome_map, Option.isSome_map, alike.isSome_output]
      · rw [alike.eq (timeless a step hstep rfl)]
    · have unwritten : ∀ step ∈ p.steps, name ≠ step.config.output :=
        fun step hstep output => written ⟨step, hstep, output⟩
      have unwritten' : ∀ other ∈ q.steps, name ≠ other.config.output := by
        intro other hother
        obtain ⟨step, hstep, unordered⟩ := reordering.symm.exists_same hother
        obtain ⟨-, config, -⟩ := Step.eq_of_unordered unordered
        rw [config]
        exact unwritten step hstep
      rw [records?_lastProgress_eq_none options w unwritten,
        records?_lastProgress_eq_none options w' unwritten']
      exact ⟨rfl, fun _ => rfl⟩
  exact ⟨fun name => (made name).1, fun name => (made name).2⟩

/-- So does what they leave. -/
theorem resembles_stored_of_reordering (settings : EngineSettings)
    (continues : options.continueOnError = true) (sameStore : w.stored = w'.stored) :
    ((runPipeline (memoryHost env) (aside env.isCancelled) settings p options).run
      w).2.stored.Resembles (p.IsTimelessUnder env)
      ((runPipeline (memoryHost env) (aside env.isCancelled) settings q options).run
        w').2.stored := by
  have made := resembles_made_of_reordering reordering neverRefuses neverCancels resolved resolved'
    continues sameStore
  have left := stored_runPipeline settings options w neverRefuses neverCancels resolved
  have left' := stored_runPipeline settings options w' neverRefuses neverCancels resolved'
  simp only [← made.mem_iff, ← sameStore] at left'
  constructor
  · intro name
    rw [left, left']
    split
    · rfl
    · split
      · rfl
      · exact made.isSome_found name
  · intro name timeless
    rw [left, left']
    split
    · rfl
    · split
      · rfl
      · exact made.found_eq timeless

end

/-- **The schedule does not matter.** Let two pipelines hold the same steps at different places and
with different order numbers, all with different ids and outputs, and let both have an order. If
nothing disturbs their runs from the same store, which continue on errors, both have a result for
every step, which tells in both whether the step has succeeded and why not, and they leave
collections under the same names. The clock shows a step another time if its turn comes later, which
makes a difference to steps that ask for it. The numbers of records are the same for every step that
does not draw on such a step, directly or through others. The records are the same under a name if
neither they nor steps that draw on them write to it. If the time makes no difference to any step,
every step fares alike in both runs, and they leave the same under every name. -/
theorem reschedule_resembles (env : Environment ω) (settings : EngineSettings)
    (options : RunOptions) {p q : Pipeline} {order order' : List Nat} (w w' : World ω)
    (sameStore : w.stored = w'.stored) (reordering : IsReordering p.steps q.steps)
    (resolved : resolveOrder (p.steps.map Node.ofStep) = .ok order)
    (resolved' : resolveOrder (q.steps.map Node.ofStep) = .ok order')
    (neverRefuses : env.NeverRefuses) (neverCancels : env.NeverCancels)
    (continues : options.continueOnError = true) :
    let ended := (runPipeline (memoryHost env) (aside env.isCancelled) settings p options).run w
    let ended' := (runPipeline (memoryHost env) (aside env.isCancelled) settings q options).run w'
    (ended.1.stepResults.map StepResult.stepId).Perm (ended'.1.stepResults.map StepResult.stepId) ∧
      (∀ a step, p.steps[a]? = some step →
        ∀ result ∈ ended.1.stepResults, ∀ result' ∈ ended'.1.stepResults,
          result.stepId = step.id → result'.stepId = step.id →
            result.Resembles (p.IsFedTimelessAt env a) result') ∧
      ended.2.stored.Resembles (p.IsTimelessUnder env) ended'.2.stored ∧
      (p.IsTimeless env →
        (∀ result ∈ ended.1.stepResults, ∀ result' ∈ ended'.1.stepResults,
          result.stepId = result'.stepId → result.FaresAlike result') ∧
        ∀ name, ended'.2.stored.records? name = ended.2.stored.records? name) := by
  intro ended ended'
  have ids : (ended.1.stepResults.map StepResult.stepId).Perm
      (ended'.1.stepResults.map StepResult.stepId) := by
    have ids : (p.steps.map Step.id).Perm (q.steps.map Step.id) :=
      reordering.perm_map Step.id fun _ => rfl
    exact ((perm_stepIds _ _ settings options w resolved).trans ids).trans
      (perm_stepIds _ _ settings options _ resolved').symm
  -- Every result tells the fate of a step.
  have results : ∀ result ∈ ended.1.stepResults, ∀ result' ∈ ended'.1.stepResults,
      result.stepId = result'.stepId → ∃ a step, p.steps[a]? = some step ∧ result.stepId = step.id ∧
        result.Resembles (p.IsFedTimelessAt env a) result' := by
    intro result hresult result' hresult' same
    obtain ⟨a, step, fate, hstep, has, told⟩ :=
      exists_hasFate_of_result settings neverRefuses neverCancels resolved hresult
    obtain ⟨b, other, fate', hother, has', told'⟩ :=
      exists_hasFate_of_result settings neverRefuses neverCancels resolved' hresult'
    have ids : step.id = other.id := told.stepId.symm.trans (same.trans told'.stepId)
    have counterpart := reordering.counterpart_of_id hstep hother ids
    have fates : fate.Resembles (p.IsFedTimelessAt env a) (p.IsTimelessAt env a) fate' :=
      has.resembles_of_counterpart reordering neverRefuses neverCancels resolved resolved' continues
        sameStore counterpart has'
    obtain ⟨-, config, -⟩ := Step.eq_of_unordered (counterpart.same hstep hother)
    exact ⟨a, step, hstep, told.stepId, told.resembles told' ids (by rw [config]) fates⟩
  have left : ended.2.stored.Resembles (p.IsTimelessUnder env) ended'.2.stored :=
    resembles_stored_of_reordering reordering neverRefuses neverCancels resolved resolved' settings
      continues sameStore
  refine ⟨ids, ?_, left, fun timeless => ⟨?_, fun name => ?_⟩⟩
  · intro a step hstep result hresult result' hresult' id id'
    obtain ⟨c, other, hother, told, alike⟩ :=
      results result hresult result' hresult' (id.trans id'.symm)
    obtain rfl := eq_place_of_nodup reordering.ids hstep hother (id.symm.trans told)
    exact alike
  · intro result hresult result' hresult' same
    obtain ⟨a, -, -, -, alike⟩ := results result hresult result' hresult' same
    exact alike.faresAlike (timeless.isFedTimelessAt a)
  · exact (left.eq name (timeless.isTimelessUnder name)).symm

/-- Three steps, of which the last one finds no source. -/
def inTurn : Pipeline :=
  .ofSteps [.passOn "copy" "users" "copied", .passOn "again" "copied" "twice",
    .passOn "lose" "nowhere" "lost"]

/-- The same steps from the last one to the first one. -/
def outOfTurn : Pipeline :=
  .ofSteps [{ Step.passOn "lose" "nowhere" "lost" with order := 2 },
    { Step.passOn "again" "copied" "twice" with order := 1 }, .passOn "copy" "users" "copied"]

theorem isReordering_inTurn : IsReordering inTurn.steps outOfTurn.steps where
  perm := (List.reverse_perm (inTurn.steps.map Step.unordered)).symm
  ids := by decide
  outputs := by decide

/-- The steps of `stampThenCopy` with the copy in front. -/
def copyThenStamp : Pipeline := .ofSteps [.passOn "copy" "users" "copied", stampStep, earlyStep]

theorem isReordering_stampThenCopy : IsReordering stampThenCopy.steps copyThenStamp.steps where
  perm := (List.perm_append_singleton (Step.passOn "copy" "users" "copied").unordered
    [stampStep.unordered, earlyStep.unordered])
  ids := by decide
  outputs := by decide

theorem reschedule_resembles_ticking :
    Environment.ticking.NeverRefuses ∧ Environment.ticking.NeverCancels ∧
      IsReordering stampThenCopy.steps copyThenStamp.steps ∧
      resolveOrder (stampThenCopy.steps.map Node.ofStep) = .ok [0, 1, 2] ∧
      resolveOrder (copyThenStamp.steps.map Node.ofStep) = .ok [0, 1, 2] ∧
      (let options : RunOptions := { continueOnError := true }
      let ended := (runPipeline (memoryHost .ticking) (aside Environment.ticking.isCancelled) {}
        stampThenCopy options).run aliceAtMidnight
      let ended' := (runPipeline (memoryHost .ticking) (aside Environment.ticking.isCancelled) {}
        copyThenStamp options).run aliceAtMidnight
      (ended.1.stepResults.map StepResult.stepId).Perm
        (ended'.1.stepResults.map StepResult.stepId) ∧
        ended.2.stored.records? "copied" = ended'.2.stored.records? "copied") ∧
      IsReordering inTurn.steps outOfTurn.steps ∧
      resolveOrder (inTurn.steps.map Node.ofStep) = .ok [0, 1, 2] ∧
      resolveOrder (outOfTurn.steps.map Node.ofStep) = .ok [2, 1, 0] ∧
      inTurn.IsTimeless Environment.ticking ∧
      let options : RunOptions := { continueOnError := true }
      let ended := (runPipeline (memoryHost .ticking) (aside Environment.ticking.isCancelled) {}
        inTurn options).run aliceAtMidnight
      let ended' := (runPipeline (memoryHost .ticking) (aside Environment.ticking.isCancelled) {}
        outOfTurn options).run aliceAtMidnight
      (∀ result ∈ ended.1.stepResults, ∀ result' ∈ ended'.1.stepResults,
        result.stepId = result'.stepId → result.FaresAlike result') ∧
        ∀ name, ended'.2.stored.records? name = ended.2.stored.records? name := by
  have never := Environment.neverRefuses_ticking
  have never' := Environment.neverCancels_ticking
  have stamped : resolveOrder (stampThenCopy.steps.map Node.ofStep) = .ok [0, 1, 2] := by rfl
  have stamped' : resolveOrder (copyThenStamp.steps.map Node.ofStep) = .ok [0, 1, 2] := by rfl
  have turned : resolveOrder (inTurn.steps.map Node.ofStep) = .ok [0, 1, 2] := by rfl
  have turned' : resolveOrder (outOfTurn.steps.map Node.ofStep) = .ok [2, 1, 0] := by rfl
  have timeless : inTurn.IsTimeless Environment.ticking :=
    Pipeline.isTimeless_of_not_asksTime .ticking (by decide)
  refine ⟨never, never', isReordering_stampThenCopy, stamped, stamped', ?_,
    isReordering_inTurn, turned, turned', timeless, ?_⟩
  · obtain ⟨ids, -, left, -⟩ := reschedule_resembles .ticking {} { continueOnError := true }
      aliceAtMidnight aliceAtMidnight rfl isReordering_stampThenCopy stamped
      stamped' never never' rfl
    exact ⟨ids, left.eq "copied" (isTimelessUnder_copied .ticking)⟩
  · obtain ⟨-, -, -, same⟩ := reschedule_resembles .ticking {} { continueOnError := true }
      aliceAtMidnight aliceAtMidnight rfl isReordering_inTurn turned turned' never never' rfl
    exact same timeless

/-- Steps whose turns come at other times have other numbers of records, and leave other ones. -/
theorem reschedule_restamps :
    Environment.ticking.NeverRefuses ∧ Environment.ticking.NeverCancels ∧
      IsReordering stampThenCopy.steps copyThenStamp.steps ∧
      resolveOrder (stampThenCopy.steps.map Node.ofStep) = .ok [0, 1, 2] ∧
      resolveOrder (copyThenStamp.steps.map Node.ofStep) = .ok [0, 1, 2] ∧
      let options : RunOptions := { continueOnError := true }
      let ended := (runPipeline (memoryHost .ticking) (aside Environment.ticking.isCancelled) {}
        stampThenCopy options).run aliceAtMidnight
      let ended' := (runPipeline (memoryHost .ticking) (aside Environment.ticking.isCancelled) {}
        copyThenStamp options).run aliceAtMidnight
      ended.1.stepResults.map (fun result => (result.stepId, result.outputRows)) =
          [("stamp", 1), ("early", 1), ("copy", 1)] ∧
        ended'.1.stepResults.map (fun result => (result.stepId, result.outputRows)) =
          [("copy", 1), ("stamp", 1), ("early", 0)] ∧
        (ended.2.stored.records? "early").map List.length = some 1 ∧
        (ended'.2.stored.records? "early").map List.length = some 0 := by
  refine ⟨Environment.neverRefuses_ticking, Environment.neverCancels_ticking,
    isReordering_stampThenCopy, rfl, rfl, ?_⟩
  decide +kernel

end RecordFlow
