import RecordFlow.Proofs.Run.Lockstep
import RecordFlow.Proofs.Run.Sources

/-!
# Running a pipeline again

What a run leaves in the store could mislead a second run only where a step reads what is stored.
But a step reads what is stored only under a name that no other step writes to: a set that another
step makes has been made in the same run. If no step reads its own output either, what is read in
the store is what was stored before the first run, be the outputs kept, overwritten by several steps
or cleaned up. So the second run differs from the first one only in what the clock has a part in: it
is later by then, and a step that computes something from the present time makes something else.

## Main results

* `found_of_rerun` — a step finds in the store what it would have found before the first run
* `resembles_stored_rerun` — what the second run leaves
* `rerun_repeats` — a second run repeats the first one, but for what the clock has a part in
-/

namespace RecordFlow

variable {ω : Type} {env : Environment ω} {pipeline : Pipeline} {order : List Nat}
  {options : RunOptions} {s : Nat} {name : String}

/-- Under the name of a source a step that is started finds, in what the run leaves, the same as
in what was stored at first. -/
theorem found_of_rerun (settings : EngineSettings) (w : World ω)
    (apart : ∀ step ∈ pipeline.steps, step.config.output ∉ step.config.sources)
    (neverRefuses : env.NeverRefuses) (neverCancels : env.NeverCancels)
    (resolved : resolveOrder (pipeline.steps.map Node.ofStep) = .ok order)
    (hs : s < (freshSlots pipeline order).length)
    (started : ¬ (Execution.ofNewRun env pipeline options w).StatusAt (freshSlots pipeline order)
      (w.begun env pipeline options) s .skipped)
    (reads : name ∈ (freshSlots pipeline order)[s].step.config.sources) :
    let made := ((Execution.ofNewRun env pipeline options w).reach (freshSlots pipeline order) {}
      (w.begun env pipeline options) s).1.made
    let left :=
      ((runPipeline (memoryHost env) (aside env.isCancelled) settings pipeline options).run
        w).2.stored
    made.found w.stored name = made.found left name := by
  intro made left
  cases hmade : made.records? name with
  | some records => rw [Collections.found, Collections.found, hmade, Option.some_or, Option.some_or]
  | none =>
    have absent := Collections.records?_eq_none_iff_not_mem.mp hmade
    -- A step that writes to the source would have run in front, so that its set would be there.
    have unwritten : ∀ step ∈ pipeline.steps, name ≠ step.config.output := by
      rintro other hmem rfl
      obtain ⟨a, hother⟩ := List.getElem?_of_mem hmem
      by_cases own : a = (freshSlots pipeline order)[s].place
      · have hstep := (mem_freshSlots (List.getElem_mem hs)).1
        rw [← own, hother] at hstep
        obtain rfl := Option.some.inj hstep
        exact apart _ hmem reads
      · exact absent (Execution.mem_made_of_reads resolved rfl hs started hother own reads)
    have notMade : (lastProgress env pipeline options order w).made.records? name = none :=
      records?_lastProgress_eq_none options w unwritten
    have kept :=
      stored_runPipeline_of_not_made settings options w neverRefuses neverCancels resolved notMade
    rw [Collections.found, Collections.found, kept]

section

variable (settings : EngineSettings) (options : RunOptions) (w : World ω) (around : ω)
  (apart : ∀ step ∈ pipeline.steps, step.config.output ∉ step.config.sources)
  (neverRefuses : env.NeverRefuses) (neverCancels : env.NeverCancels)
  (resolved : resolveOrder (pipeline.steps.map Node.ofStep) = .ok order)

include apart neverRefuses neverCancels resolved

/-- A second run resembles the first one. -/
theorem runPipeline_resembles_rerun :
    let run := (runPipeline (memoryHost env) (aside env.isCancelled) settings pipeline options).run
    (run w).1.Resembles pipeline env (run ⟨(run w).2.stored, around⟩).1 :=
  runPipeline_resembles settings neverRefuses neverCancels resolved rfl (fun _ _ => .inl rfl)
    (fun _ hs started _ =>
      found_of_rerun settings w apart neverRefuses neverCancels resolved hs started)
    fun step hstep => .inl (apart step hstep)

/-- What a second run has made in the end resembles what the first one has made. -/
theorem resembles_made_rerun :
    let left :=
      ((runPipeline (memoryHost env) (aside env.isCancelled) settings pipeline options).run
        w).2.stored
    (lastProgress env pipeline options order w).made.Resembles (pipeline.IsTimelessUnder env)
      (lastProgress env pipeline options order ⟨left, around⟩).made := by
  intro left
  have alike : (lastProgress env pipeline options order w).Resembles pipeline env
      (lastProgress env pipeline options order ⟨left, around⟩) :=
    resembles_lastProgress neverRefuses neverCancels rfl (fun _ _ => .inl rfl)
      (fun _ hs started _ =>
        found_of_rerun settings w apart neverRefuses neverCancels resolved hs started)
      fun step hstep => .inl (apart step hstep)
  exact alike.made

/-- A second run leaves under a name what the first one has left, or covers a set
that the first one has made. -/
theorem stored_rerun_cases (name : String) :
    let run := (runPipeline (memoryHost env) (aside env.isCancelled) settings pipeline options).run
    let left := (run w).2.stored
    let left' := (run ⟨left, around⟩).2.stored
    left'.records? name = left.records? name ∨
      left.records? name = (lastProgress env pipeline options order w).made.found w.stored name ∧
      left'.records? name =
        (lastProgress env pipeline options order ⟨left, around⟩).made.found left name := by
  intro run left left'
  have mem_iff : name ∈ (lastProgress env pipeline options order w).made.map Prod.fst ↔
      name ∈ (lastProgress env pipeline options order ⟨left, around⟩).made.map Prod.fst :=
    (resembles_made_rerun settings options w around apart neverRefuses
      neverCancels resolved).mem_iff
  have hleft := stored_runPipeline settings options w neverRefuses neverCancels resolved name
  have hleft' :=
    stored_runPipeline settings options ⟨left, around⟩ neverRefuses neverCancels resolved name
  simp only [← mem_iff] at hleft'
  by_cases dropped : options.cleanup = true ∧ isTemporary settings name = true ∧
      name ∈ (lastProgress env pipeline options order w).made.map Prod.fst
  · exact .inl ((hleft'.trans (if_pos dropped)).trans (hleft.trans (if_pos dropped)).symm)
  · have kept := hleft.trans (if_neg dropped)
    have kept' := hleft'.trans (if_neg dropped)
    by_cases dry : options.dryRun = true
    · exact .inl (kept'.trans (if_pos dry))
    · exact .inr ⟨kept.trans (if_neg dry), kept'.trans (if_neg dry)⟩

/-- What a second run leaves resembles what the first one has left. -/
theorem resembles_stored_rerun :
    let run := (runPipeline (memoryHost env) (aside env.isCancelled) settings pipeline options).run
    (run w).2.stored.Resembles (pipeline.IsTimelessUnder env)
      (run ⟨(run w).2.stored, around⟩).2.stored := by
  have made :=
    resembles_made_rerun settings options w around apart neverRefuses neverCancels resolved
  have cases :=
    stored_rerun_cases settings options w around apart neverRefuses neverCancels resolved
  constructor
  · intro name
    rcases cases name with same | ⟨left, left'⟩
    · rw [same]
    · rw [left', Collections.found, Option.isSome_or, ← made.isSome, left, Collections.found,
        Option.isSome_or, ← Bool.or_assoc, Bool.or_self]
  · intro name timeless
    rcases cases name with same | ⟨left, left'⟩
    · rw [same]
    · rw [left', Collections.found, ← made.eq name timeless, left, Collections.found,
        ← Option.or_assoc, Option.or_self]

end

/-- **A second run repeats the first one.** Let no step read its own output, and let nothing disturb
the runs. Whatever else the second run finds around the store that the first one has left: it tells
the same of itself, and of every step whether it has succeeded and why not, and it leaves
collections under the same names. The clock shows another time by then, which makes a difference to
steps that ask for it. The numbers of records are the same for every step that does not draw on such
a step, directly or through others. The records are the same under a name if neither they nor steps
that draw on them write to it. If the time makes no difference to any step, the second run fares
alike, and it leaves under every name what the first one has left. -/
theorem rerun_repeats (env : Environment ω) (settings : EngineSettings) (pipeline : Pipeline)
    (options : RunOptions) (w : World ω) (around : ω)
    (apart : ∀ step ∈ pipeline.steps, step.config.output ∉ step.config.sources)
    (neverRefuses : env.NeverRefuses) (neverCancels : env.NeverCancels) :
    let run := (runPipeline (memoryHost env) (aside env.isCancelled) settings pipeline options).run
    let first := run w
    let second := run ⟨first.2.stored, around⟩
    first.1.Resembles pipeline env second.1 ∧
      first.2.stored.Resembles (pipeline.IsTimelessUnder env) second.2.stored ∧
      (pipeline.IsTimeless env → first.1.FaresAlike second.1 ∧
        ∀ name, second.2.stored.records? name = first.2.stored.records? name) := by
  intro run first second
  obtain ⟨alike, left⟩ : first.1.Resembles pipeline env second.1 ∧
      first.2.stored.Resembles (pipeline.IsTimelessUnder env) second.2.stored := by
    cases resolved : resolveOrder (pipeline.steps.map Node.ofStep) with
    | error cycle =>
      refine ⟨runPipeline_resembles_of_error env settings options options _ _ resolved, ?_⟩
      have unchanged : second.2.stored = first.2.stored :=
        stored_runPipeline_of_error env settings options ⟨first.2.stored, around⟩ resolved
      rw [unchanged]
      exact .refl _ _
    | ok order =>
      exact ⟨runPipeline_resembles_rerun settings options w around apart
        neverRefuses neverCancels resolved,
        resembles_stored_rerun settings options w around apart neverRefuses neverCancels resolved⟩
  refine ⟨alike, left, fun timeless => ⟨alike.faresAlike timeless, fun name => ?_⟩⟩
  exact (left.eq name (timeless.isTimelessUnder name)).symm

/-- Two steps that pass records on through a temporary set. -/
def throughTemporary : Pipeline :=
  .ofSteps [.passOn "last" "_tmp_chosen" "copied", .passOn "first" "users" "_tmp_chosen"]

theorem rerun_repeats_ticking :
    Environment.ticking.NeverRefuses ∧ Environment.ticking.NeverCancels ∧
      (∀ step ∈ stampThenCopy.steps, step.config.output ∉ step.config.sources) ∧
      (let run := (runPipeline (memoryHost .ticking) (aside Environment.ticking.isCancelled) {}
        stampThenCopy {}).run
      let first := run aliceAtMidnight
      let second := run ⟨first.2.stored, 60⟩
      first.1.Resembles stampThenCopy .ticking second.1 ∧
        first.2.stored.records? "copied" = second.2.stored.records? "copied") ∧
      (∀ step ∈ throughTemporary.steps, step.config.output ∉ step.config.sources) ∧
      throughTemporary.IsTimeless Environment.ticking ∧
      let run := (runPipeline (memoryHost .ticking) (aside Environment.ticking.isCancelled) {}
        throughTemporary { cleanup := true }).run
      let first := run aliceAtMidnight
      let second := run ⟨first.2.stored, 60⟩
      first.1.FaresAlike second.1 ∧
        ∀ name, second.2.stored.records? name = first.2.stored.records? name := by
  have apart : ∀ step ∈ stampThenCopy.steps, step.config.output ∉ step.config.sources := by decide
  have apart' : ∀ step ∈ throughTemporary.steps,
      step.config.output ∉ step.config.sources := by decide
  have timeless : throughTemporary.IsTimeless Environment.ticking :=
    Pipeline.isTimeless_of_not_asksTime .ticking (by decide)
  have never := Environment.neverRefuses_ticking
  have never' := Environment.neverCancels_ticking
  refine ⟨never, never', apart, ?_, apart', timeless, ?_⟩
  · obtain ⟨alike, left, -⟩ :=
      rerun_repeats .ticking {} stampThenCopy {} aliceAtMidnight 60 apart never never'
    exact ⟨alike, left.eq "copied" (isTimelessUnder_copied .ticking)⟩
  · obtain ⟨-, -, same⟩ := rerun_repeats .ticking {} throughTemporary
      { cleanup := true } aliceAtMidnight 60 apart' never never'
    exact same timeless

/-- A second run has other numbers of records, and leaves other ones, if it
stamps them at another time. -/
theorem rerun_restamps :
    (∀ step ∈ stampThenCopy.steps, step.config.output ∉ step.config.sources) ∧
      Environment.ticking.NeverRefuses ∧ Environment.ticking.NeverCancels ∧
      let run := (runPipeline (memoryHost .ticking) (aside Environment.ticking.isCancelled) {}
        stampThenCopy {}).run
      let first := run aliceAtMidnight
      let second := run first.2
      first.1.stepResults.map StepResult.outputRows = [1, 1, 1] ∧
        second.1.stepResults.map StepResult.outputRows = [1, 0, 1] ∧
        (first.2.stored.records? "early").map List.length = some 1 ∧
        (second.2.stored.records? "early").map List.length = some 0 := by
  refine ⟨by decide, Environment.neverRefuses_ticking, Environment.neverCancels_ticking, ?_⟩
  decide +kernel

end RecordFlow
