import RecordFlow.Proofs.Run.Attempt
import RecordFlow.Proofs.Run.NewRun

/-!
# A run as an interpretation of its steps

What a run does can be told without a store that changes. An interpreter goes through the steps
with what is stored at first, and with the history of the steps that it has dealt with: a step
finds what the last completed step in the history has made under a name, or else what is stored
there at first. A run on a store that refuses nothing, which keeps what it makes and is never
cancelled, fares like that step by step, although the sets that it has made and the collections
that it replaces are read side by side.

## Main definitions

* `Episode` — a step with its fate, and `Episode.IsToldBy` — a result tells it
* `lastMade?` — what the last completed step in a history has made under a name
* `Interpreter` — an interpreter, with `Interpreter.found`,
  `Interpreter.episode` and `Interpreter.history`
* `Interpreter.Follows` — a run fares as the history tells

## Main results

* `lastMade?_eq_some_iff` — which step a set is of
* `Execution.Turn.exists_follows` — every turn adds the episode of its step to the history
* `runPipeline_interprets` — a run fares as its interpretation, and leaves what that has made
-/

namespace RecordFlow

variable {ω : Type} {env : Environment ω}

/-- How a step fares in an interpretation. -/
inductive Fate where
  | completed (output : StepOutput)
  | failed (error : StepError)
  | skipped

namespace Fate

/-- The fate of a step that is attempted. -/
def ofAttempt : Except StepError StepOutput → Fate
  | .ok output => completed output
  | .error error => failed error

/-- What the step has made. -/
def output? : Fate → Option StepOutput
  | completed output => some output
  | _ => none

/-- Why the step has failed. -/
def error? : Fate → Option StepError
  | failed error => some error
  | _ => none

/-- The status of a step with this fate. -/
def status : Fate → StepStatus
  | completed _ => .completed
  | failed _ => .failed
  | skipped => .skipped

end Fate

/-- A step that an interpreter has dealt with, with its place in the pipeline. -/
structure Episode where
  place : Nat
  step : Step
  fate : Fate

/-- What a step has made, if it is of this name. -/
def Episode.madeAs? (episode : Episode) (name : String) : Option (List Record) :=
  if episode.step.config.output = name then episode.fate.output?.map StepOutput.records else none

/-- What the last of the completed steps with this output has made. -/
def lastMade? (history : List Episode) (name : String) : Option (List Record) :=
  history.reverse.findSome? (·.madeAs? name)

/-- A result tells an episode. -/
structure Episode.IsToldBy (episode : Episode) (result : StepResult) : Prop where
  stepId : result.stepId = episode.step.id
  output : result.output = episode.step.config.output
  status : result.status = episode.fate.status
  inputRows : result.inputRows = (episode.fate.output?.map StepOutput.inputRows).getD 0
  outputRows : result.outputRows = (episode.fate.output?.map (·.records.length)).getD 0
  error : result.error = episode.fate.error?.map StepError.message

/-- What an interpreter starts with. -/
structure Interpreter where
  nodes : List Node
  continueOnError : Bool
  initial : Collections

namespace Interpreter

/-- The interpreter of a pipeline. -/
def ofPipeline (pipeline : Pipeline) (options : RunOptions) (initial : Collections) : Interpreter :=
  ⟨pipeline.steps.map Node.ofStep, options.continueOnError, initial⟩

/-- What is found under a name behind some steps. -/
def found (interpreter : Interpreter) (history : List Episode) (name : String) :
    Option (List Record) :=
  (lastMade? history name).or (interpreter.initial.records? name)

/-- A step keeps the one at a place from running: it has failed, and the run halts on errors
or the place depends on it. -/
def Hinders (interpreter : Interpreter) (episode : Episode) (place : Nat) : Prop :=
  episode.fate.status = .failed ∧
    (interpreter.continueOnError = false ∨ place ∈ dependents interpreter.nodes episode.place)

instance (interpreter : Interpreter) (episode : Episode) (place : Nat) :
    Decidable (interpreter.Hinders episode place) :=
  inferInstanceAs (Decidable (_ ∧ _))

/-- Deals with a step at a time. -/
def episode (interpreter : Interpreter) (now : Timestamp) (history : List Episode) (place : Nat)
    (step : Step) : Episode :=
  ⟨place, step, if ∃ earlier ∈ history, interpreter.Hinders earlier place then .skipped
    else .ofAttempt (step.attempt now (interpreter.found history))⟩

/-- Deals with the steps in front of a position. -/
def history (interpreter : Interpreter) (times : Nat → Timestamp) (steps : List (Nat × Step)) :
    Nat → List Episode
  | 0 => []
  | s + 1 =>
    let earlier := interpreter.history times steps s
    match steps[s]? with
    | some (place, step) => earlier ++ [interpreter.episode (times s) earlier place step]
    | none => earlier

end Interpreter

/-! ### Histories -/

theorem lastMade?_concat (history : List Episode) (episode : Episode) (name : String) :
    lastMade? (history ++ [episode]) name = (episode.madeAs? name).or (lastMade? history name) := by
  rw [lastMade?, List.reverse_concat, List.findSome?_cons]
  cases episode.madeAs? name <;> rfl

/-- The last of the completed steps with an output has none of that output behind it. -/
theorem lastMade?_eq_some_iff {history : List Episode} {name : String} {records : List Record} :
    lastMade? history name = some records ↔ ∃ earlier episode later,
      history = earlier ++ episode :: later ∧ episode.madeAs? name = some records ∧
        ∀ other ∈ later, other.madeAs? name = none := by
  rw [lastMade?, List.findSome?_eq_some_iff]
  constructor
  · rintro ⟨later, episode, earlier, hsplit, hmade, hnone⟩
    refine ⟨earlier.reverse, episode, later.reverse, ?_, hmade, by simpa using hnone⟩
    rw [← List.reverse_reverse history, hsplit]
    simp
  · rintro ⟨earlier, episode, later, rfl, hmade, hnone⟩
    exact ⟨later.reverse, episode, earlier.reverse, by simp, hmade, by simpa using hnone⟩

theorem Episode.madeAs?_of_not_completed {episode : Episode} (h : episode.fate.output? = none)
    (name : String) : episode.madeAs? name = none := by
  simp [madeAs?, h]

theorem Episode.madeAs?_completed (place : Nat) (step : Step) (output : StepOutput)
    (name : String) : (⟨place, step, .completed output⟩ : Episode).madeAs? name =
      if name = step.config.output then some output.records else none := by
  simp [madeAs?, Fate.output?, eq_comm]

namespace Interpreter

theorem exists_hinders_concat {interpreter : Interpreter}
    {history : List Episode} {episode : Episode} {place : Nat} :
    (∃ earlier ∈ history ++ [episode], interpreter.Hinders earlier place) ↔
      (∃ earlier ∈ history, interpreter.Hinders earlier place) ∨
        interpreter.Hinders episode place := by
  simp only [List.mem_append, List.mem_singleton, or_and_right, exists_or, exists_eq_left]

/-- A run has fared as a history tells: its results, the sets that it has made, what is stored and
what is kept from running are those of the history. -/
structure Follows (interpreter : Interpreter) (history : List Episode) (progress : Progress)
    (stored : Collections) : Prop where
  results : List.Forall₂ Episode.IsToldBy history progress.results
  made : ∀ name, progress.made.records? name = lastMade? history name
  stored : ∀ name, stored.records? name = interpreter.found history name
  cancelled : progress.cancelled = false
  hindered : ∀ place, progress.halted = true ∨ place ∈ progress.tainted ↔
    ∃ earlier ∈ history, interpreter.Hinders earlier place

variable {interpreter : Interpreter} {history : List Episode} {progress : Progress}
  {stored : Collections} {place : Nat} {step : Step}

namespace Follows

theorem start (interpreter : Interpreter) : interpreter.Follows [] {} interpreter.initial where
  results := .nil
  made _ := rfl
  stored _ := rfl
  cancelled := rfl
  hindered _ := by simp

/-- What a step finds is what the history tells, in the run and in the store alike. -/
theorem found_eq (h : interpreter.Follows history progress stored) :
    progress.made.found stored = interpreter.found history := by
  funext name
  rw [Collections.found, h.made, h.stored, found, ← Option.or_assoc, Option.or_self]

/-- A skipped step adds its result and nothing else. -/
theorem skip (h : interpreter.Follows history progress stored) (place : Nat) (step : Step) :
    interpreter.Follows (history ++ [⟨place, step, .skipped⟩])
      (({ progress with cancelled := false }).add (StepResult.pending step).skip) stored := by
  have nothing : ∀ name, (⟨place, step, .skipped⟩ : Episode).madeAs? name = none :=
    Episode.madeAs?_of_not_completed rfl
  constructor
  case results => exact List.rel_append h.results (.cons ⟨rfl, rfl, rfl, rfl, rfl, rfl⟩ .nil)
  case made => simpa only [Progress.add, lastMade?_concat, nothing, Option.none_or] using h.made
  case stored => simpa only [found, lastMade?_concat, nothing, Option.none_or] using h.stored
  case cancelled => rfl
  case hindered =>
    intro other
    -- Only a step that has failed hinders another one.
    rw [exists_hinders_concat, ← h.hindered other]
    simp [Hinders, Fate.status, Progress.add]

/-- A completed step replaces the set and the collection of its output. -/
theorem complete (h : interpreter.Follows history progress stored) (place : Nat) (step : Step)
    (output : StepOutput) (started ended : Timestamp) :
    interpreter.Follows (history ++ [⟨place, step, .completed output⟩])
      (({ progress with
          cancelled := false
          made := progress.made.put step.config.output output.records }).add
        (((StepResult.pending step).start started).complete output.inputRows output.records.length
          ended))
      (stored.put step.config.output output.records) := by
  constructor
  case results => exact List.rel_append h.results (.cons ⟨rfl, rfl, rfl, rfl, rfl, rfl⟩ .nil)
  case made =>
    intro name
    rw [lastMade?_concat, Episode.madeAs?_completed, ← h.made name]
    exact Collections.records?_put.trans (by split <;> rfl)
  case stored =>
    intro name
    rw [Collections.records?_put, found, lastMade?_concat, Episode.madeAs?_completed, h.stored name]
    split <;> rfl
  case cancelled => rfl
  case hindered =>
    intro other
    rw [exists_hinders_concat, ← h.hindered other]
    simp [Hinders, Fate.status, Progress.add]

/-- A failed step hinders what depends on it, or everything behind it. -/
theorem fail (h : interpreter.Follows history progress stored) (place : Nat) (step : Step)
    (error : StepError) (started ended : Timestamp) (text : Option String) :
    interpreter.Follows (history ++ [⟨place, step, .failed error⟩])
      (({ progress with
          cancelled := false
          tainted := progress.tainted ++ dependents interpreter.nodes place
          halted := progress.halted || !interpreter.continueOnError
          error := text }).add
        (((StepResult.pending step).start started).fail error.message ended)) stored := by
  have nothing : ∀ name, (⟨place, step, .failed error⟩ : Episode).madeAs? name = none :=
    Episode.madeAs?_of_not_completed rfl
  constructor
  case results => exact List.rel_append h.results (.cons ⟨rfl, rfl, rfl, rfl, rfl, rfl⟩ .nil)
  case made => simpa only [Progress.add, lastMade?_concat, nothing, Option.none_or] using h.made
  case stored => simpa only [found, lastMade?_concat, nothing, Option.none_or] using h.stored
  case cancelled => rfl
  case hindered =>
    intro other
    rw [exists_hinders_concat, ← h.hindered other]
    simp only [Hinders, Fate.status, Progress.add, Bool.or_eq_true,
      Bool.not_eq_true', List.mem_append, true_and]
    exact or_or_or_comm

end Follows

end Interpreter

/-! ### Turns -/

/-- A run is never cancelled. -/
def Environment.NeverCancels (env : Environment ω) : Prop :=
  ∀ around, (env.isCancelled.run around).1 = false

namespace Execution

variable {execution : Execution (StateM (World ω))} {slot : Slot} {progress : Progress}
  {history : List Episode} {initial : Collections} {w w' : World ω}

/-- The interpreter that an execution is compared with. -/
def interpreter (execution : Execution (StateM (World ω))) (initial : Collections) : Interpreter :=
  ⟨execution.nodes, execution.options.continueOnError, initial⟩

/-- What an execution is like that an interpreter can tell. -/
structure IsPlain (execution : Execution (StateM (World ω))) (env : Environment ω) : Prop where
  runsIn : execution.RunsIn env
  neverRefuses : env.NeverRefuses
  neverCancels : env.NeverCancels
  keeps : execution.options.dryRun = false

theorem isStopped_eq_false (inMemory : execution.RunsIn env) (never : env.NeverCancels)
    (w : World ω) (h : progress.cancelled = false) : execution.isStopped progress w = false := by
  rw [isStopped, h, inMemory.isCancelled]
  exact never w.around

/-- A step is kept from running by the steps in the history alone. -/
theorem IsPlain.blocked_iff (plain : execution.IsPlain env)
    (h : (execution.interpreter initial).Follows history progress w.stored) :
    execution.Blocked slot progress w ↔
      ∃ earlier ∈ history, (execution.interpreter initial).Hinders earlier slot.place := by
  rw [Blocked, isStopped_eq_false plain.runsIn plain.neverCancels w h.cancelled, ← h.hindered]
  simp

/-- A started step makes what the interpreter attempts, at a time that the clock shows. -/
theorem IsPlain.attempt_eq (plain : execution.IsPlain env) {made : Collections} {step : Step}
    {result : Except StepError StepOutput}
    (ran : (execution.executeStep made step).run.run w = (result, w')) : ∃ now, env.MayShow now ∧
      step.attempt now (made.found w.stored) = result ∧
      w'.stored = w.stored.keep step.config.output result := by
  obtain ⟨around, now, shown, hrun⟩ :=
    executeStep_run plain.runsIn plain.neverRefuses plain.keeps made step w
  obtain ⟨rfl, rfl⟩ := Prod.mk.inj (hrun.symm.trans ran)
  exact ⟨now, shown, rfl, rfl⟩

/-- **One step.** The turn of a step adds its episode to every history that the run has followed. -/
theorem Turn.exists_follows {after : Progress × World ω} (plain : execution.IsPlain env)
    (turn : execution.Turn slot progress w after) (hpending : slot.pending = .pending slot.step) :
    ∃ now, env.MayShow now ∧ ∀ history,
      (execution.interpreter initial).Follows history progress w.stored →
      (execution.interpreter initial).Follows
        (history ++ [(execution.interpreter initial).episode now history slot.place slot.step])
        after.1 after.2.stored := by
  cases turn with
  | skipped blocked quiet =>
    refine ⟨_, ⟨w.around, rfl⟩, fun history h => ?_⟩
    rw [quiet.stored plain.runsIn, isStopped_eq_false plain.runsIn plain.neverCancels w h.cancelled,
      hpending, Interpreter.episode, if_pos ((plain.blocked_iff h).mp blocked)]
    exact h.skip slot.place slot.step
  | @completed w₁ _ output started ended free ran quiet =>
    obtain ⟨now, shown, hattempt, hstored⟩ := plain.attempt_eq ran
    refine ⟨now, shown, fun history h => ?_⟩
    rw [stored_attemptIn plain.runsIn] at hattempt hstored
    rw [quiet.stored plain.runsIn, hstored, hpending, Interpreter.episode,
      if_neg (mt (plain.blocked_iff h).mpr free), ← h.found_eq, hattempt]
    exact h.complete slot.place slot.step output started ended
  | @failed w₁ _ error started ended free ran quiet =>
    obtain ⟨now, shown, hattempt, hstored⟩ := plain.attempt_eq ran
    refine ⟨now, shown, fun history h => ?_⟩
    rw [stored_attemptIn plain.runsIn] at hattempt hstored
    rw [quiet.stored plain.runsIn, hstored, hpending, Interpreter.episode,
      if_neg (mt (plain.blocked_iff h).mpr free), ← h.found_eq, hattempt]
    exact h.fail slot.place slot.step error started ended _

variable {pipeline : Pipeline} {order : List Nat} {options : RunOptions} {s : Nat}

theorem getElem?_stepsAt (hs : s < (freshSlots pipeline order).length) :
    (stepsAt pipeline.steps order)[s]? =
      some ((freshSlots pipeline order)[s].place, (freshSlots pipeline order)[s].step) := by
  have hlt : s < (stepsAt pipeline.steps order).length := by simpa [freshSlots] using hs
  rw [List.getElem?_eq_getElem hlt]
  simp [freshSlots]

/-- **Any number of steps.** In front of every step the run has fared as its interpretation. -/
theorem IsPlain.exists_follows_reach (plain : execution.IsPlain env)
    (pipeline : Pipeline) (order : List Nat) (w : World ω) :
    ∃ times : Nat → Timestamp, (∀ s, env.MayShow (times s)) ∧
      ∀ s ≤ (freshSlots pipeline order).length,
        (execution.interpreter w.stored).Follows
          ((execution.interpreter w.stored).history times (stepsAt pipeline.steps order) s)
          (execution.reach (freshSlots pipeline order) {} w s).1
          (execution.reach (freshSlots pipeline order) {} w s).2.stored := by
  -- The time of a turn is the same for every history, so the times can be chosen one by one.
  have turns : ∀ s, ∃ now, env.MayShow now ∧ ∀ hs : s < (freshSlots pipeline order).length,
      ∀ history, (execution.interpreter w.stored).Follows history
        (execution.reach (freshSlots pipeline order) {} w s).1
        (execution.reach (freshSlots pipeline order) {} w s).2.stored →
      (execution.interpreter w.stored).Follows
        (history ++ [(execution.interpreter w.stored).episode now history
          (freshSlots pipeline order)[s].place (freshSlots pipeline order)[s].step])
        (execution.reach (freshSlots pipeline order) {} w (s + 1)).1
        (execution.reach (freshSlots pipeline order) {} w (s + 1)).2.stored := by
    intro s
    by_cases hs : s < (freshSlots pipeline order).length
    · obtain ⟨now, shown, follows⟩ := (execution.reach_turn {} w hs).exists_follows
        plain (mem_freshSlots (List.getElem_mem hs)).2
      exact ⟨now, shown, fun _ => follows⟩
    · exact ⟨_, ⟨w.around, rfl⟩, fun h => absurd h hs⟩
  choose times shown follows using turns
  refine ⟨times, shown, fun s hs => ?_⟩
  induction s with
  | zero => exact .start (execution.interpreter w.stored)
  | succ s ih =>
    rw [Interpreter.history, getElem?_stepsAt hs]
    exact follows s hs _ (ih (by omega))

end Execution

/-! ### Runs -/

/-- What the processor of a configuration receives when a run comes to the step at a position,
whatever is around the store then. -/
def receivedInFront (env : Environment ω) (pipeline : Pipeline)
    (options : RunOptions) (order : List Nat) (w : World ω) (s : Nat) (config : StepConfig)
    (around : ω) : Except StepError (List (List Record)) :=
  let progress :=
    ((runUpTo (memoryHost env) (aside env.isCancelled) pipeline options order s).run w).1
  ((resolveSources (memoryHost env).store progress.made config.sources).run.run
    ⟨storedInFront env pipeline options order w s, around⟩).1

theorem exists_follows_runUpTo {pipeline : Pipeline} {order : List Nat} {options : RunOptions}
    (w : World ω) (resolved : resolveOrder (pipeline.steps.map Node.ofStep) = .ok order)
    (neverRefuses : env.NeverRefuses) (neverCancels : env.NeverCancels)
    (wet : options.dryRun = false) : ∃ times : Nat → Timestamp, (∀ s, env.MayShow (times s)) ∧
      ∀ s ≤ (stepsAt pipeline.steps order).length,
        (Interpreter.ofPipeline pipeline options w.stored).Follows
          ((Interpreter.ofPipeline pipeline options w.stored).history times
            (stepsAt pipeline.steps order) s)
          ((runUpTo (memoryHost env) (aside env.isCancelled) pipeline options order s).run w).1
          (storedInFront env pipeline options order w s) := by
  have plain : (Execution.ofRun (memoryHost env) (aside env.isCancelled) pipeline
      ((beginRun (memoryHost env) pipeline options).run w).1 options).IsPlain env :=
    ⟨Execution.runsIn_ofRun env pipeline _ options, neverRefuses, neverCancels, wet⟩
  obtain ⟨times, shown, follows⟩ := plain.exists_follows_reach pipeline order
    ((beginRun (memoryHost env) pipeline options).run w).2
  refine ⟨times, shown, fun s hs => ?_⟩
  rw [storedInFront, runUpTo_run _ _ options w s resolved]
  exact follows s (by simpa [freshSlots] using hs)

/-- **A run interprets its steps.** On a store that refuses nothing, a run that is never cancelled,
keeps what it makes and does not clean up fares as its interpreter tells: every result tells its
episode, every step receives the sets that the history in front of it and the initial collections
tell, and in the end what is stored under a name is what the last completed step with this output
has made, or else what was stored at first. -/
theorem runPipeline_interprets {pipeline : Pipeline} {order : List Nat} (env : Environment ω)
    (settings : EngineSettings) (options : RunOptions) (w : World ω)
    (resolved : resolveOrder (pipeline.steps.map Node.ofStep) = .ok order)
    (neverRefuses : env.NeverRefuses) (neverCancels : env.NeverCancels)
    (wet : options.dryRun = false) (keeps : options.cleanup = false) :
    let ended :=
      (runPipeline (memoryHost env) (aside env.isCancelled) settings pipeline options).run w
    let interpreter := Interpreter.ofPipeline pipeline options w.stored
    let steps := stepsAt pipeline.steps order
    ∃ times : Nat → Timestamp, (∀ s, env.MayShow (times s)) ∧
      List.Forall₂ Episode.IsToldBy (interpreter.history times steps steps.length)
      ended.1.stepResults ∧ (∀ s place step, steps[s]? = some (place, step) → ∀ around,
        receivedInFront env pipeline options order w s step.config around =
          step.config.sources.mapM
          (sourceIn (interpreter.found (interpreter.history times steps s)))) ∧
      ∀ name, ended.2.stored.records? name =
        interpreter.found (interpreter.history times steps steps.length) name := by
  intro ended interpreter steps
  obtain ⟨times, shown, follows⟩ :=
    exists_follows_runUpTo w resolved neverRefuses neverCancels wet
  have length : steps.length = order.length := by
    rw [← length_freshSlots resolved, freshSlots, List.length_map]
  have course :=
    runPipeline_of_ok (memoryHost env) (aside env.isCancelled) settings options w resolved
  rw [← length] at course
  refine ⟨times, shown, ?_, fun s place step hstep around => ?_, fun name => ?_⟩
  · simp only [ended, course, stepResults_endRun]
    exact (follows _ le_rfl).results
  · have hs : s < steps.length := (List.getElem?_eq_some_iff.mp hstep).1
    obtain ⟨_, hreceived⟩ := resolveSources_run neverRefuses
      ((runUpTo (memoryHost env) (aside env.isCancelled) pipeline options order s).run w).1.made
      step.config.sources ⟨storedInFront env pipeline options order w s, around⟩
    rw [receivedInFront, hreceived, (follows s hs.le).found_eq]
  · simp only [ended, course]
    rw [stored_endRun_of_not_cleanup env settings pipeline _ _ _ keeps]
    exact (follows _ le_rfl).stored name

theorem Environment.neverRefuses_calm : Environment.calm.NeverRefuses := fun _ _ => rfl

theorem Environment.neverCancels_calm : Environment.calm.NeverCancels := fun _ => rfl

/-- Two steps of which the second one reads its own output, which the first one has made. -/
def chosenTwice : Pipeline :=
  .ofSteps [.passOn "choose" "users" "chosen", .passOn "again" "chosen" "chosen"]

/-- A collection with two users, and one with what was chosen before. -/
def usersAndChosen : Collections :=
  [("users", [[("name", .text "Alice")], [("name", .text "Carol")]]),
    ("chosen", [[("name", .text "Bob")]])]

theorem chosenTwice_interprets :
    resolveOrder (chosenTwice.steps.map Node.ofStep) = .ok [0, 1] ∧
      Environment.calm.NeverRefuses ∧ Environment.calm.NeverCancels ∧
      ∃ times : Nat → Timestamp,
        let interpreter := Interpreter.ofPipeline chosenTwice {} usersAndChosen
        let history := interpreter.history times (stepsAt chosenTwice.steps [0, 1]) 2
        (∀ name, ((runPipeline (memoryHost .calm) (aside Environment.calm.isCancelled) {}
            chosenTwice {}).run ⟨usersAndChosen, ()⟩).2.stored.records? name =
          interpreter.found history name) ∧
          (interpreter.found history "chosen").map (List.map (List.map (·.2.toText))) =
            some [["Alice"], ["Carol"]] := by
  have resolved : resolveOrder (chosenTwice.steps.map Node.ofStep) = .ok [0, 1] := rfl
  obtain ⟨times, -, -, -, stored⟩ := runPipeline_interprets .calm {} {} ⟨usersAndChosen, ()⟩
    resolved Environment.neverRefuses_calm Environment.neverCancels_calm rfl rfl
  have chosen : (((runPipeline (memoryHost .calm) (aside Environment.calm.isCancelled) {}
      chosenTwice {}).run ⟨usersAndChosen, ()⟩).2.stored.records? "chosen").map
        (List.map (List.map (·.2.toText))) = some [["Alice"], ["Carol"]] := by decide +kernel
  rw [stored] at chosen
  exact ⟨resolved, Environment.neverRefuses_calm, Environment.neverCancels_calm, times, stored,
    chosen⟩

end RecordFlow
