import Mathlib.Data.List.Find
import RecordFlow.Proofs.Document.Fields
import RecordFlow.Proofs.Run.Undisturbed

/-!
# What the clock has a part in

A step that computes something from the present time makes something else at another time, and so
may every step that reads what it has made. The clock has no part in anything else. Whether a step
fails, and why, is a matter of which of its sources are there: no record that it reads and no time
makes a difference. How many records it makes is a matter of what it reads: only a `map` asks for
the time, and it makes one record of every one. And what a step makes that neither asks for the
time nor reads from such a step is the same at all times.

## Main definitions

* `failureOf?` — why an attempt has failed
* `StepConfig.failure?` — why a step fails that has got some number of sets
* `Pipeline.DrawsOn` — a step reads what another one makes
* `Pipeline.IsTimelessAt`, `Pipeline.IsTimelessUnder` — the clock has no part in what a step makes,
  and in what is made under a name
* `Pipeline.IsFedTimelessAt` — the clock has no part in what other steps make for a step
* `Fate.Resembles`, `Collections.Resembles` — the same but for what the clock has a part in
* `Environment.ticking` — surroundings in which the clock runs on

## Main results

* `Step.failureOf?_outcome` — why a step fails
* `StepConfig.counts_process` — the time makes no difference to how many records a step makes
* `Step.resembles_outcome` — a step that finds sets under the same names at two times succeeds both
  times or fails for the same reason
-/

namespace RecordFlow

variable {ω α : Type} {env : Environment ω}

/-! ### Failures -/

/-- Why an attempt has failed, if it has. -/
def failureOf? : Except StepError α → Option StepError
  | .ok _ => none
  | .error error => some error

@[simp] theorem failureOf?_ok (a : α) : failureOf? (.ok a) = none := rfl

@[simp] theorem failureOf?_error (error : StepError) :
    failureOf? (.error error : Except StepError α) = some error := rfl

namespace StepConfig

/-- Why a step fails that has got this many sets, if it does. -/
def failure? (count : Nat) : StepConfig → Option StepError
  | union _ => if count = 0 then some .nothingToUnite else none
  | join c =>
    if count = 2 then if c.on.isEmpty then some .noJoinFields else none
    else some (.inputCount .join 2 count)
  | lookup _ => if count = 2 then none else some (.inputCount .lookup 2 count)
  | config => if count = 1 then none else some (.inputCount config.kind 1 count)

theorem failureOf?_onOne (kind : StepKind) (rows : List Record → List Record)
    (inputs : List (List Record)) : failureOf? (onOne kind rows inputs) =
      if inputs.length = 1 then none else some (.inputCount kind 1 inputs.length) := by
  match inputs with
  | [] => rfl
  | [_] => rfl
  | _ :: _ :: _ => simp [onOne]

/-- A step fails because of the number of sets that it gets, or not at all: neither the time nor
a record makes a difference. -/
theorem failureOf?_process (config : StepConfig) (now : Timestamp) (inputs : List (List Record)) :
    failureOf? (config.process now inputs) = config.failure? inputs.length := by
  cases config with
  | union c => cases inputs <;> rfl
  | join c =>
    match inputs with
    | [] => rfl
    | [_] => rfl
    | [_, _] => cases noFields : c.on.isEmpty <;> simp [process, failure?, noFields]
    | _ :: _ :: _ :: _ => simp [process, failure?]
  | lookup c =>
    match inputs with
    | [] => rfl
    | [_] => rfl
    | [_, _] => rfl
    | _ :: _ :: _ :: _ => simp [process, failure?]
  | _ => exact failureOf?_onOne _ _ _

end StepConfig

/-- To read some sources fails because of the first one under which nothing is found. -/
theorem failureOf?_mapM_sourceIn (find : String → Option (List Record)) (names : List String) :
    failureOf? (names.mapM (sourceIn find)) =
      (names.find? fun name => (find name).isNone).map .unresolvedSource := by
  induction names with
  | nil => rfl
  | cons name names ih =>
    rw [List.mapM_cons, List.find?_cons, sourceIn]
    cases there : find name with
    | none => rfl
    | some records =>
      rw [Option.isNone_some, ← ih]
      cases names.mapM (sourceIn find) <;> rfl

/-- Why a step fails: because of the first of its sources that is not there, because of their
number, or, unless the run is dry, because the name of its output is reserved. -/
theorem Step.failureOf?_outcome (step : Step) (dryRun : Bool) (now : Timestamp)
    (find : String → Option (List Record)) : failureOf? (step.outcome dryRun now find) =
      (((step.config.sources.find? fun name => (find name).isNone).map .unresolvedSource).or
        (step.config.failure? step.config.sources.length)).or
          (if dryRun = false ∧ isReserved step.config.output = true then
            some (.reservedName step.config.output) else none) := by
  have computed : failureOf?
      ((step.config.sources.mapM (sourceIn find)).bind (step.config.process now)) =
        ((step.config.sources.find? fun name => (find name).isNone).map .unresolvedSource).or
          (step.config.failure? step.config.sources.length) := by
    rw [← failureOf?_mapM_sourceIn]
    cases sources : step.config.sources.mapM (sourceIn find) with
    | error error => rfl
    | ok inputs =>
      have length := (mapM_eq_ok_iff.mp sources).length_eq
      rw [length, ← StepConfig.failureOf?_process step.config now]
      rfl
  rw [outcome, attempt_eq, ← computed]
  cases (step.config.sources.mapM (sourceIn find)).bind (step.config.process now) with
  | error error => cases dryRun <;> rfl
  | ok output => cases dryRun <;> cases isReserved step.config.output <;> rfl

/-! ### Numbers of records -/

/-- The numbers of the records that a step has read and made. -/
def StepOutput.counts (output : StepOutput) : Nat × Nat := (output.inputRows, output.records.length)

/-- The time makes no difference to how many records a step makes. -/
theorem StepConfig.counts_process (config : StepConfig) (now now' : Timestamp)
    (inputs : List (List Record)) : (config.process now inputs).map StepOutput.counts =
      (config.process now' inputs).map StepOutput.counts := by
  cases config with
  | map c =>
    match inputs with
    | [] => rfl
    | [_] => simp [process, onOne, Except.map, StepOutput.counts, MapConfig.rows]
    | _ :: _ :: _ => rfl
  | _ => rfl

/-- A step that finds the same makes as many records at another time. -/
theorem Step.counts_outcome (step : Step) (dryRun : Bool) (now now' : Timestamp)
    (find : String → Option (List Record)) :
    (step.outcome dryRun now find).map StepOutput.counts =
      (step.outcome dryRun now' find).map StepOutput.counts := by
  rw [outcome, outcome, attempt_eq, attempt_eq]
  cases step.config.sources.mapM (sourceIn find) with
  | error error => rfl
  | ok inputs =>
    have counts := step.config.counts_process now now' inputs
    simp only [Except.bind]
    cases made : step.config.process now inputs <;>
      cases made' : step.config.process now' inputs <;> rw [made, made'] at counts
    · obtain rfl := Except.error.inj counts
      rfl
    · cases counts
    · cases counts
    · cases dryRun <;> cases isReserved step.config.output <;> first | rfl | exact counts

/-! ### Steps that have to do with the clock -/

/-- The time makes no difference to what a step computes. -/
def StepConfig.IsTimeless (config : StepConfig) (env : Environment ω) : Prop :=
  ∀ now now', env.MayShow now → env.MayShow now' → config.process now = config.process now'

theorem StepConfig.IsTimeless.of_not_asksTime {config : StepConfig}
    (never : config.asksTime = false) (env : Environment ω) : config.IsTimeless env :=
  fun now now' _ _ => process_eq_of_not_asksTime never now now'

namespace Pipeline

variable {pipeline : Pipeline} {a b : Nat} {step : Step} {name : String}

/-- The step at the place `a` reads what the step at another place `b` makes. -/
def DrawsOn (pipeline : Pipeline) (a b : Nat) : Prop :=
  ∃ step maker, pipeline.steps[a]? = some step ∧ pipeline.steps[b]? = some maker ∧ b ≠ a ∧
    maker.config.output ∈ step.config.sources

/-- The clock has no part in what the step at a place makes: the time makes no difference to the
step, nor to any step on which it draws directly or through others. -/
def IsTimelessAt (pipeline : Pipeline) (env : Environment ω) (a : Nat) : Prop :=
  ∀ b step, Relation.ReflTransGen pipeline.DrawsOn a b → pipeline.steps[b]? = some step →
    step.config.IsTimeless env

/-- The clock has no part in what other steps make for the step at a place. -/
def IsFedTimelessAt (pipeline : Pipeline) (env : Environment ω) (a : Nat) : Prop :=
  ∀ b, pipeline.DrawsOn a b → pipeline.IsTimelessAt env b

/-- The clock has no part in what is made under a name: it has none in what any
step with this output makes. -/
def IsTimelessUnder (pipeline : Pipeline) (env : Environment ω) (name : String) : Prop :=
  ∀ a step, pipeline.steps[a]? = some step → step.config.output = name → pipeline.IsTimelessAt env a

namespace IsTimelessAt

/-- The clock has no part in what a step makes to which the time makes no difference, if it has none
in what other steps make for it. -/
theorem of_fed (own : ∀ step, pipeline.steps[a]? = some step → step.config.IsTimeless env)
    (fed : pipeline.IsFedTimelessAt env a) : pipeline.IsTimelessAt env a := by
  intro c step reaches hstep
  rcases reaches.cases_head with rfl | ⟨b, draws, reaches⟩
  · exact own step hstep
  · exact fed b draws c step reaches hstep

theorem fed (timeless : pipeline.IsTimelessAt env a) : pipeline.IsFedTimelessAt env a :=
  fun _ draws c step reaches => timeless c step (.head draws reaches)

theorem isTimeless (timeless : pipeline.IsTimelessAt env a)
    (hstep : pipeline.steps[a]? = some step) : step.config.IsTimeless env :=
  timeless a step .refl hstep

end IsTimelessAt

/-- If the clock has no part in what other steps make for a step, it has none in what the step
reads, unless the time makes a difference to the step and it reads its own output. -/
theorem IsFedTimelessAt.under_of_reads (fed : pipeline.IsFedTimelessAt env a)
    (hstep : pipeline.steps[a]? = some step)
    (apart : step.config.output ∉ step.config.sources ∨ step.config.IsTimeless env)
    (reads : name ∈ step.config.sources) : pipeline.IsTimelessUnder env name := by
  rintro b maker hmaker rfl
  by_cases same : b = a
  · subst same
    obtain rfl := Option.some.inj (hstep.symm.trans hmaker)
    rcases apart with apart | own
    · exact absurd reads apart
    · refine .of_fed (fun other hother => ?_) fed
      rwa [← Option.some.inj (hstep.symm.trans hother)]
  · exact fed b ⟨step, maker, hstep, hmaker, same, reads⟩

namespace IsTimeless

theorem isTimelessAt (timeless : pipeline.IsTimeless env) (a : Nat) : pipeline.IsTimelessAt env a :=
  fun _ step _ hstep => timeless step (List.mem_of_getElem? hstep)

theorem isFedTimelessAt (timeless : pipeline.IsTimeless env) (a : Nat) :
    pipeline.IsFedTimelessAt env a :=
  (timeless.isTimelessAt a).fed

theorem isTimelessUnder (timeless : pipeline.IsTimeless env) (name : String) :
    pipeline.IsTimelessUnder env name :=
  fun a _ _ _ => timeless.isTimelessAt a

end IsTimeless

end Pipeline

/-! ### Fates and sets that resemble each other -/

/-- Two fates are of one kind and tell of the same failure. Under a condition they tell of the same
numbers of records, and under another one they are the same. -/
structure Fate.Resembles (fed condition : Prop) (fate other : Fate) : Prop where
  status : fate.status = other.status
  error : fate.error? = other.error?
  counts : fed → fate.output?.map StepOutput.counts = other.output?.map StepOutput.counts
  eq : condition → fate = other

namespace Fate

variable {fed condition : Prop} {fate other : Fate}

theorem Resembles.refl (fed condition : Prop) (fate : Fate) : fate.Resembles fed condition fate :=
  ⟨rfl, rfl, fun _ => rfl, fun _ => rfl⟩

theorem Resembles.isSome_output (h : fate.Resembles fed condition other) :
    fate.output?.isSome = other.output?.isSome := by
  have status := h.status
  cases fate <;> cases other <;> first | rfl | cases status

/-- Attempts that fail for the same reason resemble each other. -/
theorem resembles_ofAttempt {attempt attempt' : Except StepError StepOutput}
    (failure : failureOf? attempt = failureOf? attempt')
    (counts : fed → attempt.map StepOutput.counts = attempt'.map StepOutput.counts)
    (same : condition → attempt = attempt') :
    (ofAttempt attempt).Resembles fed condition (ofAttempt attempt') := by
  have eq : condition → ofAttempt attempt = ofAttempt attempt' :=
    fun holds => congrArg ofAttempt (same holds)
  cases attempt with
  | error error =>
    cases attempt' with
    | error error' => exact ⟨rfl, failure, fun _ => rfl, eq⟩
    | ok output' => cases failure
  | ok output =>
    cases attempt' with
    | error error' => cases failure
    | ok output' => exact ⟨rfl, rfl, fun holds => congrArg some (Except.ok.inj (counts holds)), eq⟩

end Fate

/-- A step that finds sets under the same names at two times fails both times for the same reason,
if it fails. It makes as many records if it also finds the same sets. It makes the same ones if the
time makes no difference to it. -/
theorem Step.resembles_outcome {fed condition : Prop} {step : Step} {dryRun dryRun' : Bool}
    {now now' : Timestamp} {find find' : String → Option (List Record)}
    (kept : dryRun' = dryRun ∨ isReserved step.config.output = false)
    (there : ∀ name ∈ step.config.sources, (find name).isSome = (find' name).isSome)
    (same : fed → ∀ name ∈ step.config.sources, find name = find' name)
    (timeless : condition → fed ∧ step.config.process now = step.config.process now') :
    (Fate.ofAttempt (step.outcome dryRun now find)).Resembles fed condition
      (.ofAttempt (step.outcome dryRun' now' find')) := by
  have dry : step.outcome dryRun' now' find' = step.outcome dryRun now' find' := by
    rcases kept with rfl | free
    · rfl
    · rw [outcome_of_free free, outcome_of_free free]
  rw [dry]
  refine Fate.resembles_ofAttempt ?_ (fun holds => ?_) fun holds => ?_
  · have missing : (step.config.sources.find? fun name => (find name).isNone) =
        step.config.sources.find? fun name => (find' name).isNone := by
      refine List.find?_congr fun name reads => ?_
      rw [← Option.not_isSome, ← Option.not_isSome, there name reads]
    rw [failureOf?_outcome, failureOf?_outcome, missing]
  · rw [outcome_congr rfl (same holds)]
    exact step.counts_outcome dryRun now now' find'
  · exact outcome_congr (timeless holds).2 (same (timeless holds).1)

/-- Two collections of sets have the same names, and the same sets
under the names with a property. -/
structure Collections.Resembles (property : String → Prop) (made other : Collections) : Prop where
  isSome : ∀ name, (made.records? name).isSome = (other.records? name).isSome
  eq : ∀ name, property name → made.records? name = other.records? name

namespace Collections.Resembles

variable {property : String → Prop} {fed condition : Prop} {made other stored : Collections}
  {fate fate' : Fate} {name : String}

theorem refl (property : String → Prop) (made : Collections) : made.Resembles property made :=
  ⟨fun _ => rfl, fun _ _ => rfl⟩

/-- Under the same names nothing has been made. -/
theorem mem_iff (h : made.Resembles property other) :
    name ∈ made.map Prod.fst ↔ name ∈ other.map Prod.fst := by
  rw [← not_iff_not, ← records?_eq_none_iff_not_mem, ← records?_eq_none_iff_not_mem,
    ← Option.not_isSome_iff_eq_none, ← Option.not_isSome_iff_eq_none, h.isSome]

/-- What a step makes is added to both. -/
theorem hold (h : made.Resembles property other) (alike : fate.Resembles fed condition fate')
    (holds : property name → condition) :
    (made.hold name fate).Resembles property (other.hold name fate') where
  isSome n := by
    rw [records?_hold, records?_hold, Option.isSome_or, Option.isSome_or, h.isSome]
    split
    · rw [Option.isSome_map, Option.isSome_map, alike.isSome_output]
    · rfl
  eq n hn := by
    rw [records?_hold, records?_hold, h.eq n hn]
    split
    next same => rw [alike.eq (holds (same ▸ hn))]
    next => rfl

theorem isSome_found (h : made.Resembles property other) (name : String) :
    (made.found stored name).isSome = (other.found stored name).isSome := by
  rw [found, found, Option.isSome_or, Option.isSome_or, h.isSome]

theorem found_eq (h : made.Resembles property other) (hn : property name) :
    made.found stored name = other.found stored name := by
  rw [found, found, h.eq name hn]

end Collections.Resembles

/-! ### A clock that runs on -/

/-- The seconds of a day, over and over. -/
def Timestamp.ofTick (tick : Nat) : Timestamp :=
  { epoch with second := tick % secondsPerDay, second_lt := Nat.mod_lt _ epoch.second_lt }

/-- Surroundings in which a second has passed whenever the clock is read again. Nothing is
refused and nothing cancelled. -/
def Environment.ticking : Environment Nat where
  now := do
    let tick ← getModify (· + 1)
    return .ofTick tick
  freshId := pure "run"
  log _ := pure ()
  isCancelled := pure false
  refusal? _ := pure none

theorem Environment.neverRefuses_ticking : Environment.ticking.NeverRefuses := fun _ _ => rfl

theorem Environment.neverCancels_ticking : Environment.ticking.NeverCancels := fun _ => rfl

/-- A step that replaces every record by the present time. -/
def stampStep : Step :=
  ⟨"stamp", "stamp", .map ⟨"users", "stamped", [("at", .date .now)], false⟩, 0, []⟩

/-- A step that keeps the stamps of the first five seconds. -/
def earlyStep : Step :=
  ⟨"early", "early", .filter ⟨"stamped", "early",
    [⟨"at", .lt, some (.text "1970-01-01T00:00:05.000Z")⟩], .all⟩, 0, []⟩

/-- Steps that stamp the users, keep the early stamps and copy the users. -/
def stampThenCopy : Pipeline := .ofSteps [stampStep, earlyStep, .passOn "copy" "users" "copied"]

/-- The clock has no part in the copy. -/
theorem isTimelessUnder_copied (env : Environment ω) :
    stampThenCopy.IsTimelessUnder env "copied" := by
  have outputs : ∀ step ∈ stampThenCopy.steps, step.config.output ≠ "users" := by decide
  intro a step hstep output
  obtain rfl : a = 2 := by
    match a with
    | 0 | 1 =>
      obtain rfl := Option.some.inj hstep
      exact absurd output (by decide)
    | 2 => rfl
  obtain rfl : .passOn "copy" "users" "copied" = step := Option.some.inj hstep
  refine .of_fed (fun step hstep => ?_) fun b => ?_
  · obtain rfl := Option.some.inj hstep
    exact .of_not_asksTime rfl env
  · rintro ⟨step, maker, hstep, hmaker, -, reads⟩
    obtain rfl := Option.some.inj hstep
    -- The copy reads the users only, to which no step writes.
    exact absurd (List.mem_singleton.mp reads) (outputs maker (List.mem_of_getElem? hmaker))

/-- One user, at the first second. -/
def aliceAtMidnight : World Nat := ⟨[("users", [[("name", .text "Alice")]])], 0⟩

end RecordFlow
