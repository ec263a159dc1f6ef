import RecordFlow.Proofs.Run.Outcome

/-!
# The errors that a run can tell

The error of a run whose steps have an order is that of a step, or that the run was cancelled. A
step cannot fail because of the name of its output unless the name is reserved. Since the texts of
the failures begin differently, the texts that a run tells rule these failures out.

## Main definitions

* `BeginsWith` — how a text begins
* `StepError.IsReserved`, `StepError.IsOfInputs` — failures because of a reserved name, and
  because of what a step is given

## Main results

* `StepError.message_ne_reserved` — no other failure has the text of one because of a reserved name
* `StepError.eq_unresolvedSource_of_message` — the text of an unresolved source tells the failure
* `Execution.avoids_executeStep` — how a step whose output is not reserved does not fail
* `runPipeline_error_ne_cycle` — a run of steps in an order tells of no cycle
* `runPipeline_error_ne_reserved` — its steps tell of no reserved name, if their outputs have none
-/

namespace RecordFlow

variable {σ : Type}

/-! ### Texts -/

/-- A text begins with another one. -/
def BeginsWith (text start : String) : Prop := start.toList <+: text.toList

namespace BeginsWith

variable {s t start other : String}

theorem refl (text : String) : BeginsWith text text := List.prefix_rfl

theorem append (h : BeginsWith s start) (x : String) : BeginsWith (s ++ x) start := by
  rw [BeginsWith, String.toList_append]
  exact h.trans (List.prefix_append s.toList x.toList)

/-- Texts that begin differently are different. -/
theorem ne (h : BeginsWith s start) (h' : BeginsWith t other)
    (different : ¬ start.toList <+: other.toList)
    (different' : ¬ other.toList <+: start.toList) : s ≠ t := by
  rintro rfl
  rcases List.prefix_or_prefix_of_prefix h h' with first | second
  · exact different first
  · exact different' second

end BeginsWith

theorem failureText_beginsWith (step : Step) (error : StepError) :
    BeginsWith (Execution.failureText step error) "Step '" :=
  (((BeginsWith.refl _).append _).append _).append _

theorem CyclicDependency.message_beginsWith (cycle : CyclicDependency) :
    BeginsWith cycle.message "Cyclic dependency between steps: " :=
  (BeginsWith.refl _).append _

namespace StepError

/-- A failure because of a reserved name. -/
def IsReserved (error : StepError) : Prop := ∃ name, error = .reservedName name

/-- A failure because of the sets that a step is given. -/
def IsOfInputs : StepError → Prop
  | inputCount .. | nothingToUnite | noJoinFields => True
  | _ => False

theorem message_reservedName_beginsWith (name : String) :
    BeginsWith (reservedName name).message "Invalid argument: '" :=
  ((BeginsWith.refl _).append _).append _

/-- No other failure has the text of a reserved name. -/
theorem message_ne_reserved {error : StepError} (h : ¬ error.IsReserved) (name : String) :
    error.message ≠ (reservedName name).message := by
  have reserved := message_reservedName_beginsWith name
  cases error with
  | reservedName other => exact absurd ⟨other, rfl⟩ h
  | invalidConfig kind error =>
    have begins : BeginsWith (invalidConfig kind error).message "Invalid config: " :=
      (((BeginsWith.refl _).append _).append _).append _
    exact begins.ne reserved (by simp) (by simp)
  | unresolvedSource source =>
    have begins : BeginsWith (unresolvedSource source).message "Unresolved source '" :=
      ((BeginsWith.refl _).append _).append _
    exact begins.ne reserved (by simp) (by simp)
  | inputCount kind expected found =>
    have begins : BeginsWith (inputCount kind expected found).message
        ("Invalid argument: " ++ kind.name) :=
      ((((BeginsWith.refl _).append _).append _).append _).append _
    -- The name of a kind does not begin with a quote.
    refine begins.ne reserved ?_ ?_
    · cases kind <;> simp [StepKind.name]
    · cases kind <;> simp [StepKind.name]
  | nothingToUnite =>
    have begins : BeginsWith nothingToUnite.message
        "Invalid argument: union requires at least one source" := .refl _
    exact begins.ne reserved (by simp) (by simp)
  | noJoinFields =>
    have begins : BeginsWith noJoinFields.message
        "Invalid argument: join requires at least one 'on' field pair" := .refl _
    exact begins.ne reserved (by simp) (by simp)
  | storage error =>
    have begins : BeginsWith (storage error).message "Storage error: " :=
      (BeginsWith.refl _).append _
    exact begins.ne reserved (by simp) (by simp)

theorem message_unresolvedSource_beginsWith (name : String) :
    BeginsWith (unresolvedSource name).message "Unresolved source '" :=
  ((BeginsWith.refl _).append _).append _

theorem toList_message_unresolvedSource (name : String) :
    (unresolvedSource name).message.toList = "Unresolved source '".toList ++ (name.toList ++
      "': no earlier step output or stored collection has this name".toList) := by
  change ("Unresolved source '" ++ name ++
    "': no earlier step output or stored collection has this name").toList = _
  rw [String.toList_append, String.toList_append, List.append_assoc]

/-- A text tells which source is unresolved, and no other failure has it. -/
theorem eq_unresolvedSource_of_message {error : StepError} {name : String}
    (same : error.message = (unresolvedSource name).message) : error = unresolvedSource name := by
  have unresolved := message_unresolvedSource_beginsWith name
  cases error with
  | unresolvedSource other =>
    have texts := congrArg String.toList same
    rw [toList_message_unresolvedSource, toList_message_unresolvedSource] at texts
    have names := List.append_cancel_right (List.append_cancel_left texts)
    rw [String.toList_inj.mp names]
  | invalidConfig kind error =>
    have begins : BeginsWith (invalidConfig kind error).message "Invalid config: " :=
      (((BeginsWith.refl _).append _).append _).append _
    exact absurd same (begins.ne unresolved (by simp) (by simp))
  | inputCount kind expected found =>
    have begins : BeginsWith (inputCount kind expected found).message "Invalid argument: " :=
      (((((BeginsWith.refl _).append _).append _).append _).append _).append _
    exact absurd same (begins.ne unresolved (by simp) (by simp))
  | nothingToUnite =>
    have begins : BeginsWith nothingToUnite.message
        "Invalid argument: union requires at least one source" := .refl _
    exact absurd same (begins.ne unresolved (by simp) (by simp))
  | noJoinFields =>
    have begins : BeginsWith noJoinFields.message
        "Invalid argument: join requires at least one 'on' field pair" := .refl _
    exact absurd same (begins.ne unresolved (by simp) (by simp))
  | reservedName other =>
    exact absurd same ((message_reservedName_beginsWith other).ne unresolved (by simp) (by simp))
  | storage error =>
    have begins : BeginsWith (storage error).message "Storage error: " :=
      (BeginsWith.refl _).append _
    exact absurd same (begins.ne unresolved (by simp) (by simp))

end StepError

/-! ### Steps -/

namespace StepConfig

/-- A step that reads one set fails only if it is given another number of sets. -/
theorem onOne_isOfInputs {kind : StepKind} {rows : List Record → List Record}
    {inputs : List (List Record)} {error : StepError} (h : onOne kind rows inputs = .error error) :
    error.IsOfInputs := by
  unfold onOne at h
  split at h
  · cases h
  · obtain rfl := Except.error.inj h
    trivial

/-- To process sets fails only because of what is given. -/
theorem process_isOfInputs {config : StepConfig} {now : Timestamp} {inputs : List (List Record)}
    {error : StepError} (h : config.process now inputs = .error error) : error.IsOfInputs := by
  cases config with
  | union c =>
    match inputs, h with
    | [], h =>
      obtain rfl := Except.error.inj h
      trivial
    | _ :: _, h => cases h
  | join c =>
    match inputs, h with
    | [left, right], h =>
      change (if c.on.isEmpty then _ else _) = _ at h
      split at h
      · obtain rfl := Except.error.inj h
        trivial
      · cases h
    | [], h | [_], h | _ :: _ :: _ :: _, h =>
      obtain rfl := Except.error.inj h
      trivial
  | lookup c =>
    match inputs, h with
    | [source, reference], h => cases h
    | [], h | [_], h | _ :: _ :: _ :: _, h =>
      obtain rfl := Except.error.inj h
      trivial
  | _ => exact onOne_isOfInputs h

/-- To process sets does not fail because of the name of the output. -/
theorem process_not_reserved {config : StepConfig} {now : Timestamp} {inputs : List (List Record)}
    {error : StepError} (h : config.process now inputs = .error error) : ¬ error.IsReserved := by
  rintro ⟨name, rfl⟩
  exact process_isOfInputs h

end StepConfig

section

variable (host : Host (StateM σ)) (made : Collections)

theorem StepError.not_isReserved_storage (error : StorageError) : ¬ (storage error).IsReserved := by
  rintro ⟨_, ⟨⟩⟩

theorem StepError.not_isReserved_unresolvedSource (name : String) :
    ¬ (unresolvedSource name).IsReserved := by
  rintro ⟨_, ⟨⟩⟩

theorem avoids_resolveSource (name : String) :
    Avoids StepError.IsReserved (resolveSource host.store made name) := by
  rw [resolveSource]
  cases made.records? name with
  | some records => exact .pure _ _
  | none =>
    refine .exceptBind (.adapt _ StepError.not_isReserved_storage) fun found => ?_
    cases found with
    | true => exact .adapt _ StepError.not_isReserved_storage
    | false => exact .throw (StepError.not_isReserved_unresolvedSource name)

theorem avoids_resolveSources (names : List String) :
    Avoids StepError.IsReserved (resolveSources host.store made names) := by
  induction names with
  | nil => exact .pure _ _
  | cons name names ih =>
    refine .exceptBind (avoids_resolveSource host made name) fun _ => ?_
    exact .exceptBind ih fun _ => .pure _ _

theorem avoids_executeConfig (config : StepConfig) :
    Avoids StepError.IsReserved (executeConfig host made config) := by
  refine .exceptBind (avoids_resolveSources host made config.sources) fun inputs => ?_
  refine .exceptBind (.lift _ _) fun now => ?_
  exact fun _ _ failed => StepConfig.process_not_reserved failed

theorem avoids_persist {name : String} (records : List Record) (free : isReserved name = false) :
    Avoids StepError.IsReserved (persist host.store name records) := by
  rw [persist, if_neg (by simp [free])]
  exact .adapt _ StepError.not_isReserved_storage

end

namespace Execution

variable {execution : Execution (StateM σ)} {slots : List Slot} {w : σ}
    {run : PipelineRun} {s : Nat}

/-- A step whose output is not reserved does not fail because of its name. -/
theorem avoids_executeStep (execution : Execution (StateM σ)) (made : Collections) {step : Step}
    (free : isReserved step.config.output = false) :
    Avoids StepError.IsReserved (execution.executeStep made step) := by
  refine .exceptBind (avoids_executeConfig execution.host made step.config) fun output => ?_
  cases execution.options.dryRun with
  | true => exact .pure _ _
  | false => exact .exceptBind (avoids_persist execution.host
    output.records free) fun _ => .pure _ _

/-- The error in front of a step is that of a step, if there is one. -/
theorem error_reach_cases (execution : Execution (StateM σ)) (w : σ) (hs : s ≤ slots.length) :
    (execution.reach slots {} w s).1.error = none ∨ ∃ step error,
      (execution.reach slots {} w s).1.error = some (failureText step error) := by
  induction s with
  | zero => exact .inl rfl
  | succ s ih =>
    obtain ⟨result, -, effect⟩ := execution.exists_effect w hs
    by_cases failed : result.status = .failed
    · obtain ⟨error, -, herror⟩ := effect.error_of_failed failed
      rcases ih (by omega) with none | ⟨step, earlier, some⟩
      · exact .inr ⟨slots[s].step, error, by rw [herror, none]; rfl⟩
      · exact .inr ⟨step, earlier, by rw [herror, some]; rfl⟩
    · rw [effect.error_of_not_failed failed]
      exact ih (by omega)

namespace EndsWith

/-- The error of a run is that of a step, or tells that the run was cancelled. -/
theorem error_cases (h : execution.EndsWith slots w run) :
    run.error = none ∨ (∃ step error, run.error = some (failureText step error)) ∨
      run.error = some "Run was cancelled" := by
  rw [h.error]
  rcases execution.error_reach_cases w (le_refl slots.length) with none | ⟨step, error, some⟩
  · cases (execution.reach slots {} w slots.length).1.cancelled <;> simp [none]
  · refine .inr (.inl ⟨step, error, ?_⟩)
    cases (execution.reach slots {} w slots.length).1.cancelled <;> simp [some]

/-- The error of a result is one with which its step has failed. -/
theorem error_of_result {result : StepResult} (h : execution.EndsWith slots w run)
    (pending : ∀ slot ∈ slots, slot.pending.error = none) (hmem : result ∈ run.stepResults) :
    result.error = none ∨ ∃ slot ∈ slots, ∃ made w₁ error,
      ((execution.executeStep made slot.step).run.run w₁).1 = .error error ∧
      result.error = some error.message := by
  rw [h.stepResults] at hmem
  obtain ⟨s, hresult⟩ := List.getElem?_of_mem hmem
  obtain ⟨hs, turn, added⟩ := turn_of_result hresult
  rcases turn.result_cases added with ⟨-, none⟩ | ⟨-, w₁, error, ran, -, hmessage⟩
  · exact .inl (none.trans (pending _ (List.getElem_mem hs)))
  · exact .inr ⟨slots[s], List.getElem_mem hs, _, _, error, congrArg Prod.fst ran, hmessage⟩

end EndsWith

end Execution

/-! ### Runs -/

section

variable {pipeline : Pipeline} {order : List Nat} (host : Host (StateM σ))
  (isCancelled : StateM σ Bool) (settings : EngineSettings) (options : RunOptions) (w : σ)

/-- A run of steps in an order tells of no cycle. -/
theorem runPipeline_error_ne_cycle
    (resolved : resolveOrder (pipeline.steps.map Node.ofStep) = .ok order)
    (cycle : CyclicDependency) :
    ((runPipeline host isCancelled settings pipeline options).run w).1.error ≠
      some cycle.message := by
  intro same
  have ends := runPipeline_endsWith host isCancelled settings options w resolved
  rcases ends.error_cases with none | ⟨step, error, some⟩ | cancelled
  · cases none.symm.trans same
  · have text := Option.some.inj (some.symm.trans same)
    exact (failureText_beginsWith step error).ne cycle.message_beginsWith (by simp) (by simp) text
  · have text := Option.some.inj (cancelled.symm.trans same)
    have begins : BeginsWith "Run was cancelled" "Run was cancelled" := .refl _
    exact begins.ne cycle.message_beginsWith (by simp) (by simp) text

/-- A run of steps in an order none of which has a reserved output tells of no reserved name. -/
theorem runPipeline_error_ne_reserved
    (resolved : resolveOrder (pipeline.steps.map Node.ofStep) = .ok order)
    (free : ∀ step ∈ pipeline.steps, isReserved step.config.output = false) {result : StepResult}
    (hmem : result ∈ ((runPipeline host isCancelled settings pipeline options).run w).1.stepResults)
    (name : String) : result.error ≠ some (StepError.reservedName name).message := by
  intro same
  have ends := runPipeline_endsWith host isCancelled settings options w resolved
  have pending : ∀ slot ∈ freshSlots pipeline order, slot.pending.error = none := by
    intro slot hslot
    rw [(mem_freshSlots hslot).2]
    rfl
  rcases ends.error_of_result pending hmem with none | ⟨slot, hslot, made, w₁, error, ran, some⟩
  · cases none.symm.trans same
  · have hstep := List.mem_of_getElem? (mem_freshSlots hslot).1
    have other := Execution.avoids_executeStep _ made (free slot.step hstep) w₁ error ran
    exact StepError.message_ne_reserved other name (Option.some.inj (some.symm.trans same))

end

end RecordFlow
