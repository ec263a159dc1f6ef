import RecordFlow.Proofs.Run.Trace
import RecordFlow.Proofs.Store.Collections

/-!
# Runs on a store in memory

The surroundings of a run on a store in memory are its collections and everything around them. What
is around decides on the time, on fresh ids, on when the run is cancelled, and on which operations
of the store are refused; each of these may change it.

## Main definitions

* `World` — collections and what is around them
* `Environment` — what is around decides on
* `memoryHost` — the host of a run
* `Execution.RunsIn` — an execution on a store in memory

## Main results

* `has_run`, `drop_run` — what the store answers, and what it does
* `keeps_executeConfig` — to take the inputs of a step leaves all collections as they are
-/

namespace RecordFlow

variable {ω α ε : Type}

/-! ### The host -/

/-- The collections of a store and what is around them. -/
structure World (ω : Type) where
  stored : Collections
  around : ω

instance : MonadStateOf Collections (StateM (World ω)) where
  get w := (w.stored, w)
  set stored w := ((), { w with stored })
  modifyGet f w := ((f w.stored).1, { w with stored := (f w.stored).2 })

/-- An action on what is around the store. -/
def aside (action : StateM ω α) : StateM (World ω) α := fun w =>
  ((action.run w.around).1, { w with around := (action.run w.around).2 })

/-- What is around a store decides on: among other things whether an operation of the store is
refused, and with which failure. -/
structure Environment (ω : Type) where
  now : StateM ω Timestamp
  freshId : StateM ω String
  log : LogEntry → StateM ω Unit
  isCancelled : StateM ω Bool
  refusal? : StoreCall → StateM ω (Option StorageError)

/-- Surroundings in which time stands still, nothing is refused and nothing cancelled. -/
def Environment.calm : Environment Unit where
  now := pure .epoch
  freshId := pure "run"
  log _ := pure ()
  isCancelled := pure false
  refusal? _ := pure none

/-- Asks whether an operation is refused. -/
def Environment.permit (env : Environment ω) (call : StoreCall) :
    ExceptT StorageError (StateM (World ω)) Unit :=
  ExceptT.mk ((Option.elim · (.ok ()) .error) <$> aside (env.refusal? call))

/-- A store never refuses an operation. -/
def Environment.NeverRefuses (env : Environment ω) : Prop :=
  ∀ call around, ((env.refusal? call).run around).1 = none

/-- An operation may be refused with a failure. -/
def Environment.Refuses (env : Environment ω) (call : StoreCall) (error : StorageError) : Prop :=
  ∃ around, ((env.refusal? call).run around).1 = some error

theorem Environment.refuses_of_run {env : Environment ω} {call : StoreCall} {error : StorageError}
    {around after : ω} (h : (env.refusal? call).run around = (some error, after)) :
    env.Refuses call error :=
  ⟨around, congrArg Prod.fst h⟩

theorem Environment.Refuses.not_neverRefuses {env : Environment ω} {call : StoreCall}
    {error : StorageError} (h : env.Refuses call error) : ¬ env.NeverRefuses := by
  obtain ⟨around, refused⟩ := h
  intro never
  rw [never] at refused
  cases refused

/-- A store never refuses to look for a collection, or to remove it. -/
def Environment.AlwaysDrops (env : Environment ω) (name : String) : Prop :=
  ∀ error, ¬ env.Refuses ⟨.has, name⟩ error ∧ ¬ env.Refuses ⟨.drop, name⟩ error

theorem Environment.NeverRefuses.alwaysDrops {env : Environment ω} (never : env.NeverRefuses)
    (name : String) : env.AlwaysDrops name :=
  fun _ => ⟨fun refuses => refuses.not_neverRefuses never,
    fun refuses => refuses.not_neverRefuses never⟩

/-- The host of a run on a store in memory. -/
def memoryHost (env : Environment ω) : Host (StateM (World ω)) where
  store := RecordStore.memory.guarded env.permit
  now := aside env.now
  freshId := aside env.freshId
  log entry := aside (env.log entry)

/-- A step that passes on up to ten records. -/
def Step.passOn (id source output : String) : Step :=
  ⟨id, id, .limit ⟨source, output, 10, 0⟩, 0, []⟩

/-- A pipeline of some steps. -/
def Pipeline.ofSteps (steps : List Step) : Pipeline :=
  ⟨"pipeline", "pipeline", none, steps, .active, none, [], .epoch, .epoch⟩

theorem getThe_run (w : World ω) :
    (getThe Collections : ExceptT ε (StateM (World ω)) Collections).run.run w = (.ok w.stored, w) :=
  rfl

/-! ### Reading -/

theorem keeps_aside (action : StateM ω α) : Keeps World.stored (aside action) := fun _ => rfl

theorem keeps_now (env : Environment ω) : Keeps World.stored (memoryHost env).now := keeps_aside _

theorem keeps_freshId (env : Environment ω) :
    Keeps World.stored (memoryHost env).freshId := keeps_aside _

theorem keeps_has (env : Environment ω) (name : String) :
    Keeps World.stored ((memoryHost env).store.has name).run :=
  .exceptBind (keeps_aside _) fun _ _ => rfl

theorem keeps_find (env : Environment ω) (name : String) (filter : RecordFilter) :
    Keeps World.stored ((memoryHost env).store.find name filter).run := by
  refine .exceptBind (keeps_aside _) fun _ => .exceptBind (fun _ => rfl) fun collections => ?_
  cases collections.records? name with
  | some records => exact .pure _ _
  | none => exact .throw _ _

theorem keeps_findAll (env : Environment ω) (name : String) :
    Keeps World.stored ((memoryHost env).store.findAll name).run :=
  keeps_find env name .all

theorem keeps_resolveSource (env : Environment ω) (made : Collections) (name : String) :
    Keeps World.stored (resolveSource (memoryHost env).store made name).run := by
  rw [resolveSource]
  cases made.records? name with
  | some records => exact .pure _ _
  | none =>
    refine .exceptBind ((keeps_has env name).adapt _) fun found => ?_
    cases found with
    | true => exact (keeps_findAll env name).adapt _
    | false => exact .throw _ _

theorem keeps_resolveSources (env : Environment ω) (made : Collections) (names : List String) :
    Keeps World.stored (resolveSources (memoryHost env).store made names).run := by
  induction names with
  | nil => exact .pure _ _
  | cons name names ih =>
    refine .exceptBind (keeps_resolveSource env made name) fun _ => ?_
    exact .exceptBind ih fun _ => .pure _ _

/-- A configuration that runs on its sources leaves all collections as they are. -/
theorem keeps_executeConfig (env : Environment ω) (made : Collections) (config : StepConfig) :
    Keeps World.stored (executeConfig (memoryHost env) made config).run := by
  refine .exceptBind (keeps_resolveSources env made config.sources) fun inputs => ?_
  exact .exceptBind (fun _ => rfl) fun now => .pure _ _

/-! ### Dropping -/

theorem permit_run (env : Environment ω) (call : StoreCall) (w : World ω) :
    (env.permit call).run.run w = (((env.refusal? call).run w.around).1.elim (.ok ()) .error,
      { w with around := ((env.refusal? call).run w.around).2 }) := rfl

/-- A refused operation fails and leaves the collections as they are; any other one is done. -/
theorem guarded_run (env : Environment ω) (call : StoreCall)
    (operation : ExceptT StorageError (StateM (World ω)) α) (w : World ω) : ∃ around,
    ((env.refusal? call).run w.around = (none, around) ∧
      (env.permit call >>= fun _ => operation).run.run w = operation.run.run { w with around }) ∨
    ∃ error, (env.refusal? call).run w.around = (some error, around) ∧
      (env.permit call >>= fun _ => operation).run.run w = (.error error, { w with around }) := by
  refine ⟨((env.refusal? call).run w.around).2, ?_⟩
  rw [run_exceptBind, permit_run]
  cases h : ((env.refusal? call).run w.around).1 with
  | none => exact .inl ⟨Prod.ext h rfl, rfl⟩
  | some error => exact .inr ⟨error, Prod.ext h rfl, rfl⟩

/-- An operation of a store that refuses nothing is done. -/
theorem allowed_run {env : Environment ω} (never : env.NeverRefuses) (call : StoreCall)
    (operation : ExceptT StorageError (StateM (World ω)) α) (w : World ω) : ∃ around,
    (env.permit call >>= fun _ => operation).run.run w = operation.run.run { w with around } := by
  obtain ⟨around, ⟨-, done⟩ | ⟨error, refused, -⟩⟩ := guarded_run env call operation w
  · exact ⟨around, done⟩
  · exact absurd never (Environment.refuses_of_run refused).not_neverRefuses

/-- Whether a collection is there, unless the question is refused. -/
theorem has_run (env : Environment ω) (name : String) (w : World ω) : ∃ around,
    ((env.refusal? ⟨.has, name⟩).run w.around = (none, around) ∧
      ((memoryHost env).store.has name).run.run w =
        (.ok (w.stored.records? name).isSome, { w with around })) ∨
    ∃ error, (env.refusal? ⟨.has, name⟩).run w.around = (some error, around) ∧
      ((memoryHost env).store.has name).run.run w = (.error error, { w with around }) :=
  guarded_run env ⟨.has, name⟩ (RecordStore.memory.has name) w

/-- A collection that is there is removed, unless the store refuses it. -/
theorem drop_run (env : Environment ω) (name : String) (w : World ω)
    (there : (w.stored.records? name).isSome) : ∃ around,
    ((memoryHost env).store.drop name).run.run w = (.ok (), ⟨w.stored.remove name, around⟩) ∨
      ∃ error, env.Refuses ⟨.drop, name⟩ error ∧
        ((memoryHost env).store.drop name).run.run w = (.error error, { w with around }) := by
  obtain ⟨around, ⟨-, done⟩ | ⟨error, refused, failed⟩⟩ :=
    guarded_run env ⟨.drop, name⟩ (RecordStore.memory.drop name) w
  · obtain ⟨records, hrecords⟩ := Option.isSome_iff_exists.mp there
    refine ⟨around, .inl (done.trans ?_)⟩
    simp only [RecordStore.memory, run_exceptBind, getThe_run, hrecords]
    rfl
  · exact ⟨around, .inr ⟨error, Environment.refuses_of_run refused, failed⟩⟩

/-- To drop a collection that is there removes it, unless the store refuses to. -/
theorem stored_dropIfThere (env : Environment ω) (name : String) (w : World ω) :
    ((dropIfThere (memoryHost env).store name).run.run w).2.stored = w.stored.remove name ∨
      (¬ env.AlwaysDrops name ∧
        ((dropIfThere (memoryHost env).store name).run.run w).2.stored = w.stored) := by
  rw [dropIfThere, run_exceptBind]
  obtain ⟨around, ⟨-, hhas⟩ | ⟨error, refused, hhas⟩⟩ := has_run env name w
  · rw [hhas]
    by_cases there : (w.stored.records? name).isSome
    · obtain ⟨_, hdrop | ⟨error, refuses, hdrop⟩⟩ := drop_run env name { w with around } there
      · simp only [there, if_true, hdrop, true_or]
      · simp only [there, if_true, hdrop]
        exact .inr ⟨fun always => (always error).2 refuses, trivial⟩
    · have none := Option.not_isSome_iff_eq_none.mp there
      simp only [none, Option.isSome_none, Bool.false_eq_true, if_false]
      exact .inl (Collections.remove_eq_self none).symm
  · rw [hhas]
    exact .inr ⟨fun always => (always error).1 (Environment.refuses_of_run refused), rfl⟩

theorem dropTemporary_cons_run (env : Environment ω) (name : String) (names : List String)
    (w : World ω) : ∃ around, (dropTemporary (memoryHost env) (name :: names)).run w =
      (dropTemporary (memoryHost env) names).run
        ⟨((dropIfThere (memoryHost env).store name).run.run w).2.stored, around⟩ := by
  simp only [dropTemporary, run_bind]
  cases ((dropIfThere (memoryHost env).store name).run.run w).1 with
  | ok _ => exact ⟨_, rfl⟩
  | error error => exact ⟨_, rfl⟩

/-- Temporary collections are dropped, but for those that the store refuses to drop. -/
theorem stored_dropTemporary (env : Environment ω) (names : List String) (w : World ω) :
    ∃ gone, gone ⊆ names ∧ (∀ name ∈ names, env.AlwaysDrops name → name ∈ gone) ∧
      ((dropTemporary (memoryHost env) names).run w).2.stored =
        w.stored.removeAll gone := by
  induction names generalizing w with
  | nil =>
    refine ⟨[], List.Subset.refl _, List.forall_mem_nil _, ?_⟩
    exact (Collections.removeAll_nil w.stored).symm
  | cons name names ih =>
    obtain ⟨around, hrun⟩ := dropTemporary_cons_run env name names w
    obtain ⟨gone, hsub, hall, hstored⟩ :=
      ih ⟨((dropIfThere (memoryHost env).store name).run.run w).2.stored, around⟩
    rw [hrun, hstored]
    rcases stored_dropIfThere env name w with dropped | ⟨refuses, kept⟩
    · refine ⟨name :: gone, List.cons_subset_cons name hsub, List.forall_mem_cons.mpr ⟨?_, ?_⟩, ?_⟩
      · exact fun _ => List.mem_cons_self
      · exact fun other hother always => List.mem_cons_of_mem name (hall other hother always)
      · rw [dropped, Collections.removeAll_cons]
    · refine ⟨gone, List.subset_cons_of_subset name hsub,
        List.forall_mem_cons.mpr ⟨?_, hall⟩, by rw [kept]⟩
      exact fun always => absurd always refuses

/-! ### Executions -/

namespace Execution

variable {execution : Execution (StateM (World ω))} {env : Environment ω} {w w' : World ω}

/-- An execution on a store in memory. -/
structure RunsIn (execution : Execution (StateM (World ω))) (env : Environment ω) : Prop where
  host : execution.host = memoryHost env
  isCancelled : execution.isCancelled = aside env.isCancelled

theorem runsIn_ofRun (env : Environment ω) (pipeline : Pipeline) (run : PipelineRun)
    (options : RunOptions) :
    (Execution.ofRun (memoryHost env) (aside env.isCancelled) pipeline run options).RunsIn env :=
  ⟨rfl, rfl⟩

/-- To read the clock, to report and to check for cancellation changes no collection. -/
theorem Quiet.stored (inMemory : execution.RunsIn env) (h : execution.Quiet w w') :
    w'.stored = w.stored := by
  induction h with
  | refl => rfl
  | now _ ih => rw [inMemory.host, ← ih]; rfl
  | log entry _ ih => rw [inMemory.host, ← ih]; rfl
  | check _ ih => rw [inMemory.isCancelled, ← ih]; rfl

theorem stored_attemptIn (inMemory : execution.RunsIn env) (step : Step) (progress : Progress)
    (w : World ω) : (execution.attemptIn step progress w).stored = w.stored :=
  (execution.quiet_attemptIn step progress w).stored inMemory

end Execution

end RecordFlow
