import RecordFlow.Proofs.Service.Operations

/-!
# The history of a service

What a service was asked and what it has answered tells which pipelines and runs there are: a
pipeline is there from the answer that gives it to the answer that deletes or replaces it, and a run
is there as long as its pipeline. A history has the newest exchange in front.

## Main definitions

* `Request`, `Answer`, `Service.handle` — a call of a service and what comes of it
* `Exchange`, `Service.serve` — calls one after the other
* `Live`, `Recorded` — the pipelines and the runs of a history
* `Admits` — the answers that a request may get behind a history
-/

namespace RecordFlow

/-- What a service is asked. -/
inductive Request where
  | create (input : PipelineInput)
  | update (id : String) (input : PipelineInput)
  | delete (id : String)
  | run (id : String) (options : RunOptions)
  | get (id : String)
  | list
  | getRun (id : String)
  | runsOf (pipelineId : String)

/-- What a service answers. -/
inductive Answer where
  | pipeline (pipeline : Pipeline)
  | deleted
  | run (run : PipelineRun)
  | pipelines (pipelines : List Pipeline)
  | runs (runs : List PipelineRun)
  | refused (error : ServiceError)

/-- A request with its answer. -/
structure Exchange where
  request : Request
  answer : Answer

section

variable {m : Type → Type} [Monad m] {α : Type}

/-- The answer that tells what has come of an action. -/
def answerBy (tell : α → Answer) (action : ExceptT ServiceError m α) : m Answer := do
  match ← action.run with
  | .ok a => return tell a
  | .error error => return .refused error

/-- Answers a request. -/
def Service.handle (service : Service m) : Request → m Answer
  | .create input => answerBy .pipeline (service.create input)
  | .update id input => answerBy .pipeline (service.update id input)
  | .delete id => answerBy (fun _ => .deleted) (service.delete id)
  | .run id options => answerBy .run (service.run id options)
  | .get id => answerBy .pipeline (service.get id)
  | .list => answerBy .pipelines service.list
  | .getRun id => answerBy .run (service.getRun id)
  | .runsOf pipelineId => answerBy .runs (service.runsOf pipelineId)

/-- Answers requests one after the other, behind a history. -/
def Service.serve (service : Service m) (history : List Exchange) : List Request → m (List Exchange)
  | [] => return history
  | request :: requests => do
    let answer ← service.handle request
    service.serve (⟨request, answer⟩ :: history) requests

end

/-! ### What a history tells -/

namespace Exchange

/-- The pipeline that is created or updated. -/
def kept? : Exchange → Option Pipeline
  | ⟨.create _, .pipeline pipeline⟩ => some pipeline
  | ⟨.update _ _, .pipeline pipeline⟩ => some pipeline
  | _ => none

/-- The id of the pipeline that is deleted. -/
def deleted? : Exchange → Option String
  | ⟨.delete id, .deleted⟩ => some id
  | _ => none

/-- The run that has ended. -/
def ran? : Exchange → Option PipelineRun
  | ⟨.run _ _, .run run⟩ => some run
  | _ => none

end Exchange

/-- A pipeline is the last one that was created or updated under its id,
and it was not deleted since. -/
def Live : List Exchange → Pipeline → Prop
  | [], _ => False
  | exchange :: history, pipeline => exchange.kept? = some pipeline ∨
    (Live history pipeline ∧ exchange.deleted? ≠ some pipeline.id ∧
      ∀ other, exchange.kept? = some other → other.id ≠ pipeline.id)

/-- A run has ended, and its pipeline was not deleted since. -/
def Recorded : List Exchange → PipelineRun → Prop
  | [], _ => False
  | exchange :: history, run =>
    exchange.ran? = some run ∨ (Recorded history run ∧ exchange.deleted? ≠ some run.pipelineId)

/-- The runs that have ended. -/
def endedRuns (history : List Exchange) : List PipelineRun := history.filterMap Exchange.ran?

/-- Under an id there is at most one pipeline. -/
theorem Live.unique {history : List Exchange} {pipeline other : Pipeline}
    (h : Live history pipeline) (h' : Live history other) (same : pipeline.id = other.id) :
    pipeline = other := by
  induction history with
  | nil => exact h.elim
  | cons exchange history ih =>
    -- Either the last exchange keeps both, or neither; if only one,
    -- the other one was replaced by it.
    obtain kept | ⟨before, -, notReplaced⟩ := h
    · obtain kept' | ⟨-, -, notReplaced⟩ := h'
      · exact Option.some.inj (kept.symm.trans kept')
      · exact absurd same (notReplaced pipeline kept)
    · obtain kept' | ⟨before', -, -⟩ := h'
      · exact absurd same.symm (notReplaced other kept')
      · exact ih before before'

theorem Recorded.mem_endedRuns {history : List Exchange} {run : PipelineRun}
    (h : Recorded history run) : run ∈ endedRuns history := by
  induction history with
  | nil => exact h.elim
  | cons exchange history ih =>
    refine List.mem_filterMap.mpr ?_
    obtain ran | ⟨before, -⟩ := h
    · exact ⟨exchange, .head _, ran⟩
    · obtain ⟨earlier, hearlier, ran⟩ := List.mem_filterMap.mp (ih before)
      exact ⟨earlier, .tail _ hearlier, ran⟩

/-! ### Answers -/

/-- The id of the pipeline that a request is about. -/
def Request.pipelineId? : Request → Option String
  | update id _ | delete id | run id _ | get id => some id
  | _ => none

/-- The answers that a request may get behind a history. -/
inductive Admits (history : List Exchange) : Request → Answer → Prop
  | created {input : PipelineInput} {pipeline : Pipeline} (valid : (validate input).valid = true)
      (made : input.Describes pipeline) : Admits history (.create input) (.pipeline pipeline)
  | notCreated {input : PipelineInput} (invalid : (validate input).valid = false) :
      Admits history (.create input) (.refused (.invalid (validate input)))
  | updated {id : String} {input : PipelineInput} {old pipeline : Pipeline}
    (live : Live history old)
      (named : old.id = id) (valid : (validate input).valid = true)
      (made : input.Describes pipeline)
      (sameId : pipeline.id = old.id) (sameCreation : pipeline.createdAt = old.createdAt) :
      Admits history (.update id input) (.pipeline pipeline)
  | notUpdated {id : String} {input : PipelineInput} {old : Pipeline} (live : Live history old)
      (named : old.id = id) (invalid : (validate input).valid = false) :
      Admits history (.update id input) (.refused (.invalid (validate input)))
  | deleted {id : String} {pipeline : Pipeline} (live : Live history pipeline)
      (named : pipeline.id = id) : Admits history (.delete id) .deleted
  | ran {id : String} {options : RunOptions} {pipeline : Pipeline} {run : PipelineRun}
      (live : Live history pipeline) (named : pipeline.id = id) (active : pipeline.status = .active)
      (ofPipeline : run.pipelineId = id) (context : run.context = options.context)
      (ended : run.completedAt.isSome = true) : Admits history (.run id options) (.run run)
  | notActive {id : String} {options : RunOptions} {pipeline : Pipeline}
    (live : Live history pipeline)
      (named : pipeline.id = id) (inactive : pipeline.status ≠ .active) :
      Admits history (.run id options) (.refused (.notActive pipeline.name pipeline.status))
  | found {id : String} {pipeline : Pipeline} (live : Live history pipeline)
      (named : pipeline.id = id) : Admits history (.get id) (.pipeline pipeline)
  | unknown {request : Request} {id : String} (asked : request.pipelineId? = some id)
      (absent : ∀ pipeline, Live history pipeline → pipeline.id ≠ id) :
      Admits history request (.refused (.noPipeline id))
  | listed {pipelines : List Pipeline} (nodup : (pipelines.map Pipeline.id).Nodup)
      (exactly : ∀ pipeline, pipeline ∈ pipelines ↔ Live history pipeline) :
      Admits history .list (.pipelines pipelines)
  | foundRun {id : String} {run : PipelineRun} (recorded : Recorded history run)
      (named : run.id = id) : Admits history (.getRun id) (.run run)
  | unknownRun {id : String} (absent : ∀ run, Recorded history run → run.id ≠ id) :
      Admits history (.getRun id) (.refused (.noRun id))
  | listedRuns {pipelineId : String} {runs : List PipelineRun}
    (nodup : (runs.map PipelineRun.id).Nodup)
      (exactly : ∀ run, run ∈ runs ↔ Recorded history run ∧ run.pipelineId = pipelineId) :
      Admits history (.runsOf pipelineId) (.runs runs)

end RecordFlow
