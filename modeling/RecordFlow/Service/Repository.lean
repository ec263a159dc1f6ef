import RecordFlow.Pipeline.Document
import RecordFlow.Run.Document
import RecordFlow.Store.Basic

/-!
# Keeping pipelines and runs

Pipelines and runs are records of two reserved collections. What is saved replaces the record of the
same id.

## Main definitions

* `replaceById` — saves a record
* `findRecords` — the records of a collection that may be absent
* `savePipeline`, `findPipeline?`, `listPipelines`, `deletePipeline` — pipelines
* `saveRun`, `findRun?`, `listRuns`, `deleteRuns` — runs
-/

namespace RecordFlow

/-- The records whose field has a text. -/
def fieldIs (field text : String) : RecordFilter := .field ⟨field, .eq, .text text⟩

/-- The record of a document that is an object. -/
def recordOfObject (json : Json) : Record :=
  match json.toValue with
  | .object fields => fields
  | _ => []

section

variable {m : Type → Type} [Monad m]

/-- Saves a record in the place of the records of its id. -/
def replaceById (store : RecordStore m) (collection id : String) (record : Record) :
    ExceptT StorageError m Unit := do
  let _ ← store.deleteWhere collection (fieldIs "id" id)
  let _ ← store.createMany collection [record]

/-- The records of a collection that a filter selects; none if there is no such collection. -/
def findRecords (store : RecordStore m) (collection : String) (filter : RecordFilter) :
    ExceptT StorageError m (List Record) := do
  let found ← store.has collection
  if found then store.find collection filter else return []

/-- What is read from a record. -/
def decodeRecord {α : Type} (reader : Reader Json α) (record : Record) : Except StorageError α :=
  (reader (.ofRecord record)).mapError fun rejection => .malformed rejection.error.message

/-- What is read from the records of a collection that a filter selects. -/
def findBy {α : Type} (store : RecordStore m) (reader : Reader Json α) (collection : String)
    (filter : RecordFilter) : ExceptT StorageError m (List α) := do
  let records ← findRecords store collection filter
  ExceptT.mk (pure (records.mapM (decodeRecord reader)))

/-- Pipelines with fresh ids for the steps that lack one. -/
def completeDrafts (freshId : m String) : List PipelineDraft → m (List Pipeline)
  | [] => return []
  | draft :: drafts => do
    let steps ← completeSteps freshId draft.steps
    let others ← completeDrafts freshId drafts
    return draft.complete steps :: others

/-- The pipelines that a filter selects. -/
def findPipelines (store : RecordStore m) (freshId : m String) (filter : RecordFilter) :
    ExceptT StorageError m (List Pipeline) := do
  let drafts ← findBy store PipelineDraft.reader pipelinesCollection filter
  completeDrafts freshId drafts

/-- Saves a pipeline. -/
def savePipeline (store : RecordStore m) (pipeline : Pipeline) : ExceptT StorageError m Unit :=
  replaceById store pipelinesCollection pipeline.id (recordOfObject pipeline.toJson)

/-- The pipeline of an id. -/
def findPipeline? (store : RecordStore m) (freshId : m String) (id : String) :
    ExceptT StorageError m (Option Pipeline) := do
  let found ← findPipelines store freshId (fieldIs "id" id)
  return found.head?

/-- All pipelines, the oldest first. -/
def listPipelines (store : RecordStore m) (freshId : m String) :
    ExceptT StorageError m (List Pipeline) := do
  let found ← findPipelines store freshId .all
  return found.mergeSort fun a b => !b.createdAt.before a.createdAt

/-- Deletes a pipeline and tells whether there was one. -/
def deletePipeline (store : RecordStore m) (id : String) : ExceptT StorageError m Bool := do
  let removed ← store.deleteWhere pipelinesCollection (fieldIs "id" id)
  return decide (0 < removed)

/-- Saves a run. -/
def saveRun (store : RecordStore m) (run : PipelineRun) : ExceptT StorageError m Unit :=
  replaceById store runsCollection run.id (recordOfObject run.toJson)

/-- The run of an id. -/
def findRun? (store : RecordStore m) (id : String) :
    ExceptT StorageError m (Option PipelineRun) := do
  let found ← findBy store PipelineRun.reader runsCollection (fieldIs "id" id)
  return found.head?

/-- The runs of a pipeline, the newest first. -/
def listRuns (store : RecordStore m) (pipelineId : String) :
    ExceptT StorageError m (List PipelineRun) := do
  let found ← findBy store PipelineRun.reader runsCollection (fieldIs "pipelineId" pipelineId)
  return found.mergeSort fun a b => !a.createdAt.before b.createdAt

/-- Deletes the runs of a pipeline and tells how many there were. -/
def deleteRuns (store : RecordStore m) (pipelineId : String) : ExceptT StorageError m Nat :=
  store.deleteWhere runsCollection (fieldIs "pipelineId" pipelineId)

end

end RecordFlow
