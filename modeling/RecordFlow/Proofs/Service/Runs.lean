import RecordFlow.Proofs.Run.Rereading
import RecordFlow.Proofs.Service.Repository

/-!
# Keeping runs on a store in memory

A collection of the records of sound runs is a list of runs, as one of pipelines is. A run is found
by its id, and the runs of a pipeline are found and deleted by the id of the pipeline.

## Main definitions

* `Keeping.runs` — how runs are kept

## Main results

* `saveRun_run`, `findRun?_run`, `listRuns_run`, `deleteRuns_run` — what
  the repository does to the list
-/

namespace RecordFlow

variable {ω : Type} {env : Environment ω}

namespace PipelineRun

/-- The record of a run. -/
def toRecord (run : PipelineRun) : Record := recordOfObject run.toJson

theorem holds_fieldIs_toRecord (run : PipelineRun) (id : String) :
    (fieldIs "id" id).holds run.toRecord = (run.id == id) := by
  refine holds_fieldIs rfl ?_ id
  rw [toRecord, toJson, get?_recordOfObject]
  simp [Json.toValue]

theorem holds_fieldIs_pipelineId (run : PipelineRun) (pipelineId : String) :
    (fieldIs "pipelineId" pipelineId).holds run.toRecord = (run.pipelineId == pipelineId) := by
  refine holds_fieldIs rfl ?_ pipelineId
  rw [toRecord, toJson, get?_recordOfObject]
  simp [Json.toValue, List.lookup_cons]

theorem decodeRecord_toRecord {run : PipelineRun} (sound : run.IsSound) :
    decodeRecord PipelineRun.reader run.toRecord = .ok run :=
  decodeRecord_recordOfObject (fits_toJson sound) (reader_toJson sound)

/-- A run that has just started can be written and read again. -/
theorem isSound_start_create (id : String) {created started : Timestamp} (pipeline : Pipeline)
    {options : RunOptions} (hcreated : created.Survives) (hstarted : started.Survives)
    (nodup : options.context.names.Nodup) (finite : options.context.IsFinite) :
    ((create id created pipeline options).start started).IsSound where
  createdAt := hcreated
  times := by constructor <;> simp [create, start, hstarted]
  results := by
    have none : 0 < int64Limit := by decide
    refine List.forall_mem_map.mpr fun step _ => ⟨?_, none, none⟩
    constructor <;> simp [StepResult.pending]
  nodup := nodup
  finite := finite

end PipelineRun

/-- How runs are kept. -/
def Keeping.runs : Keeping PipelineRun where
  collection := runsCollection
  toRecord := PipelineRun.toRecord
  key := PipelineRun.id
  IsReadable := PipelineRun.IsSound
  keyed id run := run.holds_fieldIs_toRecord id

theorem Keeping.runs_collection : Keeping.runs.collection = runsCollection := rfl

section

variable {w : World ω} {runs : List PipelineRun}

/-- A run is saved in the place of the one of its id. -/
theorem saveRun_run (never : env.NeverRefuses) (holds : Keeping.runs.Holds w runs)
    {run : PipelineRun} (sound : run.IsSound) : ∃ w',
    (saveRun (memoryHost env).store run).run.run w = (.ok (), w') ∧
      Keeping.runs.Holds w' (replaceKeyed PipelineRun.id run runs) ∧
      ∀ name ≠ runsCollection, w'.stored.records? name = w.stored.records? name :=
  holds.save never sound

/-- The run of an id is found. -/
theorem findRun?_run (never : env.NeverRefuses) (holds : Keeping.runs.Holds w runs)
    (id : String) : ∃ around, (findRun? (memoryHost env).store id).run.run w =
      (.ok (runs.find? (·.id == id)), { w with around }) := by
  obtain ⟨around, found⟩ :=
    holds.find never (Keeping.runs.keyed id) fun _ => PipelineRun.decodeRecord_toRecord
  rw [Keeping.runs_collection] at found
  refine ⟨around, ?_⟩
  rw [findRun?, run_exceptBind, found, List.map_id']
  exact congrArg (fun first => (Except.ok first, { w with around })) List.head?_filter

/-- The runs of a pipeline are listed, the newest first. -/
theorem listRuns_run (never : env.NeverRefuses) (holds : Keeping.runs.Holds w runs)
    (pipelineId : String) : ∃ around, (listRuns (memoryHost env).store pipelineId).run.run w =
      (.ok ((runs.filter (·.pipelineId == pipelineId)).mergeSort
        fun a b => !a.createdAt.before b.createdAt), { w with around }) := by
  obtain ⟨around, found⟩ := holds.find never (fun run => run.holds_fieldIs_pipelineId pipelineId)
    fun _ => PipelineRun.decodeRecord_toRecord
  rw [Keeping.runs_collection] at found
  refine ⟨around, ?_⟩
  rw [listRuns, run_exceptBind, found, List.map_id']
  rfl

/-- The runs of a pipeline are deleted. -/
theorem deleteRuns_run (never : env.NeverRefuses) (holds : Keeping.runs.Holds w runs)
    (pipelineId : String) : ∃ w', (deleteRuns (memoryHost env).store pipelineId).run.run w =
        (.ok (runs.countP (·.pipelineId == pipelineId)), w') ∧
      Keeping.runs.Holds w' (runs.filter (·.pipelineId != pipelineId)) ∧
      ∀ name ≠ runsCollection, w'.stored.records? name = w.stored.records? name := by
  obtain ⟨w', deleted, left, others, -⟩ :=
    holds.delete never fun run => run.holds_fieldIs_pipelineId pipelineId
  exact ⟨w', deleted, left, others⟩

end

end RecordFlow
