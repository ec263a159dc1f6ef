import RecordFlow.Proofs.Pipeline.Rereading
import RecordFlow.Proofs.Service.Repository

/-!
# Keeping pipelines on a store in memory

A collection of the records of sound pipelines is a list of pipelines: what is saved replaces the
pipeline of its id, and what is found are the pipelines of the list.

## Main definitions

* `Keeping.pipelines` — how pipelines are kept

## Main results

* `savePipeline_run`, `findPipeline?_run`, `listPipelines_run`, `deletePipeline_run` — what
  the repository does to the list
* `sizes_lt_of_findPipelines` — what is found at all
-/

namespace RecordFlow

variable {ω : Type} {env : Environment ω}

/-! ### Pipelines -/

namespace Pipeline

/-- The record of a pipeline. -/
def toRecord (pipeline : Pipeline) : Record := recordOfObject pipeline.toJson

theorem holds_fieldIs_toRecord (pipeline : Pipeline) (id : String) :
    (fieldIs "id" id).holds pipeline.toRecord = (pipeline.id == id) := by
  refine holds_fieldIs rfl ?_ id
  rw [toRecord, toJson, get?_recordOfObject]
  simp [Json.toValue]

theorem decodeRecord_toRecord {pipeline : Pipeline} (sound : pipeline.IsSound)
    (small : ∀ n ∈ pipeline.sizes, n < int64Limit) :
    decodeRecord PipelineDraft.reader pipeline.toRecord = .ok pipeline.toDraft :=
  decodeRecord_recordOfObject (fits_toJson sound small) (reader_toJson sound)

end Pipeline

/-- How pipelines are kept. They are read again if their unsigned
numbers are signed integers too. -/
def Keeping.pipelines : Keeping Pipeline where
  collection := pipelinesCollection
  toRecord := Pipeline.toRecord
  key := Pipeline.id
  IsReadable pipeline := pipeline.IsSound ∧ ∀ n ∈ pipeline.sizes, n < int64Limit
  keyed id pipeline := pipeline.holds_fieldIs_toRecord id

theorem Keeping.pipelines_collection : Keeping.pipelines.collection = pipelinesCollection := rfl

section

variable {pipelines : List Pipeline} {w : World ω}

/-- Of the pipelines that are held those are found that a filter selects. -/
theorem findPipelines_run (never : env.NeverRefuses) (holds : Keeping.pipelines.Holds w pipelines)
    {filter : RecordFilter} {select : Pipeline → Bool}
    (agrees : ∀ pipeline : Pipeline, filter.holds pipeline.toRecord = select pipeline) : ∃ around,
    (findPipelines (memoryHost env).store (memoryHost env).freshId filter).run.run w =
      (.ok (pipelines.filter select), { w with around }) := by
  obtain ⟨around, found⟩ := holds.find never agrees fun pipeline readable =>
    Pipeline.decodeRecord_toRecord readable.1 readable.2
  rw [Keeping.pipelines_collection] at found
  refine ⟨around, ?_⟩
  rw [findPipelines, run_exceptBind, found]
  -- The steps of a sound pipeline have ids, so no fresh one is asked for.
  simp only [completeDrafts_toDraft _ fun pipeline hpipeline =>
    (holds.readable pipeline (List.mem_filter.mp hpipeline).1).1]
  rfl

/-- The pipeline of an id is found. -/
theorem findPipeline?_run (never : env.NeverRefuses) (holds : Keeping.pipelines.Holds w pipelines)
    (id : String) : ∃ around,
    (findPipeline? (memoryHost env).store (memoryHost env).freshId id).run.run w =
      (.ok (pipelines.find? (·.id == id)), { w with around }) := by
  obtain ⟨around, found⟩ := findPipelines_run never holds (Keeping.pipelines.keyed id)
  refine ⟨around, ?_⟩
  rw [findPipeline?, run_exceptBind, found]
  exact congrArg (fun first => (Except.ok first, { w with around })) List.head?_filter

/-- All pipelines are listed, sorted by the times of their creation. -/
theorem listPipelines_run (never : env.NeverRefuses) (holds : Keeping.pipelines.Holds w pipelines) :
    ∃ around, (listPipelines (memoryHost env).store (memoryHost env).freshId).run.run w =
      (.ok (pipelines.mergeSort fun a b => !b.createdAt.before a.createdAt),
        { w with around }) := by
  have all (pipeline : Pipeline) :
      RecordFilter.all.holds pipeline.toRecord = (fun _ : Pipeline => true) pipeline := rfl
  obtain ⟨around, found⟩ := findPipelines_run never holds all
  refine ⟨around, ?_⟩
  rw [listPipelines, run_exceptBind, found, List.filter_true]
  rfl

/-- A pipeline is saved in the place of the one of its id. -/
theorem savePipeline_run (never : env.NeverRefuses) (holds : Keeping.pipelines.Holds w pipelines)
    {pipeline : Pipeline} (readable : Keeping.pipelines.IsReadable pipeline) : ∃ w',
    (savePipeline (memoryHost env).store pipeline).run.run w = (.ok (), w') ∧
      Keeping.pipelines.Holds w' (replaceKeyed Pipeline.id pipeline pipelines) ∧
      ∀ name ≠ pipelinesCollection, w'.stored.records? name = w.stored.records? name :=
  holds.save never readable

/-- A pipeline is deleted if it is there; otherwise nothing happens. -/
theorem deletePipeline_run (never : env.NeverRefuses) (holds : Keeping.pipelines.Holds w pipelines)
    (id : String) : ∃ w',
    (deletePipeline (memoryHost env).store id).run.run w = (.ok (pipelines.any (·.id == id)), w') ∧
      Keeping.pipelines.Holds w' (pipelines.filter (·.id != id)) ∧
      (∀ name ≠ pipelinesCollection, w'.stored.records? name = w.stored.records? name) ∧
      (pipelines.any (·.id == id) = false → w'.stored = w.stored) := by
  obtain ⟨w', deleted, left, others, unchanged⟩ := holds.delete never (Keeping.pipelines.keyed id)
  rw [Keeping.pipelines_collection] at deleted
  refine ⟨w', ?_, left, others, fun absent => unchanged fun pipeline hpipeline => ?_⟩
  · have any : decide (0 < pipelines.countP (·.id == id)) = pipelines.any (·.id == id) := by
      rw [Bool.eq_iff_iff, decide_eq_true_iff, List.countP_pos_iff, List.any_eq_true]
    rw [deletePipeline, run_exceptBind, deleted, ← any]
    rfl
  · exact eq_false_of_ne_true (List.any_eq_false.mp absent pipeline hpipeline)

end

/-! ### What is found at all -/

section

variable {σ ε : Type}

/-- Steps that get their ids keep their configurations. -/
theorem exists_completeSteps_run (freshId : StateM σ String) (drafts : List StepDraft) (w : σ) :
    ∃ steps w', (completeSteps (liftM freshId : ExceptT ε (StateM σ) String) drafts).run.run w =
      (.ok steps, w') ∧ steps.map Step.config = drafts.map StepDraft.config := by
  induction drafts generalizing w with
  | nil => exact ⟨[], w, rfl, rfl⟩
  | cons draft drafts ih =>
    rw [completeSteps]
    cases draft.id with
    | some id =>
      obtain ⟨steps, w', ran, same⟩ := ih w
      refine ⟨draft.complete id :: steps, w', ?_, congrArg (draft.config :: ·) same⟩
      simp only [pure_bind, run_exceptBind, ran]
      rfl
    | none =>
      obtain ⟨steps, w', ran, same⟩ := ih (freshId.run w).2
      refine ⟨draft.complete (freshId.run w).1 :: steps, w', ?_, congrArg (draft.config :: ·) same⟩
      simp only [run_exceptBind, run_lift, ran]
      rfl

/-- So do the steps of several pipelines, which keep their own ids. -/
theorem exists_completeDrafts_run (freshId : StateM σ String)
    (drafts : List PipelineDraft) (w : σ) : ∃ pipelines w',
      (completeDrafts (liftM freshId : ExceptT ε (StateM σ) String) drafts).run.run w =
      (.ok pipelines, w') ∧ List.Forall₂ (fun draft pipeline => pipeline.id = draft.id ∧
        pipeline.steps.map Step.config = draft.steps.map StepDraft.config) drafts pipelines := by
  induction drafts generalizing w with
  | nil => exact ⟨[], w, rfl, .nil⟩
  | cons draft drafts ih =>
    obtain ⟨steps, w₁, first, same⟩ := exists_completeSteps_run (ε := ε) freshId draft.steps w
    obtain ⟨pipelines, w₂, others, each⟩ := ih w₁
    refine ⟨draft.complete steps :: pipelines, w₂, ?_, .cons ⟨rfl, same⟩ each⟩
    rw [completeDrafts]
    simp only [run_exceptBind, first, others]
    rfl

end

/-- Whatever the records are, the unsigned numbers of a pipeline that is
found are signed integers too. -/
theorem sizes_lt_of_findPipelines (never : env.NeverRefuses) {filter : RecordFilter} {w : World ω}
    {found : List Pipeline}
    (h : ((findPipelines (memoryHost env).store (memoryHost env).freshId filter).run.run w).1 =
      .ok found) : ∀ pipeline ∈ found, ∀ n ∈ pipeline.sizes, n < int64Limit := by
  obtain ⟨around, ran⟩ := findBy_run never pipelinesCollection filter w PipelineDraft.reader
  rw [findPipelines, run_exceptBind, ran] at h
  cases read : ((w.records pipelinesCollection).filter filter.holds).mapM
      (decodeRecord PipelineDraft.reader) with
  | error error => simp [read] at h
  | ok drafts =>
    obtain ⟨pipelines, w', completed, each⟩ := exists_completeDrafts_run (ε := StorageError)
      (memoryHost env).freshId drafts { w with around }
    simp only [read, completed, Except.ok.injEq] at h
    subst h
    intro pipeline hpipeline n hn
    -- Back from the pipeline to its draft, its record and the document of the record.
    obtain ⟨draft, hdraft, -, same⟩ := exists_of_forall₂ each hpipeline
    obtain ⟨record, -, decoded⟩ := exists_of_forall₂ (mapM_eq_ok_iff.mp read) hdraft
    obtain ⟨json, fits, readDraft⟩ := exists_of_decodeRecord decoded
    obtain ⟨step, hstep, hn⟩ := List.mem_flatMap.mp hn
    have hconfig : step.config ∈ draft.steps.map StepDraft.config :=
      same ▸ List.mem_map_of_mem hstep
    obtain ⟨stepDraft, hstepDraft, config⟩ := List.mem_map.mp hconfig
    exact PipelineDraft.sizes_lt_of_reader readDraft fits (by decide)
      (by decide) stepDraft hstepDraft n (config ▸ hn)

end RecordFlow
