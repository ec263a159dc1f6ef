import RecordFlow.Proofs.Pipeline.Soundness
import RecordFlow.Proofs.Service.Pipelines

/-!
# A pipeline in the store

A pipeline is built of a definition and saved, and then it is looked for. A value has no unsigned
number that is not a signed one too, so an unsigned number above these is kept as a float. A float
is not read as such a number, and a pipeline that has one in a configuration is not found again.

## Main definitions

* `IsFoundAgain`, `IsListed` — a pipeline is found by its id, and it is among all pipelines

## Main results

* `saved_isFoundAgain_iff` — which definitions are found again when they are saved
* `not_isFoundAgain_takeUpTo` — one that is accepted and not found again
-/

namespace RecordFlow

variable {ω : Type} {env : Environment ω} {w : World ω} {pipeline : Pipeline}

/-- A pipeline is found by its id as it is. -/
def IsFoundAgain (env : Environment ω) (w : World ω) (pipeline : Pipeline) : Prop :=
  ((findPipeline? (memoryHost env).store (memoryHost env).freshId pipeline.id).run.run w).1 =
    .ok (some pipeline)

/-- The pipelines can be listed, and a pipeline is among them as it is. -/
def IsListed (env : Environment ω) (w : World ω) (pipeline : Pipeline) : Prop :=
  ∃ found, ((listPipelines (memoryHost env).store (memoryHost env).freshId).run.run w).1 =
    .ok found ∧ pipeline ∈ found

theorem IsFoundAgain.sizes_lt (never : env.NeverRefuses) (h : IsFoundAgain env w pipeline) :
    ∀ n ∈ pipeline.sizes, n < int64Limit := by
  rw [IsFoundAgain, findPipeline?, run_exceptBind] at h
  cases found : ((findPipelines (memoryHost env).store (memoryHost env).freshId
      (fieldIs "id" pipeline.id)).run.run w).1 with
  | error error => simp [found] at h
  | ok pipelines =>
    simp only [found] at h
    have first : pipelines.head? = some pipeline := Except.ok.inj h
    exact sizes_lt_of_findPipelines never found pipeline (List.mem_of_mem_head? first)

theorem IsListed.sizes_lt (never : env.NeverRefuses) (h : IsListed env w pipeline) :
    ∀ n ∈ pipeline.sizes, n < int64Limit := by
  obtain ⟨listed, ran, hmem⟩ := h
  rw [listPipelines, run_exceptBind] at ran
  cases found :
    ((findPipelines (memoryHost env).store (memoryHost env).freshId .all).run.run w).1 with
  | error error => simp [found] at ran
  | ok pipelines =>
    simp only [found] at ran
    obtain rfl := Except.ok.inj ran
    exact sizes_lt_of_findPipelines never found pipeline (List.mem_mergeSort.mp hmem)

theorem isFoundAgain_of_holds {pipelines : List Pipeline} (never : env.NeverRefuses)
    (holds : Keeping.pipelines.Holds w pipelines) (nodup : (pipelines.map Pipeline.id).Nodup)
    (hmem : pipeline ∈ pipelines) : IsFoundAgain env w pipeline := by
  obtain ⟨around, found⟩ := findPipeline?_run never holds pipeline.id
  rw [IsFoundAgain, found, (find?_key_iff nodup).mpr ⟨hmem, rfl⟩]

theorem isListed_of_holds {pipelines : List Pipeline} (never : env.NeverRefuses)
    (holds : Keeping.pipelines.Holds w pipelines) (hmem : pipeline ∈ pipelines) :
    IsListed env w pipeline := by
  obtain ⟨around, found⟩ := listPipelines_run never holds
  exact ⟨_, by rw [found], List.mem_mergeSort.mpr hmem⟩

/-- A pipeline that is built of an accepted definition is saved. In a store without pipelines its
record is then the only one of a pipeline. -/
theorem exists_saved (never : env.NeverRefuses)
    (survives : ∀ around, (env.now.run around).1.Survives) {input : PipelineInput}
    (representable : input.IsRepresentable) (valid : (validate input).valid = true)
    (none : w.records pipelinesCollection = []) : ∃ pipeline w₁ w₂,
      (Pipeline.ofInput (memoryHost env).now (memoryHost env).freshId input).run.run w =
      (.ok pipeline, w₁) ∧
        (savePipeline (memoryHost env).store pipeline).run.run w₁ = (.ok (), w₂) ∧
      w₂.records pipelinesCollection = [pipeline].map Pipeline.toRecord ∧ pipeline.IsSound ∧
      ((∀ n ∈ pipeline.sizes, n < int64Limit) ↔ input.HasSignedSizes) := by
  obtain ⟨id, steps, w₁, built, builds⟩ := Pipeline.ofInput_run_create (memoryHost env).now
    (memoryHost env).freshId input w (accepted_of_valid valid).readable
  have kept : w₁.stored = w.stored := by
    have keeps := keeps_ofInput (keeps_now env) (keeps_freshId env) input w
    rwa [built] at keeps
  have empty : w₁.records pipelinesCollection = [] := by
    rw [World.records, kept, ← World.records, none]
  -- What is saved does not depend on how the pipeline was made, only
  -- whether it can be read again does.
  generalize hpipeline : Pipeline.create id _ input steps = pipeline at built
  obtain ⟨around, saved⟩ :=
    replaceById_run never pipelinesCollection w₁ pipeline.id pipeline.toRecord
  refine ⟨pipeline, w₁, _, built, saved, ?_, ?_, ?_⟩
  · rw [World.records, Collections.records?_put_self, Option.getD_some, empty]
    rfl
  · exact hpipeline ▸ isSound_create id representable builds (survives w.around)
  · rw [← hpipeline]
    exact sizes_lt_iff builds

/-- **Which pipelines are found again.** Of a representable definition that is accepted a
pipeline is built and saved in a store without pipelines. It is found by its id as it is,
and it is listed as it is, exactly when the unsigned numbers of the configurations are
signed integers of 64 bits too. -/
theorem saved_isFoundAgain_iff (never : env.NeverRefuses)
    (survives : ∀ around, (env.now.run around).1.Survives) (input : PipelineInput)
    (representable : input.IsRepresentable) (valid : (validate input).valid = true) (w : World ω)
    (none : w.records pipelinesCollection = []) :
    ∃ pipeline w₁ w₂,
      (Pipeline.ofInput (memoryHost env).now (memoryHost env).freshId input).run.run w =
      (.ok pipeline, w₁) ∧
        (savePipeline (memoryHost env).store pipeline).run.run w₁ = (.ok (), w₂) ∧
      ∀ w₃, w₃.stored = w₂.stored →
        (IsFoundAgain env w₃ pipeline ↔ input.HasSignedSizes) ∧
        (IsListed env w₃ pipeline ↔ input.HasSignedSizes) := by
  obtain ⟨pipeline, w₁, w₂, built, saved, records, sound, small⟩ :=
    exists_saved never survives representable valid none
  refine ⟨pipeline, w₁, w₂, built, saved, fun w₃ same => ?_⟩
  have held : w₃.records pipelinesCollection = [pipeline].map Pipeline.toRecord := by
    rw [World.records, same, ← World.records, records]
  have holds (signed : input.HasSignedSizes) : Keeping.pipelines.Holds w₃ [pipeline] :=
    ⟨held, List.forall_mem_singleton.mpr ⟨sound, small.mpr signed⟩⟩
  constructor
  · exact ⟨fun found => small.mp (found.sizes_lt never), fun signed =>
      isFoundAgain_of_holds never (holds signed) (List.nodup_singleton _) (.head _)⟩
  · exact ⟨fun listed => small.mp (listed.sizes_lt never), fun signed =>
      isListed_of_holds never (holds signed) (.head _)⟩

/-- The definition of a pipeline that passes on as many records as a limit tells. -/
def PipelineInput.takeUpTo (limit : Nat) : PipelineInput :=
  .ofSteps [⟨some "take", "take", .limit,
    .obj [("source", .str "users"), ("output", .str "taken"), ("limit", .int limit)], 0, []⟩]

theorem isRepresentable_takeUpTo {limit : Nat} (h : limit < sizeLimit) :
    (PipelineInput.takeUpTo limit).IsRepresentable where
  steps := by
    refine List.forall_mem_singleton.mpr ⟨?_, show IsInt64 0 from ⟨by decide, by decide⟩⟩
    have low : -(2 ^ 63 : Int) ≤ limit := by omega
    have high : (limit : Int) < sizeLimit := by exact_mod_cast h
    simp only [Json.fits_obj_iff, List.forall_mem_cons]
    exact ⟨.str _, .str _, .int low high, List.forall_mem_nil _⟩
  nodup := List.nodup_nil
  finite := List.forall_mem_nil _

theorem hasSignedSizes_takeUpTo_ten : (PipelineInput.takeUpTo 10).HasSignedSizes := by
  refine List.forall_mem_singleton.mpr fun config parsed => ?_
  obtain rfl : .limit ⟨"users", "taken", 10, 0⟩ = config := Except.ok.inj parsed
  decide

theorem survives_calm (around : Unit) : (Environment.calm.now.run around).1.Survives :=
  Timestamp.IsRegular.survives (t := .epoch) fun leap => absurd leap (by decide)

/-- A limit that is a signed integer is found again. -/
theorem isFoundAgain_takeUpTo : ∃ pipeline w₁ w₂,
    (Pipeline.ofInput (memoryHost .calm).now (memoryHost .calm).freshId
      (.takeUpTo 10)).run.run ⟨[], ()⟩ = (.ok pipeline, w₁) ∧
    (savePipeline (memoryHost .calm).store pipeline).run.run w₁ = (.ok (), w₂) ∧
    IsFoundAgain .calm w₂ pipeline ∧ IsListed .calm w₂ pipeline := by
  have signed := hasSignedSizes_takeUpTo_ten
  obtain ⟨pipeline, w₁, w₂, built, saved, found⟩ := saved_isFoundAgain_iff
    (fun _ _ => rfl) survives_calm
    (.takeUpTo 10) (isRepresentable_takeUpTo (by decide)) (by decide +kernel) ⟨[], ()⟩ rfl
  exact ⟨pipeline, w₁, w₂, built, saved, (found w₂ rfl).1.mpr signed, (found w₂ rfl).2.mpr signed⟩

/-- The first limit above the signed integers is not. -/
theorem not_isFoundAgain_takeUpTo :
    (PipelineInput.takeUpTo (2 ^ 63)).IsRepresentable ∧
    (validate (.takeUpTo (2 ^ 63))).valid = true ∧
    ∃ pipeline w₁ w₂,
      (Pipeline.ofInput (memoryHost .calm).now (memoryHost .calm).freshId
        (.takeUpTo (2 ^ 63))).run.run ⟨[], ()⟩ = (.ok pipeline, w₁) ∧
      (savePipeline (memoryHost .calm).store pipeline).run.run w₁ = (.ok (), w₂) ∧
      ¬ IsFoundAgain .calm w₂ pipeline ∧ ¬ IsListed .calm w₂ pipeline := by
  have representable : (PipelineInput.takeUpTo (2 ^ 63)).IsRepresentable :=
    isRepresentable_takeUpTo (by decide)
  have valid : (validate (.takeUpTo (2 ^ 63))).valid = true := by decide +kernel
  have never : Environment.calm.NeverRefuses := fun _ _ => rfl
  obtain ⟨pipeline, w₁, w₂, built, saved, -, -, small⟩ :=
    exists_saved (w := ⟨[], ()⟩) never survives_calm representable valid rfl
  -- Had it been found, its limit would be a signed integer.
  have unsigned : ¬ (PipelineInput.takeUpTo (2 ^ 63)).HasSignedSizes := fun signed =>
    absurd (signed _ (.head _) (.limit ⟨"users", "taken", 2 ^ 63, 0⟩) rfl (2 ^ 63) (.head _))
      (by decide)
  exact ⟨representable, valid, pipeline, w₁, w₂, built, saved,
    fun found => unsigned (small.mp (found.sizes_lt never)),
    fun listed => unsigned (small.mp (listed.sizes_lt never))⟩

end RecordFlow
