import RecordFlow.Proofs.Run.FailedStep
import RecordFlow.Proofs.Service.Operations
import RecordFlow.Proofs.Service.Storing

/-!
# What a failed request leaves in the store

The store may refuse any of its operations. A pipeline is saved by two of them: first the records of
its id are deleted, then the new record is put. It is deleted by two more, one for its own record
and one for its runs. A request to create, update or delete a pipeline that fails leaves all
collections as they were, unless the second of the two operations was refused behind a first one
that had something to delete. Then the records of the pipeline are gone.

## Main definitions

* `Environment.HasRefused` — the last thing that has happened is a refusal
* `HasLost` — a collection has lost the records that a filter selects
* `Deletion` — how a deletion ends
* `Service.LosesPipeline` — a failed request has lost a pipeline

## Main results

* `deletion_of_run`, `replaceById_error` — how the operations of the repository end
* `failedRequest_stored` — what is stored behind a failed request
* `updateRefusing_loses_pipeline` — a failed update that loses its pipeline
-/

namespace RecordFlow

variable {ω α : Type} {env : Environment ω} {w w' : World ω} {name : String} {filter : RecordFilter}

/-! ### Refusals -/

/-- The last thing that has happened around a store is that it has refused an operation. -/
def Environment.HasRefused (env : Environment ω) (call : StoreCall) (error : StorageError)
    (w : World ω) : Prop :=
  ∃ around, (env.refusal? call).run around = (some error, w.around)

/-- An operation is refused, or it is done. -/
theorem permitted_run (env : Environment ω) (call : StoreCall)
    (operation : ExceptT StorageError (StateM (World ω)) α) (w : World ω) : ∃ around,
    (env.permit call >>= fun _ => operation).run.run w = operation.run.run { w with around } ∨
      ∃ error, env.HasRefused call error { w with around } ∧
        (env.permit call >>= fun _ => operation).run.run w = (.error error, { w with around }) := by
  obtain ⟨around, ⟨-, done⟩ | ⟨error, refused, failed⟩⟩ := guarded_run env call operation w
  · exact ⟨around, .inl done⟩
  · exact ⟨around, .inr ⟨error, ⟨w.around, refused⟩, failed⟩⟩

/-! ### Deleting and replacing records -/

/-- A collection has lost the records that a filter selects, and there was one. -/
structure HasLost (name : String) (filter : RecordFilter) (w w' : World ω) : Prop where
  there : ∃ record ∈ w.records name, filter.holds record = true
  stored : w'.stored = w.stored.put name ((w.records name).filter (!filter.holds ·))

theorem HasLost.of_stored_eq {v : World ω} (lost : HasLost name filter v w')
    (same : v.stored = w.stored) : HasLost name filter w w' := by
  obtain ⟨there, stored⟩ := lost
  rw [World.records, same] at there stored
  exact ⟨there, stored⟩

/-- How a deletion ends: it is refused, there is nothing to delete, or it is done. -/
inductive Deletion (env : Environment ω) (name : String) (filter : RecordFilter) (w w' : World ω) :
    Except StorageError Nat → Prop
  | refused {error : StorageError} : env.HasRefused ⟨.deleteWhere, name⟩ error w' →
    w'.stored = w.stored →
      Deletion env name filter w w' (.error error)
  | nothing : w'.stored = w.stored → Deletion env name filter w w' (.ok 0)
  | done {count : Nat} :
    0 < count → HasLost name filter w w' → Deletion env name filter w w' (.ok count)

theorem deletion_of_run {result : Except StorageError Nat}
    (h : ((memoryHost env).store.deleteWhere name filter).run.run w = (result, w')) :
    Deletion env name filter w w' result := by
  obtain ⟨around, done | ⟨error, refused, failed⟩⟩ :=
    permitted_run env ⟨.deleteWhere, name⟩ (RecordStore.memory.deleteWhere name filter) w
  · obtain ⟨rfl, rfl⟩ :=
      Prod.mk.inj (h.symm.trans (done.trans (RecordStore.deleteWhere_memory_run _ _ _)))
    by_cases there : ∃ record ∈ w.records name, filter.holds record = true
    · -- Then the collection exists, and not all of its records are kept.
      obtain ⟨record, hrecord, holds⟩ := there
      have exist : (w.stored.records? name).isSome := by
        by_contra absent
        rw [World.records, Option.not_isSome_iff_eq_none.mp absent] at hrecord
        cases hrecord
      have fewer : ((w.records name).filter (!filter.holds ·)).length < (w.records name).length :=
        List.length_filter_lt_length_iff_exists.mpr ⟨record, hrecord, by simp [holds]⟩
      exact .done (Nat.sub_pos_of_lt fewer) ⟨⟨record, hrecord, holds⟩, if_pos exist⟩
    · have none (record : Record) (hrecord : record ∈ w.records name) :
          filter.holds record = false :=
        eq_false_of_ne_true fun holds => there ⟨record, hrecord, holds⟩
      have kept : (w.records name).filter (!filter.holds ·) = w.records name :=
        List.filter_eq_self.mpr fun record hrecord => by rw [none record hrecord]; rfl
      have counted : (w.records name).length - ((w.records name).filter (!filter.holds ·)).length =
          0 := by
        rw [kept, Nat.sub_self]
      exact counted ▸ .nothing (World.put_of_none_selected none)
  · obtain ⟨rfl, rfl⟩ := Prod.mk.inj (h.symm.trans failed)
    exact .refused refused rfl

/-- A record that could not be put in the place of those of its id has left the collections as
they were, or these are gone. -/
theorem replaceById_error {id : String} {record : Record} {error : StorageError}
    (h : (replaceById (memoryHost env).store name id record).run.run w = (.error error, w')) :
    w'.stored = w.stored ∨
      env.HasRefused ⟨.createMany, name⟩ error w' ∧ HasLost name (fieldIs "id" id) w w' := by
  obtain failed | ⟨count, v, deleted, h⟩ := error_of_exceptBind h
  · cases deletion_of_run failed with
    | refused _ same => exact .inl same
  · obtain failed | ⟨_, _, _, h⟩ := error_of_exceptBind h
    · obtain ⟨around, done | ⟨_, refused, same⟩⟩ :=
        permitted_run env ⟨.createMany, name⟩ (RecordStore.memory.createMany name [record]) v
      · cases failed.symm.trans done
      · cases failed.symm.trans same
        cases deletion_of_run deleted with
        | nothing same => exact .inl same
        | done _ lost => exact .inr ⟨refused, lost.there, lost.stored⟩
    · cases h

/-! ### Looking for pipelines -/

theorem keeps_findRecords (env : Environment ω) (name : String) (filter : RecordFilter) :
    Keeps World.stored (findRecords (memoryHost env).store name filter).run := by
  refine .exceptBind (keeps_has env name) fun found => ?_
  cases found with
  | false => exact .pure _ _
  | true => exact keeps_find env name filter

theorem keeps_completeDrafts {ε : Type} (env : Environment ω) (drafts : List PipelineDraft) :
    Keeps World.stored (completeDrafts
      (liftM (memoryHost env).freshId : ExceptT ε (StateM (World ω)) String) drafts).run := by
  induction drafts with
  | nil => exact .pure _ _
  | cons draft drafts ih =>
    refine .exceptBind (keeps_completeSteps (keeps_freshId env) draft.steps) fun _ => ?_
    exact .exceptBind ih fun _ => .pure _ _

/-- To look for a pipeline leaves all collections as they are. -/
theorem keeps_findPipeline? (env : Environment ω) (id : String) :
    Keeps World.stored (findPipeline? (memoryHost env).store (memoryHost env).freshId id).run :=
  .exceptBind (.exceptBind (.exceptBind (keeps_findRecords env _ _)
    fun _ => fun _ => rfl) fun drafts =>
    keeps_completeDrafts env drafts) fun _ => .pure _ _

/-- What is found is selected by the filter. -/
theorem holds_of_findRecords {records : List Record}
    (h : (findRecords (memoryHost env).store name filter).run.run w = (.ok records, w')) :
    ∀ record ∈ records, filter.holds record = true := by
  obtain ⟨found, v, -, h⟩ := ok_of_exceptBind h
  cases found with
  | false => cases h; exact List.forall_mem_nil _
  | true =>
    obtain ⟨around, done | ⟨_, -, same⟩⟩ :=
      permitted_run env ⟨.find, name⟩ (RecordStore.memory.find name filter) v
    · have h := h.symm.trans done
      simp only [RecordStore.memory, run_exceptBind, getThe_run] at h
      cases there : v.stored.records? name with
      | none =>
        rw [there] at h
        cases h
      | some stored =>
        rw [there] at h
        cases h
        exact fun record hrecord => (List.mem_filter.mp hrecord).2
    · cases h.symm.trans same

/-- A field with a text in the document of a record has it in the record. -/
theorem get?_of_lookup_str {record : Record} {field text : String}
    (h : (Json.ofFields record).lookup field = some (.str text)) :
    record.get? field = some (.text text) := by
  rw [Json.ofFields_eq_map] at h
  induction record with
  | nil => cases h
  | cons first record ih =>
    obtain ⟨other, value⟩ := first
    rw [List.map_cons, List.lookup_cons] at h
    rw [Record.get?, List.lookup_cons]
    generalize (field == other) = same at h ⊢
    cases same with
    | false => exact ih h
    | true =>
      -- Only a text is written as a text.
      have written : Json.ofValue value = .str text := Option.some.inj h
      cases value with
      | text same => exact congrArg (some ∘ Value.text) (Json.str.inj written)
      | float f => by_cases finite : f.isFinite <;> simp [Json.ofValue, finite] at written
      | _ => cases written

/-- A draft has the id of its record. -/
theorem PipelineDraft.get?_id_of_decodeRecord {record : Record} {draft : PipelineDraft}
    (h : decodeRecord PipelineDraft.reader record = .ok draft) :
    record.get? "id" = some (.text draft.id) := by
  rw [decodeRecord] at h
  cases read : PipelineDraft.reader (.ofRecord record) with
  | error rejection => simp [read] at h
  | ok same =>
    rw [read, mapError_ok, Except.ok.injEq] at h
    subst h
    refine get?_of_lookup_str ?_
    refine (?_ : FieldReader.Yields _ _ fun draft : PipelineDraft =>
        (Json.ofFields record).lookup "id" = some (.str draft.id)) _
      (build_of_readStruct_obj read
        (show shown (Json.ofRecord record) = .obj (Json.ofFields record) from rfl))
    simp only [FieldReader.yields_map_iff, FieldReader.yields_seq_iff,
      FieldReader.yields_required_iff, FieldReader.yields_optional_iff,
      FieldReader.yields_withDefault_iff, textField, Option.map_eq_some_iff, Reader.text_eq_ok_iff]
    rintro _ ⟨json, found, rfl⟩ id shownId
    intros
    rw [found]
    exact congrArg some shownId

/-- A pipeline that is found by an id has it. -/
theorem id_of_findPipelines {id : String} {found : List Pipeline}
    (h : (findPipelines (memoryHost env).store (memoryHost env).freshId
      (fieldIs "id" id)).run.run w = (.ok found, w')) : ∀ pipeline ∈ found, pipeline.id = id := by
  obtain ⟨drafts, v, drafted, completed⟩ := ok_of_exceptBind h
  obtain ⟨records, v', selected, decoded⟩ := ok_of_exceptBind drafted
  obtain ⟨decodes, rfl⟩ := Prod.mk.inj decoded
  obtain ⟨same, _, ran, each⟩ :=
    exists_completeDrafts_run (ε := StorageError) (memoryHost env).freshId drafts v'
  cases completed.symm.trans ran
  intro pipeline hpipeline
  obtain ⟨draft, hdraft, hid, -⟩ := exists_of_forall₂ each hpipeline
  obtain ⟨record, hrecord, read⟩ := exists_of_forall₂ (mapM_eq_ok_iff.mp decodes) hdraft
  have holds := holds_of_findRecords selected record hrecord
  rw [holds_fieldIs rfl (PipelineDraft.get?_id_of_decodeRecord read), beq_iff_eq] at holds
  exact hid.trans holds

/-! ### Ids of pipelines -/

section

variable {σ : Type} {now : StateM σ Timestamp} {freshId : StateM σ String} {input : PipelineInput}
  {pipeline : Pipeline} {v v' : σ}

/-- A pipeline that is made of a definition has a fresh id. -/
theorem Pipeline.exists_id_of_ofInput
    (h : (Pipeline.ofInput now freshId input).run.run v = (.ok pipeline, v')) :
    ∃ u, (freshId.run u).1 = pipeline.id := by
  obtain ⟨_, _, _, h⟩ := ok_of_exceptBind h
  obtain ⟨_, u, _, h⟩ := ok_of_exceptBind h
  obtain ⟨id, _, fresh, h⟩ := ok_of_exceptBind h
  cases h
  exact ⟨u, Except.ok.inj (Prod.mk.inj fresh).1⟩

/-- One that is redefined keeps its id. -/
theorem Pipeline.id_of_apply {old : Pipeline}
    (h : (old.apply now freshId input).run.run v = (.ok pipeline, v')) : pipeline.id = old.id := by
  obtain ⟨_, _, _, h⟩ := ok_of_exceptBind h
  obtain ⟨_, _, _, h⟩ := ok_of_exceptBind h
  cases h
  rfl

end

/-! ### Failed requests -/

namespace Service

variable {service : Service (StateM (World ω))} {input : PipelineInput}
    {id : String} {error : ServiceError}

/-- A request has lost a pipeline of an id: the store has refused one of its operations behind
another one that has deleted the records of the pipeline. -/
structure LosesPipeline (env : Environment ω) (call : StoreCall)
    (id : String) (error : ServiceError) (w w' : World ω) : Prop where
  refused : ∃ refusal, error = .storage refusal ∧ env.HasRefused call refusal w'
  lost : HasLost pipelinesCollection (fieldIs "id" id) w w'

/-- A pipeline that cannot be saved. -/
theorem save_error {pipeline : Pipeline} {text : String} (h : (do
      (savePipeline (memoryHost env).store pipeline).adapt ServiceError.storage
      service.report .info text
      return pipeline : ExceptT ServiceError (StateM (World ω)) Pipeline).run.run w =
        (.error error, w')) :
    w'.stored = w.stored ∨
      LosesPipeline env ⟨.createMany, pipelinesCollection⟩ pipeline.id error w w' := by
  obtain failed | ⟨_, v, -, h⟩ := error_of_exceptBind h
  · obtain ⟨refusal, unsaved, rfl⟩ := error_of_adapt failed
    exact (replaceById_error unsaved).imp_right fun ⟨refused, lost⟩ =>
      ⟨⟨refusal, rfl, refused⟩, lost⟩
  -- Only the store can fail.
  · obtain failed | ⟨_, _, -, h⟩ := error_of_exceptBind h
    · cases failed
    · cases h

section

variable (onMemory : service.RunsIn env)

include onMemory

theorem keeps_get (id : String) : Keeps World.stored (service.get id).run := by
  rw [get, onMemory.host]
  refine .exceptBind ((keeps_findPipeline? env id).adapt _) fun found => ?_
  cases found with
  | some pipeline => exact .pure _ _
  | none => exact .throw _ _

/-- The pipeline that is got has the id that was asked for. -/
theorem id_of_get {pipeline : Pipeline} (h : (service.get id).run.run w = (.ok pipeline, w')) :
    pipeline.id = id := by
  rw [get, onMemory.host] at h
  obtain ⟨first?, v, looked, h⟩ := ok_of_exceptBind h
  obtain ⟨pipelines, v', found, first⟩ := ok_of_exceptBind (ok_of_adapt looked)
  cases first? with
  | none => cases h
  | some same =>
    cases h
    have head : pipelines.head? = some pipeline := Except.ok.inj (Prod.mk.inj first).1
    exact id_of_findPipelines found pipeline (List.mem_of_mem_head? head)

/-- A pipeline that cannot be created. Only one that gets the id of another one can do harm. -/
theorem create_error (h : (service.create input).run.run w = (.error error, w')) :
    w'.stored = w.stored ∨ ∃ around, LosesPipeline env ⟨.createMany, pipelinesCollection⟩
      (env.freshId.run around).1 error w w' := by
  rw [create, onMemory.host] at h
  obtain failed | ⟨_, v, passed, built⟩ := error_of_exceptBind h
  · rw [ensureValid_run] at failed
    exact .inl (congrArg World.stored (Prod.mk.inj failed).2.symm)
  rw [ensureValid_run] at passed
  obtain rfl : w = v := (Prod.mk.inj passed).2
  have keeps := (keeps_ofInput (keeps_now env) (keeps_freshId env) input).adapt ServiceError.step w
  obtain failed | ⟨pipeline, v, ofInput, saved⟩ := error_of_exceptBind built
  · rw [failed] at keeps
    exact .inl keeps
  · rw [ofInput] at keeps
    obtain ⟨around, hid⟩ := Pipeline.exists_id_of_ofInput (ok_of_adapt ofInput)
    obtain same | loses := save_error saved
    · exact .inl (same.trans keeps)
    · exact .inr ⟨around.around, hid ▸ ⟨loses.refused, loses.lost.of_stored_eq keeps⟩⟩

/-- A pipeline that cannot be updated. -/
theorem update_error (h : (service.update id input).run.run w = (.error error, w')) :
    w'.stored = w.stored ∨ LosesPipeline env ⟨.createMany, pipelinesCollection⟩ id error w w' := by
  rw [update] at h
  have looks := keeps_get onMemory id w
  obtain failed | ⟨old, v, looked, checked⟩ := error_of_exceptBind h
  · rw [failed] at looks
    exact .inl looks
  rw [looked] at looks
  obtain failed | ⟨_, same, passed, applied⟩ := error_of_exceptBind checked
  · rw [ensureValid_run] at failed
    exact .inl ((congrArg World.stored (Prod.mk.inj failed).2.symm).trans looks)
  rw [ensureValid_run] at passed
  obtain rfl : v = same := (Prod.mk.inj passed).2
  rw [onMemory.host] at applied
  have keeps :=
    (keeps_apply (keeps_now env) (keeps_freshId env) old input).adapt ServiceError.step v
  obtain failed | ⟨pipeline, v', built, saved⟩ := error_of_exceptBind applied
  · rw [failed] at keeps
    exact .inl (keeps.trans looks)
  · rw [built] at keeps
    have hid := (Pipeline.id_of_apply (ok_of_adapt built)).trans (id_of_get onMemory looked)
    obtain same | loses := save_error saved
    · exact .inl (same.trans (keeps.trans looks))
    · exact .inr (hid ▸ ⟨loses.refused, loses.lost.of_stored_eq (keeps.trans looks)⟩)

/-- A pipeline that cannot be deleted, or whose runs cannot. -/
theorem delete_error (h : (service.delete id).run.run w = (.error error, w')) :
    w'.stored = w.stored ∨ LosesPipeline env ⟨.deleteWhere, runsCollection⟩ id error w w' := by
  rw [delete, onMemory.host] at h
  obtain failed | ⟨found, v, gone, behind⟩ := error_of_exceptBind h
  · obtain ⟨refusal, undeleted, rfl⟩ := error_of_adapt failed
    obtain failed | ⟨_, _, _, counted⟩ := error_of_exceptBind undeleted
    · cases deletion_of_run failed with
      | refused _ same => exact .inl same
    · cases counted
  obtain ⟨count, v', deleted, counted⟩ := ok_of_exceptBind (ok_of_adapt gone)
  cases counted
  cases deletion_of_run deleted with
  | nothing same =>
    cases behind
    exact .inl same
  | done some lost =>
    rw [decide_eq_true some] at behind
    obtain failed | ⟨_, _, _, reported⟩ := error_of_exceptBind behind
    · obtain ⟨refusal, kept, rfl⟩ := error_of_adapt failed
      cases deletion_of_run kept with
      | refused refused same =>
        exact .inr ⟨⟨refusal, rfl, refused⟩, lost.there, same.trans lost.stored⟩
    · cases reported

end

end Service

/-- **What a failed request leaves in the store.** Whatever the store refuses, a request to create,
to update or to delete a pipeline that fails leaves every collection as it was, unless the store
has refused its last operation: to put the record of a pipeline of an id that other records have
had, or to delete the runs of a pipeline that was there. Then the records of this id are gone, and
all others are as they were. -/
theorem failedRequest_stored {service : Service (StateM (World ω))} (onMemory : service.RunsIn env)
    (w w' : World ω) (error : ServiceError) :
    (∀ input, (service.create input).run.run w = (.error error, w') →
      w'.stored = w.stored ∨ ∃ around, Service.LosesPipeline env ⟨.createMany, pipelinesCollection⟩
        (env.freshId.run around).1 error w w') ∧
    (∀ id input, (service.update id input).run.run w = (.error error, w') →
      w'.stored = w.stored ∨
        Service.LosesPipeline env ⟨.createMany, pipelinesCollection⟩ id error w w') ∧
    ∀ id, (service.delete id).run.run w = (.error error, w') →
      w'.stored = w.stored ∨
        Service.LosesPipeline env ⟨.deleteWhere, runsCollection⟩ id error w w' :=
  ⟨fun _ => Service.create_error onMemory, fun _ _ => Service.update_error onMemory,
    fun _ => Service.delete_error onMemory⟩

/-- A service whose store always refuses one operation. -/
def Service.refusing (call : StoreCall) : Service (StateM (World Unit)) where
  host := memoryHost (.refusing call (.failed "disk full"))
  settings := {}
  activeRuns := aside (pure [])
  setActiveRuns _ := aside (pure ())

theorem Service.refusing_runsIn (call : StoreCall) :
    (Service.refusing call).RunsIn (.refusing call (.failed "disk full")) where
  host := rfl
  activeRuns := ⟨_, rfl⟩
  setActiveRuns _ := ⟨_, rfl⟩

/-- A store with one pipeline. -/
def keptPipeline : World Unit :=
  ⟨[(pipelinesCollection, [(Pipeline.ofSteps [.passOn "copy" "users" "copied"]).toRecord])], ()⟩

/-- The pipeline gets a new definition, while the store refuses one operation. -/
def updateRefusing (call : StoreCall) : Except ServiceError Pipeline × World Unit :=
  ((Service.refusing call).update "pipeline" (.takeUpTo 10)).run.run keptPipeline

theorem failedRequest_stored_undeleted :
    (∃ error, (updateRefusing ⟨.deleteWhere, pipelinesCollection⟩).1 = .error error) ∧
      (updateRefusing ⟨.deleteWhere, pipelinesCollection⟩).2.stored = keptPipeline.stored := by
  have failed : (updateRefusing ⟨.deleteWhere, pipelinesCollection⟩).1.isOk =
    false := by decide +kernel
  cases result : updateRefusing ⟨.deleteWhere, pipelinesCollection⟩ with
  | mk first w' =>
    cases first with
    | ok pipeline => simp [result, Except.isOk, Except.toBool] at failed
    | error error =>
      refine ⟨⟨error, rfl⟩, ?_⟩
      obtain same | loses :=
        (failedRequest_stored (Service.refusing_runsIn _) keptPipeline w' error).2.1
          "pipeline" (.takeUpTo 10) result
      · exact same
      -- The operation that is refused is another one.
      · obtain ⟨refusal, -, around, refused⟩ := loses.refused
        cases (Prod.mk.inj refused).1

/-- A failed update loses the pipeline when the store refuses its new record. -/
theorem updateRefusing_loses_pipeline :
    (Service.refusing ⟨.createMany, pipelinesCollection⟩).RunsIn
        (.refusing ⟨.createMany, pipelinesCollection⟩ (.failed "disk full")) ∧
      (updateRefusing ⟨.createMany, pipelinesCollection⟩).1.isOk = false ∧
      (keptPipeline.records pipelinesCollection).length = 1 ∧
      ((updateRefusing ⟨.createMany, pipelinesCollection⟩).2.records pipelinesCollection).length =
        0 :=
  ⟨Service.refusing_runsIn _, by decide +kernel, rfl, by decide +kernel⟩

end RecordFlow
