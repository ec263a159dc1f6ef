import RecordFlow.Proofs.Pipeline.Rereading
import RecordFlow.Run.Document

/-!
# Runs that are written and read again

A run whose times survive their texts, whose counts are signed integers and whose context is finite
is read again from its document.

## Main definitions

* `PipelineRun.IsSound` — what stands in a run can be written and read again

## Main results

* `PipelineRun.reader_toJson` — a sound run is read again
* `PipelineRun.fits_toJson` — the integers of its document are signed integers of 64 bits
* `isInt64_millisBetween` — the time between two instants is such an integer
-/

namespace RecordFlow

instance : Naming RunStatus.names := ⟨fun status => by cases status <;> decide⟩
instance : Naming StepStatus.names := ⟨fun status => by cases status <;> decide⟩

/-- The times of a run or of a step can be written and read again. -/
structure HasSoundTimes (startedAt completedAt : Option Timestamp)
    (durationMs : Option Int) : Prop where
  startedAt : ∀ t ∈ startedAt, t.Survives
  completedAt : ∀ t ∈ completedAt, t.Survives
  durationMs : ∀ i ∈ durationMs, IsInt64 i

/-- What stands in the result of a step can be written and read again. -/
structure StepResult.IsSound (result : StepResult) : Prop where
  times : HasSoundTimes result.startedAt result.completedAt result.durationMs
  inputRows : result.inputRows < int64Limit
  outputRows : result.outputRows < int64Limit

/-- What stands in a run can be written and read again. -/
structure PipelineRun.IsSound (run : PipelineRun) : Prop where
  createdAt : run.createdAt.Survives
  times : HasSoundTimes run.startedAt run.completedAt run.durationMs
  results : ∀ result ∈ run.stepResults, result.IsSound
  nodup : run.context.names.Nodup
  finite : run.context.IsFinite

/-! ### Times -/

section

variable {t t' : Option Timestamp} {i i' : Option Int}

theorem readsAs_timestamp_iff (survive : ∀ a ∈ t, a.Survives) :
    ReadsAs (Reader.optional Timestamp.reader) none
      (t.map ((wrap : Json → Json) ∘ Timestamp.toJson)) t' ↔ t' = t :=
  readsAs_optional_map_iff fun a ha => ⟨rfl, (survive a ha).reader_wrap⟩

theorem readsAs_int64_iff (sound : ∀ a ∈ i, IsInt64 a) :
    ReadsAs (Reader.optional Reader.int64) none (i.map ((wrap : Json → Json) ∘ Json.int)) i' ↔
      i' = i :=
  readsAs_optional_map_iff fun a ha => by simpa [Json.isNull, IsInt64] using sound a ha

theorem fits_timeFields (t t' : Option Timestamp) {durationMs : Option Int}
    (sound : ∀ a ∈ durationMs, IsInt64 a) :
    ∀ field ∈ timeFields t t' durationMs, field.2.Fits int64Limit := by
  have duration := fun a ha => Expression.fits_int (sound a ha)
  simpa [timeFields, or_imp, forall_and, Timestamp.toJson] using duration

end

/-- The milliseconds between two instants are a signed integer of 64 bits. -/
theorem isInt64_millisBetween (start stop : Timestamp) : IsInt64 (millisBetween start stop) := by
  obtain ⟨day, second, nano, ⟨low, high⟩, second_lt, nano_lt⟩ := start
  obtain ⟨day', second', nano', ⟨low', high'⟩, second_lt', nano_lt'⟩ := stop
  have first : firstDay = -96465292 := by decide
  have last : lastDay = 95026236 := by decide
  rw [first] at low low'
  rw [last] at high high'
  rw [secondsPerDay] at second_lt second_lt'
  rw [nanosPerSecond] at nano_lt nano_lt'
  rw [millisBetween]
  generalize hspan : Timestamp.nanosSince _ _ = span
  rw [Timestamp.nanosSince] at hspan
  simp only [Timestamp.seconds, secondsPerDay, nanosPerSecond] at hspan
  have divided : (span.tdiv 1000000).natAbs = span.natAbs / 1000000 := Int.natAbs_tdiv span 1000000
  -- Of these nanoseconds 2 ^ 80 are still less than 2 ^ 63 milliseconds.
  have bounded : span.natAbs < 2 ^ 80 := by
    split at hspan
    · omega
    · split at hspan <;> omega
  exact ⟨by omega, by omega⟩

/-! ### Results -/

namespace StepResult

variable {result : StepResult}

theorem nodup_fields (result : StepResult) :
    ∃ fields, result.toJson = .obj fields ∧ (fields.map Prod.fst).Nodup := by
  -- The fields that may be missing stand in the middle, so each way to leave some out is looked at.
  refine ⟨_, rfl, ?_⟩
  cases result.startedAt <;> cases result.completedAt <;> cases result.durationMs <;>
    cases result.error <;> simp [timeFields, optionalField]

/-- The result of a step that was written is read again. -/
theorem reader_wrap (sound : result.IsSound) :
    StepResult.reader (wrap result.toJson : Json) = .ok result := by
  obtain ⟨fields, same, nodup⟩ := result.nodup_fields
  obtain rfl := Json.obj.inj same
  have kind : Reader.choice StepKind.names (StepKind.names.map Prod.fst) ""
      (wrap (.str result.kind.name) : Json) = .ok result.kind := by
    rw [← nameIn_stepKind, choice_wrap_iff]
  have inputRows : result.inputRows < 2 ^ 64 := Nat.lt_trans sound.inputRows (by decide)
  have outputRows : result.outputRows < 2 ^ 64 := Nat.lt_trans sound.outputRows (by decide)
  refine readStruct_of_obj rfl nodup ?_
  simpa [List.lookup_cons, List.lookup_append, timeFields, kind,
    readsAs_timestamp_iff sound.times.startedAt, readsAs_timestamp_iff sound.times.completedAt,
    readsAs_int64_iff sound.times.durationMs, and_assoc] using ⟨inputRows, outputRows⟩

theorem fits_toJson (sound : result.IsSound) : result.toJson.Fits int64Limit := by
  have times := fits_timeFields result.startedAt result.completedAt sound.times.durationMs
  have inputRows := Expression.fits_size sound.inputRows
  have outputRows := Expression.fits_size sound.outputRows
  rw [toJson, Json.fits_obj_iff]
  simp only [List.forall_mem_append]
  exact ⟨⟨⟨by simp [inputRows, outputRows], times⟩, by simp⟩, by simp⟩

end StepResult

/-! ### Runs -/

namespace PipelineRun

variable {run : PipelineRun}

theorem nodup_fields (run : PipelineRun) :
    ∃ fields, run.toJson = .obj fields ∧ (fields.map Prod.fst).Nodup := by
  refine ⟨_, rfl, ?_⟩
  cases run.startedAt <;> cases run.completedAt <;> cases run.durationMs <;> cases run.error <;>
    cases run.triggeredBy <;> simp [timeFields, optionalField]

/-- A run that was written is read again. -/
theorem reader_toJson (sound : run.IsSound) : PipelineRun.reader run.toJson = .ok run := by
  obtain ⟨fields, same, nodup⟩ := run.nodup_fields
  obtain rfl := Json.obj.inj same
  have results : Reader.listOf StepResult.reader
      (wrap (.arr (run.stepResults.map StepResult.toJson)) : Json) = .ok run.stepResults :=
    listOf_wrap fun result hresult => StepResult.reader_wrap (sound.results result hresult)
  have context : Reader.record (wrap (.ofRecord run.context) : Json) = .ok run.context :=
    Reader.record_of_obj rfl sound.nodup sound.finite
  refine readStruct_of_obj rfl nodup ?_
  simp [List.lookup_cons, List.lookup_append, timeFields, results, context,
    sound.createdAt.reader_wrap, readsAs_timestamp_iff sound.times.startedAt,
    readsAs_timestamp_iff sound.times.completedAt, readsAs_int64_iff sound.times.durationMs,
    -Bool.exists_bool]

/-- The integers of the document of a run are signed integers of 64 bits. -/
theorem fits_toJson (sound : run.IsSound) : run.toJson.Fits int64Limit := by
  have times := fits_timeFields run.startedAt run.completedAt sound.times.durationMs
  have results : (Json.arr (run.stepResults.map StepResult.toJson)).Fits int64Limit :=
    StepConfig.fits_map fun result hresult => StepResult.fits_toJson (sound.results result hresult)
  have context : (Json.ofRecord run.context).Fits int64Limit :=
    .obj (Json.fits_ofFields run.context)
  rw [toJson, Json.fits_obj_iff]
  simp only [List.forall_mem_append]
  exact ⟨⟨⟨⟨⟨⟨by simp, by simp⟩, by simp [Timestamp.toJson]⟩, times⟩, by simp [results]⟩, by simp⟩,
    by simp [context]⟩

end PipelineRun

end RecordFlow
