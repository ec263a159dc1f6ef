import RecordFlow.Expression.Operation
import RecordFlow.Proofs.Calendar.IsoText

/-!
# Dates in fields

An operation on dates that results in an instant gives its text, and another operation reads it
from a field that holds it. It gets the same instant up to the milliseconds if the year has four
digits, and nothing otherwise.

## Main definitions

* `DateOp.written?` — the instant whose text an operation gives

## Main results

* `DateOp.evaluate_eq_map_written?` — what such an operation gives
* `DateOp.read?_written` — which instants are read again
* `DateOp.read?_written_year12024` — a year of five digits is not
-/

namespace RecordFlow

namespace DateOp

variable {op : DateOp} {now t : Timestamp} {record : Record} {value : Value}

/-- Whether an operation results in an instant that comes from a field. -/
def resultsInInstant : DateOp → Bool
  | add .. | parse .. | startOf .. | endOf .. => true
  | _ => false

/-- The instant whose text an operation gives. -/
def written? (record : Record) : DateOp → Option Timestamp
  | add field amount unit => (read? record field).bind fun t => unit.add? t amount
  | parse field template => (record.getPath? field).bind fun value =>
    match value, template with
    | .text s, some template => Timestamp.parseWith? s template
    | _, _ => instant? value
  | startOf field unit => (read? record field).bind unit.startOf?
  | endOf field unit => (read? record field).bind unit.endOf?
  | _ => none

theorem evaluate_eq_map_written? (kind : op.resultsInInstant = true) :
    op.evaluate now record = (op.written? record).map isoValue := by
  cases op with
  | add | parse | startOf | endOf =>
    rw [evaluate, written?, Option.map_bind]
    rfl
  | _ => cases kind

/-! ### Regular instants -/

theorem isRegular_of_instant? (h : instant? value = some t) : t.IsRegular := by
  cases value with
  | text s => exact Timestamp.isRegular_of_parse? h
  | int millis => exact Timestamp.isRegular_of_ofMillis? h
  | _ => cases h

theorem isRegular_of_read? {field : String} (h : read? record field = some t) : t.IsRegular := by
  obtain ⟨value, -, found⟩ := Option.bind_eq_some_iff.mp h
  exact isRegular_of_instant? found

/-- A leap second that an operation gives is the last second of a minute. -/
theorem isRegular_of_written? (h : op.written? record = some t) : t.IsRegular := by
  cases op with
  | add field amount unit =>
    obtain ⟨start, hstart, hadd⟩ := Option.bind_eq_some_iff.mp h
    exact DateUnit.isRegular_of_add? (isRegular_of_read? hstart) hadd
  | parse field template =>
    obtain ⟨value, -, found⟩ := Option.bind_eq_some_iff.mp h
    split at found
    · exact Timestamp.isRegular_of_parseWith? found
    · exact isRegular_of_instant? found
  | startOf field unit =>
    obtain ⟨d, -, hstart⟩ := Option.bind_eq_some_iff.mp h
    exact DateUnit.isRegular_of_startOf? hstart
  | endOf field unit =>
    obtain ⟨d, -, hend⟩ := Option.bind_eq_some_iff.mp h
    exact DateUnit.isRegular_of_endOf? hend
  | _ => cases h

/-! ### Reading what was written -/

/-- **What an operation gives is read again** from every field that holds it, without what is finer
than milliseconds, exactly if the year has four digits. -/
theorem read?_written (kind : op.resultsInInstant = true)
    (h : op.evaluate now record = some value) :
    ∃ t, op.written? record = some t ∧ value = .text t.toIso ∧
      (Timestamp.parse? t.toIso = some t.truncateToMilli ↔ t.HasFourDigitYear) ∧
      ∀ other field, Record.getPath? other field = some value →
        read? other field = if t.HasFourDigitYear then some t.truncateToMilli else none := by
  rw [evaluate_eq_map_written? kind, Option.map_eq_some_iff] at h
  obtain ⟨t, hwritten, rfl⟩ := h
  have parsed : Timestamp.parse? t.toIso =
      if t.HasFourDigitYear then some t.truncateToMilli else none :=
    Timestamp.parse?_toIso (isRegular_of_written? hwritten)
  refine ⟨t, hwritten, rfl, ?_, fun other field holds => ?_⟩
  · rw [parsed]
    simp
  · rw [read?, holds, ← parsed]
    rfl

/-- The middle of the leap second at the end of 2016. -/
def leapSecond : Timestamp := (Timestamp.ofDay? 17166 86399 1500000000).getD .epoch

/-- The middle of a leap second is read again. -/
theorem read?_written_leapSecond :
    (parse "at" none).evaluate .epoch [("at", .text "2016-12-31T23:59:60.5Z")] =
      some (.text "2016-12-31T23:59:60.500Z") ∧
    read? [("at", .text "2016-12-31T23:59:60.500Z")] "at" = some leapSecond := by
  have found : written? [("at", .text "2016-12-31T23:59:60.5Z")] (parse "at" none) =
      some leapSecond := by
    decide +kernel
  have text : leapSecond.toIso = "2016-12-31T23:59:60.500Z" := by decide +kernel
  have evaluated : (parse "at" none).evaluate .epoch [("at", .text "2016-12-31T23:59:60.5Z")] =
      some (.text "2016-12-31T23:59:60.500Z") := by
    rw [evaluate_eq_map_written? rfl, found, Option.map_some, isoValue, text]
  obtain ⟨t, ht, -, -, again⟩ := read?_written rfl evaluated
  obtain rfl := Option.some_inj.mp (ht.symm.trans found)
  refine ⟨evaluated, (again [("at", .text "2016-12-31T23:59:60.500Z")] "at" rfl).trans ?_⟩
  decide +kernel

/-- The first of January of the year 12024. -/
def year12024 : Timestamp := (Timestamp.ofDay? 3672148 0 0).getD .epoch

/-- The first of January of the year 12024 is read as a date, and its text is
written, but not read again. -/
theorem read?_written_year12024 :
    (parse "at" none).written? [("at", .text "+12024-01-01")] = some year12024 ∧
    (parse "at" none).evaluate .epoch [("at", .text "+12024-01-01")] = some
      (.text "+12024-01-01T00:00:00.000Z") ∧
    Timestamp.parse? year12024.toIso ≠ some year12024.truncateToMilli ∧
    (parse "at" none).evaluate .epoch [("at", .text "+12024-01-01T00:00:00.000Z")] = none := by
  have found : written? [("at", .text "+12024-01-01")] (parse "at" none) = some year12024 := by
    decide +kernel
  have text : year12024.toIso = "+12024-01-01T00:00:00.000Z" := by decide +kernel
  have lost : written? [("at", .text "+12024-01-01T00:00:00.000Z")] (parse "at" none) =
    none := by decide +kernel
  refine ⟨found, ?_, ?_, ?_⟩
  · rw [evaluate_eq_map_written? rfl, found, Option.map_some, isoValue, text]
  · rw [text]
    decide +kernel
  · rw [evaluate_eq_map_written? rfl, lost, Option.map_none]

end DateOp

end RecordFlow
