import RecordFlow.Proofs.Value.Path
import RecordFlow.Step.Process

/-!
# Lists taken apart in place

A step that takes lists apart reads a list at a path and sets its items at the same path, one in
each row. Reading and setting go different ways: a path is read through lists by position and, first
of all, as the name of a field, but it is set through objects only. A list on the way to the list
that is taken apart gives way to an object.

## Main results

* `FlattenConfig.process_flatten` — the rows of a record, and what they have of it
* `FlattenConfig.process_flatten_grid` — a list on the way is lost, and a field with
  the whole path as its name stays
-/

namespace RecordFlow

namespace FlattenConfig

variable {config : FlattenConfig} {record row : Record} {item : Value}

/-- What a row has of a record. Paths that are neither the beginning of the path of the list nor
lead on from it lead where they lead in the record, unless the way to the list cuts them off. If the
path of the list is read where it is set, it leads to the item, and what is cut off is gone. -/
structure IsRowOf (config : FlattenConfig) (record : Record) (item : Value)
    (row : Record) : Prop where
  kept : ∀ path, LieApart (pathSegments config.field) (pathSegments path) →
    record.cutsOff config.field path = false → row.getPath? path = record.getPath? path
  placed : record.ReadsAsSet config.field → row.getPath? config.field = some item
  gone : record.ReadsAsSet config.field →
    ∀ path, LieApart (pathSegments config.field) (pathSegments path) →
    record.cutsOff config.field path = true → row.getPath? path = none

theorem isRowOf_setPath (nonempty : config.field.isEmpty = false) (record : Record) (item : Value) :
    config.IsRowOf record item (record.setPath config.field item) where
  kept path apart clear := by
    rw [record.getPath?_setPath_of_lieApart apart, clear, if_neg Bool.false_ne_true]
  placed reads := Record.getPath?_setPath nonempty reads item
  gone _ path apart cut := by rw [record.getPath?_setPath_of_lieApart apart, cut, if_pos rfl]

theorem rowsOf_eq {items : List Value} (found : record.getPath? config.field = some (.list items))
    (nonempty : items ≠ []) : config.rowsOf record = items.map (record.setPath config.into) := by
  obtain ⟨first, rest, rfl⟩ := List.exists_cons_of_ne_nil nonempty
  rw [rowsOf, found]
  rfl

/-- Only a list stands in the way to a list, if its path is read where it is set. -/
theorem exists_list_of_obstacle? (reads : record.ReadsAsSet config.field) {value : Value}
    (found : record.getPath? config.field = some value) {cut : List String}
    (obstacle : record.obstacle? (pathSegments config.field) = some cut) :
    ∃ outer, record.descend? cut = some (.list outer) := by
  -- A path with dots is read segment by segment, and the way of a path
  -- without dots has nothing on it.
  by_cases dotted : '.' ∈ config.field.toList
  · rw [Record.getPath?, reads dotted] at found
    split at found
    · cases found
    · exact Record.exists_list_of_obstacle? found obstacle
  · rw [pathSegments, Text.splitAtChar_of_not_mem dotted] at obstacle
    cases obstacle

/-- **A list is taken apart in place.** A record with a list that is not empty at the path of the
step has one row for each item, in the order of the items, and its rows stand between those of the
records in front of it and those of the records behind it. A row has the item in place of the list
and all else as it is in the record, except for what is in another list through which the way to the
list leads: an object takes its place. -/
theorem process_flatten (now : Timestamp) (config : FlattenConfig) (inPlace : config.target = none)
    (front back : List Record) (record : Record) (items : List Value)
    (found : record.getPath? config.field = some (.list items)) (nonempty : items ≠ []) :
    ∃ before made behind,
      StepConfig.process now [front] (.flatten config) = .ok ⟨before, front.length⟩ ∧
      StepConfig.process now [back] (.flatten config) = .ok ⟨behind, back.length⟩ ∧
      StepConfig.process now [front ++ record :: back] (.flatten config) =
        .ok ⟨before ++ made ++ behind, (front ++ record :: back).length⟩ ∧
      List.Forall₂ (config.IsRowOf record) items made ∧
      (record.ReadsAsSet config.field → ∀ cut,
        record.obstacle? (pathSegments config.field) = some cut →
        ∃ outer, record.descend? cut = some (.list outer)) := by
  have named : config.field.isEmpty = false := by
    cases empty : config.field.isEmpty with
    | false => rfl
    | true => rw [Record.getPath?, empty] at found; cases found
  have into : config.into = config.field := by rw [FlattenConfig.into, inPlace]; rfl
  refine ⟨_, items.map (record.setPath config.field), _, rfl, rfl, ?_, ?_,
    fun reads cut => exists_list_of_obstacle? reads found⟩
  · rw [StepConfig.process, StepConfig.onOne, rows, List.flatMap_append, List.flatMap_cons,
      rowsOf_eq found nonempty, into, List.append_assoc]
    rfl
  · exact List.forall₂_map_right_iff.mpr
      (List.forall₂_same.mpr fun item _ => isRowOf_setPath named record item)

/-- The cells of the first row of a board. -/
def firstCells : FlattenConfig where
  source := "boards"
  output := "cells"
  field := "grid.0"
  target := none
  preserveEmpty := false

/-- A board with a row of cells, two loose cells behind it, and a field with a name that looks
like the way to one of them. -/
def board : Record :=
  [("id", .int 7), ("grid.1", .text "named"),
    ("grid", .list [.list [.text "x", .text "y"], .text "z", .text "w"])]

theorem process_flatten_board : ∃ first second,
    StepConfig.process .epoch [[] ++ board :: []] (.flatten firstCells) = .ok ⟨[first, second], 1⟩ ∧
      first.getPath? "grid.0" = some (.text "x") ∧ second.getPath? "grid.0" = some (.text "y") ∧
      first.getPath? "id" = some (.int 7) ∧ first.getPath? "grid.1" = some (.text "named") ∧
      first.getPath? "grid.2" = none := by
  obtain ⟨before, made, behind, front, back, all, rows, -⟩ :=
    process_flatten .epoch firstCells rfl [] [] board [.text "x", .text "y"] rfl (by simp)
  cases front
  cases back
  obtain ⟨first, others, x, others_rows, rfl⟩ := List.forall₂_cons_left_iff.mp rows
  obtain ⟨second, nobody, y, no_rows, rfl⟩ := List.forall₂_cons_left_iff.mp others_rows
  obtain rfl := List.forall₂_nil_left_iff.mp no_rows
  have reads : board.ReadsAsSet firstCells.field := fun _ => rfl
  exact ⟨first, second, all, x.placed reads, y.placed reads, x.kept "id" (by decide) (by decide),
    x.kept "grid.1" (by decide) (by decide), x.gone reads "grid.2" (by decide) (by decide)⟩

/-- The list on the way is lost: the board has a cell at `grid.2`, and its rows have none. A field
that has the whole path as its name keeps its list, since the item is set elsewhere. -/
theorem process_flatten_grid :
    (∃ first second, StepConfig.process .epoch [[board]] (.flatten firstCells) =
      .ok ⟨[first, second], 1⟩ ∧ board.getPath? "grid.0" = some (.list [.text "x", .text "y"]) ∧
      LieApart (pathSegments "grid.0") (pathSegments "grid.2") ∧
      board.getPath? "grid.2" = some (.text "w") ∧ first.getPath? "grid.2" = none) ∧
    ∃ row, StepConfig.process .epoch [[[("grid.0", .list [.text "x"])]]]
    (.flatten firstCells) = .ok ⟨[row], 1⟩ ∧
      row.getPath? "grid.0" = some (.list [.text "x"]) := by
  constructor
  · refine ⟨[("id", .int 7), ("grid.1", .text "named"), ("grid", .object [("0", .text "x")])],
      [("id", .int 7), ("grid.1", .text "named"), ("grid", .object [("0", .text "y")])], ?_,
      rfl, by decide, rfl, rfl⟩
    rfl
  · refine ⟨[("grid.0", .list [.text "x"]), ("grid", .object [("0", .text "x")])], ?_, rfl⟩
    rfl

end FlattenConfig

end RecordFlow
