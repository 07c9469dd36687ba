import Questionnaire.Table.Basic

/-!
# Merged cells

A cell that spans n rows covers the n - 1 rows below it, which keep a hidden cell in its column.
All rows of such a group read the cell of the first one, so that a check never sees a group that
is only partly filled in. `mergeSpan?` finds the group of a row, `mergedRowIds` lists it,
`ownerCell?` is the cell that holds the value, and `expandRowIds` closes a list of rows under
merging.
-/

namespace Questionnaire.Table

/-- A run of rows: the first position and the one after the last. -/
structure Span where
  start : Nat
  stop : Nat
  deriving DecidableEq, Repr

/-- The position of the first row with this id. -/
def rowPosition? (rowId : String) (rows : List Row) : Option Nat :=
  rows.findIdx? fun r => r.id == rowId

/-- The cell of the row at a position. -/
def cellAt? (rows : List Row) (index col : Nat) : Option Cell :=
  rows[index]?.bind fun r => r.cells[col]?

/-- The nearest cell above position `bound` that covers the row at `index`. A row that lacks the
column is passed over; a cell that is neither covering nor hidden ends the search. -/
def coverBelow (rows : List Row) (index col : Nat) : (bound : Nat) → Option Span
  | 0 => none
  | start + 1 => match cellAt? rows start col with
    | none => coverBelow rows index col start
    | some cell =>
      if 1 < cell.span ∧ index < start + cell.span then
        some ⟨start, min (start + cell.span) rows.length⟩
      else if cell.isHidden then coverBelow rows index col start
      else none

/-- The rows merged with the row at `index` in a column; `none` when it stands alone. -/
def mergeSpan? (rows : List Row) (index col : Nat) : Option Span :=
  coverBelow rows index col (index + 1)

/-- The rows of a span. -/
def Span.slice (s : Span) (rows : List Row) : List Row :=
  (rows.take s.stop).drop s.start

/-- The group of the first row with this id in a column. -/
def groupSpan? (rowId : String) (rows : List Row) (col : Nat) : Option Span :=
  (rowPosition? rowId rows).bind fun index => mergeSpan? rows index col

/-- The ids of the rows merged with a row in a column, in order; its own id when it stands alone
or is unknown. -/
def mergedRowIds (rowId : String) (rows : List Row) (col : Nat) : List String :=
  match groupSpan? rowId rows col with
  | some span => (span.slice rows).map (·.id)
  | none => [rowId]

/-- How a row is merged in a column. -/
structure MergeInfo where
  isMerged : Bool
  startRowId : String
  rowIds : List String
  deriving DecidableEq

/-- How the row with this id is merged in a column. -/
def mergeInfo (rowId : String) (rows : List Row) (col : Nat) : MergeInfo :=
  match groupSpan? rowId rows col with
  | some span => ⟨true, (rows[span.start]?.map (·.id)).getD rowId, (span.slice rows).map (·.id)⟩
  | none => ⟨false, rowId, [rowId]⟩

/-- The cell that holds the value of a row in a column: that of the first row of its group. -/
def ownerCell? (rowId : String) (rows : List Row) (col : Nat) : Option Cell :=
  (rowPosition? rowId rows).bind fun index =>
    cellAt? rows (((mergeSpan? rows index col).map (·.start)).getD index) col

/-- The first row with this id. -/
def row? (rowId : String) (rows : List Row) : Option Row :=
  rows.find? fun r => r.id == rowId

/-- Whether the value of a row in a column comes from a widget. -/
def isInteractiveAt (rowId : String) (rows : List Row) (col : Nat) : Bool :=
  (ownerCell? rowId rows col).any fun c => c.kind.isInteractive

/-- The columns in which the value of a row comes from a widget. -/
def interactiveColumns (rowId : String) (rows : List Row) : List Nat :=
  match row? rowId rows with
  | some row => (List.range row.cells.length).filter (isInteractiveAt rowId rows)
  | none => []

/-- The columns in scope for a row: the given one, or every interactive one. -/
def scopeColumns (col : Option Nat) (rowId : String) (rows : List Row) : List Nat :=
  match col with
  | some c => [c]
  | none => interactiveColumns rowId rows

/-- The same list without repetitions, each element where it stands first. -/
def firstOccurrences : List String → List String
  | [] => []
  | a :: rest => a :: (firstOccurrences rest).filter (· ≠ a)

@[simp] theorem mem_firstOccurrences {a : String} {items : List String} :
    a ∈ firstOccurrences items ↔ a ∈ items := by
  induction items with
  | nil => exact Iff.rfl
  | cons b rest ih =>
    by_cases h : a = b
    · simp [firstOccurrences, h]
    · simp [firstOccurrences, h, ih]

theorem nodup_firstOccurrences (items : List String) : (firstOccurrences items).Nodup := by
  induction items with
  | nil => exact List.nodup_nil
  | cons b rest ih =>
    refine List.nodup_cons.2 ⟨fun h => ?_, ih.filter _⟩
    have := (List.mem_filter.1 h).2
    simp at this

/-- A row followed by the rows merged with it in the columns in scope. -/
def withMerged (col : Option Nat) (rows : List Row) (rowId : String) : List String :=
  rowId :: (scopeColumns col rowId rows).flatMap (mergedRowIds rowId rows)

/-- The rows together with all rows merged with them in the columns in scope, each where it comes
first. -/
def expandRowIds (rowIds : List String) (rows : List Row) (col : Option Nat) : List String :=
  firstOccurrences (rowIds.flatMap (withMerged col rows))

end Questionnaire.Table
