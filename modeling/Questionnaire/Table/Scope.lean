import Questionnaire.Answer.Basic
import Questionnaire.Table.Merge

/-!
# Checks against an answered table

A `Scope` is a grid together with the cells that were answered and the options in force. Within
it a cell is hit by a check when it holds an expected value, a row when its cells in scope are
hit, and the check is satisfied when the hits of its rows, merged rows included, combine to true.

A check that names no row, an unknown row, or a column that one of its rows lacks is never
satisfied, whatever its combinator.
-/

namespace Questionnaire.Table

/-- A grid, what was put into it, and the options in force. -/
structure Scope where
  rows : List Row
  cells : TableAnswer
  options : Options

namespace Scope

/-- The values that a cell holds. -/
def values (s : Scope) (c : Cell) : List String :=
  match s.cells.get? c.id with
  | some a => a.values
  | none => []

/-- Whether a value is among the expected ones; any value is when none is expected. -/
def accepts (expected : List String) (value : String) : Bool :=
  expected.isEmpty || expected.contains value

/-- Whether a cell is hit: any of its values counts in a checkbox cell, the first one in any other
interactive cell. -/
def cellHit (s : Scope) (expected : List String) (c : Cell) : Bool :=
  match c.kind with
  | .widget .checkbox => (s.values c).any (accepts expected)
  | .widget _ => (s.values c).head?.any (accepts expected)
  | _ => false

/-- The cells of a row that a check is about: those that hold its values in the columns in scope
and are of the kind that the check admits. -/
def rowCells (s : Scope) (check : Check) (rowId : String) : List Cell :=
  ((scopeColumns check.column rowId s.rows).filterMap (ownerCell? rowId s.rows)).filter
    fun c => check.type.admits c.kind

/-- Whether a row is hit. Without a column the policy decides whether one cell or all cells have
to be hit; a row without cells in scope is never hit. -/
def rowHit (s : Scope) (check : Check) (rowId : String) : Bool :=
  let cells := s.rowCells check rowId
  match check.column, s.options.unscopedColumns with
  | none, .all => !cells.isEmpty && cells.all (s.cellHit check.expected)
  | _, _ => cells.any (s.cellHit check.expected)

/-- Whether the row of this id has the column of a check. -/
def hasColumn (col : Option Nat) (row : Row) : Bool :=
  match col with
  | some c => c < row.cells.length
  | none => true

/-- Whether a check names rows, all of them known and with its column. -/
def resolves (s : Scope) (check : Check) : Bool :=
  !check.rowIds.isEmpty &&
    check.rowIds.all fun id => (row? id s.rows).any (hasColumn check.column)

/-- The rows that a check covers: its own and those merged with them. -/
def coveredRows (s : Scope) (check : Check) : List String :=
  expandRowIds check.rowIds s.rows check.column

/-- Whether the hits of the covered rows combine to true. -/
def combined (s : Scope) (check : Check) (how : Combinator) : Bool :=
  match how with
  | .any => (s.coveredRows check).any (s.rowHit check)
  | .all => (s.coveredRows check).all (s.rowHit check)
  | .none => !(s.coveredRows check).any (s.rowHit check)

/-- Whether a check is satisfied under a combinator. -/
def satisfied (s : Scope) (check : Check) (how : Combinator) : Bool :=
  s.resolves check && s.combined check how

/-- Whether a check is satisfied under its own combinator. -/
def holds (s : Scope) (check : Check) : Bool := s.satisfied check check.type.combinator

/-- Whether the covered rows are hit and no other row of the table is. -/
def exclusive (s : Scope) (check : Check) : Bool :=
  s.resolves check &&
    (s.coveredRows check).all (s.rowHit check) &&
    s.rows.all fun r => (s.coveredRows check).contains r.id || !s.rowHit check r.id

/-- The values of a cell, each followed by the value of the choice with this id, if it has one. -/
def selectedIn (s : Scope) (c : Cell) : List String :=
  (s.values c).flatMap fun v => v :: ((c.choice? v).bind (·.value)).toList

/-- The values selected in the rows that a check names, row by row and column by column. -/
def selectedValues (s : Scope) (check : Check) : List String :=
  check.rowIds.flatMap fun id =>
    ((s.rowCells check id).filter fun c => c.kind.isInteractive).flatMap s.selectedIn

end Scope

end Questionnaire.Table
