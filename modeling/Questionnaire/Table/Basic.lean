import Questionnaire.Options

/-!
# Tables

A table question asks for its answer in a grid: rows of cells, of which some carry a widget that
takes a value. A cell may span several rows; the rows below it then keep a hidden cell in its
place. A `Check` is a statement about some rows of a grid: which rows, which column or all
interactive ones, which values, and how the rows are combined.
-/

namespace Questionnaire.Table

/-- What a respondent uses to put a value into a cell. -/
inductive Widget where
  | checkbox
  | radio
  | select
  | input
  deriving DecidableEq, Repr

/-- What a cell holds: fixed content or a widget. -/
inductive CellKind where
  | text
  | image
  | widget (w : Widget)
  deriving DecidableEq, Repr

/-- Whether a respondent can put a value into a cell of this kind. -/
def CellKind.isInteractive : CellKind → Bool
  | .widget _ => true
  | _ => false

/-- A choice that a checkbox, radio or select cell offers. -/
structure Choice where
  id : String
  label : String := ""
  value : Option String := none
  deriving DecidableEq, Repr

/-- A cell. It keeps a list of choices for each widget that offers any, though only the list of
its own widget counts. -/
structure Cell where
  id : String
  kind : CellKind := .text
  content : String := ""
  checkboxChoices : List Choice := []
  radioChoices : List Choice := []
  selectChoices : List Choice := []
  rowspan : Option UInt32 := none
  colspan : Option UInt32 := none
  isHidden : Bool := false
  deriving DecidableEq

namespace Cell

/-- The choices of the cell's own widget. -/
def choices (c : Cell) : List Choice :=
  match c.kind with
  | .widget .checkbox => c.checkboxChoices
  | .widget .radio => c.radioChoices
  | .widget .select => c.selectChoices
  | _ => []

/-- The choice with this id. -/
def choice? (c : Cell) (id : String) : Option Choice :=
  c.choices.find? fun choice => choice.id == id

/-- The number of rows that the cell covers, never less than one. -/
def span (c : Cell) : Nat :=
  match c.rowspan with
  | none => 1
  | some n => max n.toNat 1

theorem one_le_span (c : Cell) : 1 ≤ c.span := by
  unfold span
  split
  · exact Nat.le_refl 1
  · exact Nat.le_max_right _ _

end Cell

/-- A row of cells. -/
structure Row where
  id : String
  label : String := ""
  cells : List Cell := []
  deriving DecidableEq

/-- The heading of a column. -/
structure Column where
  id : String := ""
  label : String := ""
  width : Option UInt32 := none
  deriving DecidableEq

/-- How the hits of single rows make up a result. -/
inductive Combinator where
  | any
  | all
  | none
  deriving DecidableEq, Repr

/-- What a check says besides its rows: how they are combined, or the widget that it is about. -/
inductive CheckType where
  | combine (how : Combinator)
  | only (w : Widget)
  deriving DecidableEq, Repr

namespace CheckType

/-- How a check of this type combines its rows by itself; a widget check takes any of them. -/
def combinator : CheckType → Combinator
  | combine how => how
  | only _ => .any

/-- Whether a check of this type is about cells of this kind. -/
def admits : CheckType → CellKind → Bool
  | combine _, _ => true
  | only w, kind => kind == .widget w

end CheckType

/-- A statement about rows of a grid. Without a column it is about every interactive column; with
no expected values it is about any value. -/
structure Check where
  rowIds : List String := []
  type : CheckType := .combine .any
  columnIndex : Option UInt64 := none
  expected : List String := []
  deriving DecidableEq

/-- The column that a check is about. -/
def Check.column (c : Check) : Option Nat := c.columnIndex.map UInt64.toNat

end Questionnaire.Table
