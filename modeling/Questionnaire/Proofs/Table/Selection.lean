import Questionnaire.Proofs.Listing
import Questionnaire.Table.Scope

/-!
# The order of selected values

The values selected in the rows of a check stand at places: the row among those that the check
names, the column, the value among those of the cell, and then the value itself before what the
choice of this name stands for. `Scope.Offers` says which value stands at which place, one place
at a time; the main statement is that `selectedValues` lists them by place.
-/

namespace Questionnaire.Table

/-- Where a selected value stands. -/
structure Place where
  /-- The position of the row among those that the check names. -/
  row : Nat
  col : Nat
  /-- The position of the value among those that the cell holds. -/
  value : Nat
  /-- Whether it is what the choice stands for, and not the value that the cell holds. -/
  mapped : Bool
  deriving DecidableEq

/-- Places are ordered by row, then by column, then by value; a value comes before what its choice
stands for. -/
def Place.Before (p q : Place) : Prop :=
  p.row < q.row ∨ p.row = q.row ∧ (p.col < q.col ∨ p.col = q.col ∧
    (p.value < q.value ∨ p.value = q.value ∧ p.mapped = false ∧ q.mapped = true))

theorem Place.Before.asymm {p q : Place} (h : p.Before q) : ¬ q.Before p := by
  unfold Before at h ⊢
  grind

namespace Scope

/-- A check without a column is about every column of the row. -/
def HasInScope (s : Scope) (check : Check) (rowId : String) (col : Nat) : Prop :=
  match check.column with
  | some c => col = c
  | none => ∃ row, row? rowId s.rows = some row ∧ col < row.cells.length

/-- A check reads this cell for a row in a column: the cell that owns the value there, if it is
interactive and of the kind that the check admits. -/
def Reads (s : Scope) (check : Check) (rowId : String) (col : Nat) (cell : Cell) : Prop :=
  s.HasInScope check rowId col ∧ ownerCell? rowId s.rows col = some cell ∧
    cell.kind.isInteractive = true ∧ check.type.admits cell.kind = true

/-- The value that is selected at a place. -/
inductive Offers (s : Scope) (check : Check) : Place → String → Prop
  | stored {row col value : Nat} {rowId : String} {cell : Cell} {v : String} :
      check.rowIds[row]? = some rowId → s.Reads check rowId col cell →
      (s.values cell)[value]? = some v → Offers s check ⟨row, col, value, false⟩ v
  | mapped {row col value : Nat} {rowId : String} {cell : Cell} {v w : String} {choice : Choice} :
      check.rowIds[row]? = some rowId → s.Reads check rowId col cell →
      (s.values cell)[value]? = some v → cell.choice? v = some choice → choice.value = some w →
      Offers s check ⟨row, col, value, true⟩ w

variable {s : Scope} {check : Check}

/-! ## One traversal after the other -/

theorem pairwise_scopeColumns (col : Option Nat) (rowId : String) (rows : List Row) :
    (scopeColumns col rowId rows).Pairwise (· < ·) := by
  unfold scopeColumns interactiveColumns
  cases col with
  | some c => exact List.pairwise_singleton _ _
  | none =>
    cases row? rowId rows with
    | none => exact List.Pairwise.nil
    | some row => exact List.pairwise_lt_range.filter _

/-- In the columns in scope, the interactive owners are those in columns that the row has. -/
theorem mem_scopeColumns_iff {rowId : String} {col : Nat} {cell : Cell}
    (hcell : ownerCell? rowId s.rows col = some cell) (hinteractive : cell.kind.isInteractive = true) :
    col ∈ scopeColumns check.column rowId s.rows ↔ s.HasInScope check rowId col := by
  unfold scopeColumns HasInScope
  cases check.column with
  | some c => exact List.mem_singleton
  | none =>
    unfold interactiveColumns
    cases row? rowId s.rows with
    | none => simp
    | some row => simp [isInteractiveAt, hcell, hinteractive]

/-- The interactive cells that a check reads for a row, by column. -/
theorem lists_rowCells (s : Scope) (check : Check) (rowId : String) :
    Lists (· < ·) (s.Reads check rowId)
      ((s.rowCells check rowId).filter fun cell => cell.kind.isInteractive) := by
  unfold rowCells
  refine (((Lists.filterMap (pairwise_scopeColumns check.column rowId s.rows) _).filter _).filter
    _).congr ?_
  intro col cell
  unfold Reads
  constructor
  · rintro ⟨⟨⟨hcol, hcell⟩, hadmits⟩, hinteractive⟩
    exact ⟨(mem_scopeColumns_iff hcell hinteractive).mp hcol, hcell, hinteractive, hadmits⟩
  · rintro ⟨hcol, hcell, hinteractive, hadmits⟩
    exact ⟨⟨⟨(mem_scopeColumns_iff hcell hinteractive).mpr hcol, hcell⟩, hadmits⟩, hinteractive⟩

/-- The values of a cell, each with what its choice stands for, by position. -/
theorem lists_selectedIn (s : Scope) (cell : Cell) :
    Lists (Prod.Lex (· < ·) fun x y => x = false ∧ y = true) (fun (place : Nat × Bool) w =>
        ∃ v, (s.values cell)[place.1]? = some v ∧
          (place.2 = false ∧ w = v ∨
            place.2 = true ∧ (cell.choice? v).bind (·.value) = some w))
      (s.selectedIn cell) :=
  (Lists.of_positions (s.values cell)).flatMap fun v =>
    Lists.of_pair v ((cell.choice? v).bind (·.value))

/-- **Selected values are listed by place.** -/
theorem lists_selectedValues (s : Scope) (check : Check) :
    Lists Place.Before (s.Offers check) (s.selectedValues check) := by
  -- three nested traversals, whose places are nested pairs
  have hlists := (Lists.of_positions check.rowIds).flatMap fun id =>
    (lists_rowCells s check id).flatMap fun cell => lists_selectedIn s cell
  refine hlists.reindex (fun place => ⟨place.1, place.2.1, place.2.2.1, place.2.2.2⟩) ?_ ?_
  · intro p q hpq
    simp only [Prod.lex_def] at hpq
    exact hpq
  · intro place w
    constructor
    · intro h
      cases h with
      | @stored row col value rowId cell v hid hcell hv =>
        exact ⟨(row, col, value, false), rfl, rowId, hid, cell, hcell, w, hv, .inl ⟨rfl, rfl⟩⟩
      | @mapped row col value rowId cell v w choice hid hcell hv hchoice hw =>
        exact ⟨(row, col, value, true), rfl, rowId, hid, cell, hcell, v, hv,
          .inr ⟨rfl, by rw [hchoice]; exact hw⟩⟩
    · rintro ⟨⟨row, col, value, mapped⟩, rfl, rowId, hid, cell, hcell, v, hv, hw⟩
      rcases hw with ⟨rfl, rfl⟩ | ⟨rfl, hw⟩
      · exact .stored hid hcell hv
      · obtain ⟨choice, hchoice, hw⟩ := Option.bind_eq_some_iff.mp hw
        exact .mapped hid hcell hv hchoice hw

end Scope

/-- Two merged rows with the same selection, which a check names from the lower one upwards; the
choice stands for another value, and the note beside it belongs to the upper row only. -/
example :
    let rows : List Row :=
      [{ id := "upper", cells :=
          [{ id := "u", kind := .widget .radio, rowspan := some 2
             radioChoices := [{ id := "car", value := some "drives" }] },
            { id := "note", kind := .widget .input }] },
        { id := "lower", cells := [{ id := "l", isHidden := true }, { id := "blank" }] }]
    let cells : TableAnswer := (Entries.empty.put "u" (.text "car")).put "note" (.text "red")
    Scope.selectedValues ⟨rows, cells, {}⟩ { rowIds := ["lower", "upper"] } =
      ["car", "drives", "car", "drives", "red"] := by
  decide

end Questionnaire.Table
