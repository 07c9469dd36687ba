import Questionnaire.Proofs.Table.Merge
import Questionnaire.Proofs.Table.Selection

/-!
# Rows that are hit

Whether a check hits a row is decided by a scan over the cells in its columns. `Scope.RowHit` says
it without the scan, in terms of the cells that the check reads: one of them is hit, and under the
stricter policy for checks without a column all of them are.
-/

namespace Questionnaire.Table

/-- A value counts for a check that expects it, or that expects none in particular. -/
def Wanted (expected : List String) (v : String) : Prop := expected = [] ∨ v ∈ expected

namespace Scope

/-- A cell is hit when a value of it is wanted: any of them in a checkbox, and the first one under
any other widget. -/
def CellHit (s : Scope) (expected : List String) (c : Cell) : Prop :=
  ∃ (i : Nat) (v : String), (s.values c)[i]? = some v ∧ Wanted expected v ∧
    (c.kind = .widget .checkbox ∨ c.kind.isInteractive = true ∧ i = 0)

/-- A row is hit by a check. -/
structure RowHit (s : Scope) (check : Check) (id : String) : Prop where
  /-- One of the cells that the check reads for the row is hit. -/
  some_hit : ∃ col cell, s.Reads check id col cell ∧ s.CellHit check.expected cell
  /-- Under the stricter policy, a check without a column asks this of all its cells. -/
  all_hit : check.column = none → s.options.unscopedColumns = .all →
    ∀ col cell, s.Reads check id col cell → s.CellHit check.expected cell

variable {s : Scope} {check : Check} {id : String} {cell : Cell} {expected : List String}

/-! ## Cells -/

theorem accepts_iff {v : String} : accepts expected v = true ↔ Wanted expected v := by
  simp [accepts, Wanted]

theorem cellHit_iff : s.cellHit expected cell = true ↔ s.CellHit expected cell := by
  unfold cellHit CellHit
  cases hkind : cell.kind with
  | text => simp [CellKind.isInteractive]
  | image => simp [CellKind.isInteractive]
  | widget w =>
    cases w with
    | checkbox =>
      simp only [List.any_eq_true, accepts_iff, List.mem_iff_getElem?]
      constructor
      · rintro ⟨v, ⟨i, hv⟩, hwanted⟩
        exact ⟨i, v, hv, hwanted, .inl trivial⟩
      · rintro ⟨i, v, hv, hwanted, -⟩
        exact ⟨v, ⟨i, hv⟩, hwanted⟩
    | radio => simp [CellKind.isInteractive, Option.any_eq_true, accepts_iff, List.head?_eq_getElem?]
    | select => simp [CellKind.isInteractive, Option.any_eq_true, accepts_iff, List.head?_eq_getElem?]
    | input => simp [CellKind.isInteractive, Option.any_eq_true, accepts_iff, List.head?_eq_getElem?]

theorem CellHit.isInteractive (h : s.CellHit expected cell) : cell.kind.isInteractive = true := by
  obtain ⟨_, _, -, -, hkind | ⟨hkind, -⟩⟩ := h
  · rw [hkind]
    rfl
  · exact hkind

/-! ## Rows -/

/-- The interactive cells among those of a row are the ones that the check reads. -/
theorem mem_rowCells_iff (hcell : cell.kind.isInteractive = true) :
    cell ∈ s.rowCells check id ↔ ∃ col, s.Reads check id col cell := by
  rw [← (lists_rowCells s check id).mem_iff, List.mem_filter]
  simp [hcell]

/-- Without a column, a check is about interactive cells alone. -/
theorem isInteractive_of_mem_rowCells (hcolumn : check.column = none)
    (h : cell ∈ s.rowCells check id) : cell.kind.isInteractive = true := by
  obtain ⟨col, hcol, hcell⟩ := List.mem_filterMap.mp (List.mem_filter.mp h).1
  rw [hcolumn, scopeColumns, interactiveColumns] at hcol
  split at hcol
  · have hinteractive := (List.mem_filter.mp hcol).2
    simpa [isInteractiveAt, hcell] using hinteractive
  · cases hcol

/-- Some cell of a row is hit exactly if one that the check reads is. -/
theorem any_rowCells_iff : (s.rowCells check id).any (s.cellHit check.expected) = true ↔
    ∃ col cell, s.Reads check id col cell ∧ s.CellHit check.expected cell := by
  rw [List.any_eq_true]
  constructor
  · rintro ⟨cell, hmem, hhit⟩
    rw [cellHit_iff] at hhit
    obtain ⟨col, hreads⟩ := (mem_rowCells_iff hhit.isInteractive).mp hmem
    exact ⟨col, cell, hreads, hhit⟩
  · rintro ⟨col, cell, hreads, hhit⟩
    exact ⟨cell, (mem_rowCells_iff hhit.isInteractive).mpr ⟨col, hreads⟩, cellHit_iff.mpr hhit⟩

/-- Without a column, all cells of a row are hit exactly if those that the check reads are. -/
theorem all_rowCells_iff (hcolumn : check.column = none) :
    (s.rowCells check id).all (s.cellHit check.expected) = true ↔
      ∀ col cell, s.Reads check id col cell → s.CellHit check.expected cell := by
  rw [List.all_eq_true]
  constructor
  · intro h col cell hreads
    exact cellHit_iff.mp (h cell ((mem_rowCells_iff hreads.2.2.1).mpr ⟨col, hreads⟩))
  · intro h cell hmem
    obtain ⟨col, hreads⟩ :=
      (mem_rowCells_iff (isInteractive_of_mem_rowCells hcolumn hmem)).mp hmem
    exact cellHit_iff.mpr (h col cell hreads)

/-- **The scan finds the rows that are hit.** -/
theorem rowHit_iff : s.rowHit check id = true ↔ s.RowHit check id := by
  unfold rowHit
  split
  · -- every cell has to be hit, and there has to be one
    rename_i hcolumn hpolicy
    rw [Bool.and_eq_true, all_rowCells_iff hcolumn]
    constructor
    · rintro ⟨hne, hall⟩
      refine ⟨?_, fun _ _ => hall⟩
      obtain ⟨cell, hmem⟩ := List.exists_mem_of_ne_nil (s.rowCells check id) (by simpa using hne)
      obtain ⟨col, hreads⟩ :=
        (mem_rowCells_iff (isInteractive_of_mem_rowCells hcolumn hmem)).mp hmem
      exact ⟨col, cell, hreads, hall col cell hreads⟩
    · rintro ⟨⟨col, cell, hreads, hhit⟩, hall⟩
      have hmem := (mem_rowCells_iff hhit.isInteractive).mpr ⟨col, hreads⟩
      exact ⟨by simpa using List.ne_nil_of_mem hmem, hall hcolumn hpolicy⟩
  · -- one hit is enough
    rename_i hloose
    rw [any_rowCells_iff]
    constructor
    · intro h
      exact ⟨h, fun hcolumn hpolicy => absurd hpolicy (hloose hcolumn)⟩
    · exact RowHit.some_hit

/-- A row that is hit is a row of the grid. -/
theorem RowHit.exists_row (h : s.RowHit check id) : ∃ row ∈ s.rows, row.id = id := by
  obtain ⟨⟨col, cell, ⟨-, howner, -⟩, -⟩, -⟩ := h
  obtain ⟨i, hi, -⟩ := Option.bind_eq_some_iff.mp howner
  obtain ⟨row, hrow, hid⟩ := getElem?_of_rowPosition? hi
  exact ⟨row, List.mem_of_getElem? hrow, hid⟩

/-- What is hit depends on the column, the type and the expected values of a check. -/
theorem rowHit_congr {check' : Check} (hcolumn : check'.column = check.column)
    (htype : check'.type = check.type) (hexpected : check'.expected = check.expected)
    (id : String) : s.rowHit check' id = s.rowHit check id := by
  unfold rowHit rowCells
  rw [hcolumn, htype, hexpected]

end Scope

end Questionnaire.Table
