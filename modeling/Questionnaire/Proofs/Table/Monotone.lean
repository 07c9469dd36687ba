import Questionnaire.Proofs.Table.Resolved

/-!
# More hits satisfy more checks

A check that is satisfied under "any" or "all" has a hit among the rows it covers, because it names
at least one row, and it stays satisfied when these rows go on being hit. A check that asks for no
hit at all turns the other way; `Check.IsPositive` leaves it out.
-/

namespace Questionnaire.Table

/-- A check that does not ask for the absence of hits. -/
def Check.IsPositive (c : Check) : Prop := c.type ≠ .combine .none

instance (c : Check) : Decidable c.IsPositive := inferInstanceAs (Decidable (c.type ≠ .combine .none))

theorem Check.IsPositive.combinator_ne {c : Check} (h : c.IsPositive) :
    c.type.combinator ≠ .none := by
  unfold IsPositive at h
  cases htype : c.type with
  | combine how =>
    intro hnone
    rw [htype] at h
    exact h (congrArg _ hnone)
  | only w =>
    intro hnone
    cases hnone

namespace Scope

variable {s s' : Scope} {c : Check} {how : Combinator} {cell : Cell}

/-! ## Rows -/

theorem coveredRows_congr (hrows : s'.rows = s.rows) : s'.coveredRows c = s.coveredRows c := by
  unfold coveredRows
  rw [hrows]

/-- A check covers the rows it names. -/
theorem mem_coveredRows_of_mem {id : String} (h : id ∈ c.rowIds) : id ∈ s.coveredRows c :=
  mem_coveredRows_iff.mpr ⟨id, h, List.mem_cons_self⟩

/-- A satisfied check has a hit, unless it asks for none. -/
theorem exists_rowHit_of_satisfied (hhow : how ≠ .none) (h : s.satisfied c how = true) :
    ∃ id ∈ s.coveredRows c, s.rowHit c id = true := by
  unfold satisfied at h
  rw [Bool.and_eq_true] at h
  obtain ⟨hresolves, hcombined⟩ := h
  cases how with
  | any => exact List.any_eq_true.mp hcombined
  | all =>
    -- not an empty "all": what resolves names a row
    obtain ⟨id, hid⟩ := exists_mem_of_resolves hresolves
    have hcovered : id ∈ s.coveredRows c := mem_coveredRows_of_mem hid
    exact ⟨id, hcovered, List.all_eq_true.mp hcombined id hcovered⟩
  | none => exact absurd rfl hhow

/-- A check stays satisfied while the rows it covers go on being hit, unless it asks for none. -/
theorem satisfied_mono (hrows : s'.rows = s.rows) (hhow : how ≠ .none)
    (hhit : ∀ id ∈ s.coveredRows c, s.rowHit c id = true → s'.rowHit c id = true)
    (h : s.satisfied c how = true) : s'.satisfied c how = true := by
  unfold satisfied at h ⊢
  rw [Bool.and_eq_true] at h ⊢
  obtain ⟨hresolves, hcombined⟩ := h
  refine ⟨(resolves_congr hrows).trans hresolves, ?_⟩
  cases how with
  | any =>
    obtain ⟨id, hid, hrow⟩ := List.any_eq_true.mp hcombined
    rw [combined, coveredRows_congr hrows]
    exact List.any_eq_true.mpr ⟨id, hid, hhit id hid hrow⟩
  | all =>
    rw [combined, coveredRows_congr hrows]
    apply List.all_eq_true.mpr
    intro id hid
    exact hhit id hid (List.all_eq_true.mp hcombined id hid)
  | none => exact absurd rfl hhow

/-! ## Cells -/

/-- A cell that is hit holds a value. -/
theorem values_ne_nil_of_cellHit {expected : List String} (h : s.cellHit expected cell = true) :
    s.values cell ≠ [] := by
  intro hnil
  unfold cellHit at h
  rw [hnil] at h
  split at h <;> simp at h

theorem cellHit_congr {expected : List String} (h : s'.values cell = s.values cell) :
    s'.cellHit expected cell = s.cellHit expected cell := by
  unfold cellHit
  rw [h]

/-- A row that is hit has a cell that is hit. -/
theorem exists_cellHit_of_rowHit {id : String} (h : s.rowHit c id = true) :
    ∃ cell, s.cellHit c.expected cell = true := by
  unfold rowHit at h
  generalize s.rowCells c id = cells at h
  split at h
  · -- all cells are hit, and there is one
    cases cells with
    | nil => simp at h
    | cons cell rest =>
      simp only [List.all_cons, Bool.and_eq_true] at h
      exact ⟨cell, h.2.1⟩
  · obtain ⟨cell, -, hcell⟩ := List.any_eq_true.mp h
    exact ⟨cell, hcell⟩

/-- A row stays hit while its cells go on being hit, under the same options. -/
theorem rowHit_mono (hrows : s'.rows = s.rows) (hoptions : s'.options = s.options)
    (hcell : ∀ cell, s.cellHit c.expected cell = true → s'.cellHit c.expected cell = true)
    {id : String} (h : s.rowHit c id = true) : s'.rowHit c id = true := by
  have hcells : s'.rowCells c id = s.rowCells c id := by
    unfold rowCells
    rw [hrows]
  unfold rowHit at h ⊢
  rw [hcells, hoptions]
  generalize s.rowCells c id = cells at h ⊢
  split at h
  · rw [Bool.and_eq_true, List.all_eq_true] at h ⊢
    exact ⟨h.1, fun cell hmem => hcell cell (h.2 cell hmem)⟩
  · rw [List.any_eq_true] at h ⊢
    obtain ⟨cell, hmem, hhit⟩ := h
    exact ⟨cell, hmem, hcell cell hhit⟩

end Scope

end Questionnaire.Table
