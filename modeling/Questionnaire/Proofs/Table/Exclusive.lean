import Questionnaire.Branching
import Questionnaire.Proofs.Table.Hits
import Questionnaire.Proofs.Table.Resolved

/-!
# Exclusive checks

An exclusive check asks that the rows it covers are hit and that no other row of the table is. The
main statement is that it is an equation between two sets of row ids: those that are hit and those
that the check covers, merged rows included. What is hit does not depend on the rows that a check
names, so that two exclusive checks which differ in nothing but the rows they cover cannot both
hold.
-/

namespace Questionnaire

namespace Table.Scope

variable {s : Scope} {check check' : Check}

/-- The id is that of a row of the table, and the check hits it. -/
def HitId (s : Scope) (check : Check) (id : String) : Prop :=
  (∃ row ∈ s.rows, row.id = id) ∧ s.RowHit check id

/-- An exclusive check holds exactly if it resolves and hits the rows that it covers, and them
only. -/
theorem exclusive_iff : s.exclusive check = true ↔
    s.resolves check = true ∧ ∀ id, s.HitId check id ↔ id ∈ s.coveredRows check := by
  unfold exclusive
  rw [Bool.and_eq_true, Bool.and_eq_true, List.all_eq_true, List.all_eq_true]
  constructor
  · rintro ⟨⟨hresolves, hcovered⟩, hothers⟩
    refine ⟨hresolves, fun id => ⟨?_, ?_⟩⟩
    · rintro ⟨⟨row, hrow, rfl⟩, hhit⟩
      have hother := hothers row hrow
      rw [rowHit_iff.mpr hhit] at hother
      simpa using hother
    · intro hid
      have hhit := rowHit_iff.mp (hcovered id hid)
      exact ⟨hhit.exists_row, hhit⟩
  · rintro ⟨hresolves, hsame⟩
    refine ⟨⟨hresolves, ?_⟩, ?_⟩
    · intro id hid
      exact rowHit_iff.mpr ((hsame id).mpr hid).2
    · intro row hrow
      cases hhit : s.rowHit check row.id with
      | false => simp
      | true =>
        have hid := (hsame row.id).mp ⟨⟨row, hrow, rfl⟩, rowHit_iff.mp hhit⟩
        simpa using hid

/-- The rows that a check names play no part in what it hits. -/
theorem hitId_congr (hcolumn : check'.column = check.column) (htype : check'.type = check.type)
    (hexpected : check'.expected = check.expected) (id : String) :
    s.HitId check' id ↔ s.HitId check id := by
  unfold HitId
  rw [← rowHit_iff, ← rowHit_iff, rowHit_congr hcolumn htype hexpected]

/-- Exclusive checks that hold together and hit alike cover the same rows. -/
theorem coveredRows_eq_of_exclusive (hcolumn : check'.column = check.column)
    (htype : check'.type = check.type) (hexpected : check'.expected = check.expected)
    (h : s.exclusive check = true) (h' : s.exclusive check' = true) (id : String) :
    id ∈ s.coveredRows check' ↔ id ∈ s.coveredRows check := by
  rw [← (exclusive_iff.mp h').2 id, ← (exclusive_iff.mp h).2 id]
  exact hitId_congr hcolumn htype hexpected id

end Table.Scope

open Table

/-- **An exclusive check is an equation of sets.** A check whose rows and column exist is exclusive
exactly if the ids of the rows that it hits are those of the rows that it covers, merged rows
included; any other check is not exclusive. Hence two exclusive rules of a question that differ in
the rows they cover, while their checks agree in column, type and expected values, never find what
they ask for in one and the same answer. -/
theorem exclusive_iff_hits_are_covered (rows : List Row) :
    (∀ check : Check, check.Resolvable rows → ∀ (cells : TableAnswer) (options : Options),
      (Scope.exclusive ⟨rows, cells, options⟩ check = true ↔
        ∀ id, ((∃ row ∈ rows, row.id = id) ∧ Scope.RowHit ⟨rows, cells, options⟩ check id) ↔
          id ∈ expandRowIds check.rowIds rows check.column)) ∧
    (∀ check : Check, ¬ check.Resolvable rows → ∀ (cells : TableAnswer) (options : Options),
      Scope.exclusive ⟨rows, cells, options⟩ check = false) ∧
    (∀ r r' : Rule, r.kind = .exclusive → r'.kind = .exclusive →
      r'.check.column = r.check.column → r'.check.type = r.check.type →
      r'.check.expected = r.check.expected →
      (¬ ∀ id, id ∈ expandRowIds r'.check.rowIds rows r'.check.column ↔
        id ∈ expandRowIds r.check.rowIds rows r.check.column) →
      ∀ (q : Question), q.rows = rows → ∀ (answer : Option Answer) (options : Options),
        ¬ (r.primaryHolds (q.scope answer options) = true ∧
          r'.primaryHolds (q.scope answer options) = true)) := by
  refine ⟨?_, ?_, ?_⟩
  · intro check hcheck cells options
    have hresolves : Scope.resolves ⟨rows, cells, options⟩ check = true :=
      Scope.resolves_iff_resolvable.mpr hcheck
    rw [Scope.exclusive_iff]
    exact and_iff_right hresolves
  · intro check hcheck cells options
    rw [Bool.eq_false_iff]
    intro hexclusive
    exact hcheck (Scope.resolves_iff_resolvable.mp (Scope.exclusive_iff.mp hexclusive).1)
  · rintro r r' hr hr' hcolumn htype hexpected hdiffer q rfl answer options ⟨hholds, hholds'⟩
    simp only [Rule.primaryHolds, hr] at hholds
    simp only [Rule.primaryHolds, hr'] at hholds'
    have hcovered := Scope.coveredRows_eq_of_exclusive hcolumn htype hexpected hholds hholds'
    exact hdiffer hcovered

/-- A shelf of three boards, of which the upper two share one box to tick. -/
def shelf : Question where
  id := "shelf"
  kind := .table
  grid :=
    [{ id := "top", cells := [{ id := "t", kind := .widget .checkbox, rowspan := some 2 }] },
      { id := "middle", cells := [{ id := "m", isHidden := true }] },
      { id := "bottom", cells := [{ id := "b", kind := .widget .checkbox }] }]

/-- A rule that asks for these boards of the shelf and no other one. -/
def onlyBoards (rowIds : List String) : Rule where
  id := "only"
  kind := .exclusive
  check := { rowIds }
  action := .finish

/-- With the shared box ticked, a check of the middle board is exclusive: what is hit are the two
boards of the box. A check that adds an unknown board is not; and a rule about the middle board
never finds what it asks for together with one about the bottom. -/
theorem exclusive_iff_hits_are_covered_shelf :
    (Check.Resolvable shelf.rows { rowIds := ["middle", "middle"] } ∧
      ¬ Check.Resolvable shelf.rows { rowIds := ["middle", "side"] }) ∧
    (∀ id, ((∃ row ∈ shelf.rows, row.id = id) ∧
        Scope.RowHit ⟨shelf.rows, Entries.empty.put "t" (.text "x"), {}⟩
          { rowIds := ["middle", "middle"] } id) ↔ id ∈ ["middle", "top"]) ∧
    Scope.exclusive ⟨shelf.rows, Entries.empty.put "t" (.text "x"), {}⟩
      { rowIds := ["middle", "side"] } = false ∧
    ∀ (answer : Option Answer) (options : Options),
      ¬ ((onlyBoards ["middle"]).primaryHolds (shelf.scope answer options) = true ∧
        (onlyBoards ["bottom", "middle"]).primaryHolds (shelf.scope answer options) = true) := by
  have hmiddle : Check.Resolvable shelf.rows { rowIds := ["middle", "middle"] } := by decide
  have hside : ¬ Check.Resolvable shelf.rows { rowIds := ["middle", "side"] } := by decide
  have hdiffer : ¬ ∀ id,
      id ∈ expandRowIds ["bottom", "middle"] shelf.rows (onlyBoards ["bottom", "middle"]).check.column ↔
        id ∈ expandRowIds ["middle"] shelf.rows (onlyBoards ["middle"]).check.column := by
    intro h
    exact absurd ((h "bottom").mp (by decide)) (by decide)
  have hcovered : expandRowIds ["middle", "middle"] shelf.rows
      (Check.column { rowIds := ["middle", "middle"] }) = ["middle", "top"] := by decide
  obtain ⟨hsame, hunresolved, hrules⟩ := exclusive_iff_hits_are_covered shelf.rows
  refine ⟨⟨hmiddle, hside⟩, ?_, hunresolved _ hside _ _, ?_⟩
  · have hsets := (hsame _ hmiddle (Entries.empty.put "t" (.text "x")) {}).mp (by decide)
    rw [hcovered] at hsets
    exact hsets
  · exact hrules (onlyBoards ["middle"]) (onlyBoards ["bottom", "middle"]) rfl rfl rfl rfl rfl
      hdiffer shelf rfl

end Questionnaire
