import Questionnaire.Proofs.Lists
import Questionnaire.Table.Scope

/-!
# Checks that resolve

A check resolves on a grid when it names rows, all of them rows of the grid that have its column.
What was filled in plays no part in this. A check that does not resolve fails for good: it is false
under every combinator and as an exclusive one, whatever the answer. One that resolves is decided by
its rows, so that either "any" holds of it or "none" does. Two checks that resolve alike, cover the
same rows and hit the same ones are decided alike (`Scope.satisfied_congr`, `Scope.exclusive_congr`).
-/

namespace Questionnaire.Table

variable {check check' : Check}

/-- A row of the grid before which no other row has this id. -/
def FirstRowWithId (rows : List Row) (id : String) (row : Row) : Prop :=
  row.id = id ∧ ∃ before after, rows = before ++ row :: after ∧ ∀ other ∈ before, other.id ≠ id

/-- What a check refers to exists: it names rows, every id is that of a row, and the first row with
the id has the column, if the check is about one. -/
structure Check.Resolvable (rows : List Row) (check : Check) : Prop where
  namesRows : check.rowIds ≠ []
  known : ∀ id ∈ check.rowIds, ∃ row ∈ rows, row.id = id
  hasColumn : ∀ col ∈ check.column, ∀ id ∈ check.rowIds, ∀ row, FirstRowWithId rows id row →
    col < row.cells.length

theorem row?_eq_some_iff {rows : List Row} {id : String} {row : Row} :
    row? id rows = some row ↔ FirstRowWithId rows id row := by
  unfold row? FirstRowWithId
  rw [List.find?_eq_some_iff_append]
  simp

theorem exists_row?_iff {rows : List Row} {id : String} :
    (∃ row, row? id rows = some row) ↔ ∃ row ∈ rows, row.id = id := by
  unfold row?
  rw [← Option.isSome_iff_exists, List.find?_isSome]
  simp

namespace Scope

variable {s s' : Scope}

theorem hasColumn_iff {col : Option Nat} {row : Row} :
    hasColumn col row = true ↔ ∀ c ∈ col, c < row.cells.length := by
  cases col with
  | none => simp [hasColumn]
  | some c => simp [hasColumn]

theorem resolves_iff : s.resolves check = true ↔ check.rowIds ≠ [] ∧
    ∀ id ∈ check.rowIds, ∃ row, row? id s.rows = some row ∧
      ∀ c ∈ check.column, c < row.cells.length := by
  unfold resolves
  simp only [Bool.and_eq_true, Bool.not_eq_true', List.isEmpty_eq_false_iff, List.all_eq_true,
    Option.any_eq_true, hasColumn_iff]

/-- A check resolves exactly if what it refers to exists. -/
theorem resolves_iff_resolvable : s.resolves check = true ↔ check.Resolvable s.rows := by
  rw [resolves_iff]
  constructor
  · rintro ⟨hids, hall⟩
    refine ⟨hids, ?_, ?_⟩
    · intro id hid
      obtain ⟨row, hrow, -⟩ := hall id hid
      exact exists_row?_iff.mp ⟨row, hrow⟩
    · intro col hcol id hid row hfirst
      obtain ⟨row', hrow', hlt⟩ := hall id hid
      -- the row that was found is the first one
      rw [row?_eq_some_iff.mpr hfirst, Option.some.injEq] at hrow'
      rw [hrow']
      exact hlt col hcol
  · rintro ⟨hids, hknown, hcolumn⟩
    refine ⟨hids, fun id hid => ?_⟩
    obtain ⟨row, hrow⟩ := exists_row?_iff.mpr (hknown id hid)
    exact ⟨row, hrow, fun col hcol => hcolumn col hcol id hid row (row?_eq_some_iff.mp hrow)⟩

theorem resolves_congr (hrows : s'.rows = s.rows) : s'.resolves check = s.resolves check := by
  unfold resolves
  rw [hrows]

theorem exists_mem_of_resolves (h : s.resolves check = true) : ∃ id, id ∈ check.rowIds :=
  List.exists_mem_of_ne_nil _ (resolves_iff.mp h).1

/-- A check that resolves holds under "none" exactly if it does not hold under "any". -/
theorem satisfied_none_of_resolves (h : s.resolves check = true) :
    s.satisfied check .none = !s.satisfied check .any := by
  simp only [satisfied, h, Bool.true_and, combined]

/-- A check covers the rows that it names and those merged with them. -/
theorem mem_coveredRows_iff {id : String} : id ∈ s.coveredRows check ↔
    ∃ named ∈ check.rowIds, id ∈ withMerged check.column s.rows named := by
  unfold coveredRows expandRowIds
  rw [mem_firstOccurrences, List.mem_flatMap]

/-! ## Checks decided alike -/

section

variable (hresolves : s'.resolves check' = s.resolves check)
  (hcovered : ∀ id, id ∈ s'.coveredRows check' ↔ id ∈ s.coveredRows check)
  (hhit : ∀ id, s'.rowHit check' id = s.rowHit check id)
include hresolves hcovered hhit

theorem satisfied_congr (how : Combinator) : s'.satisfied check' how = s.satisfied check how := by
  have hany : (s'.coveredRows check').any (s'.rowHit check') =
      (s.coveredRows check).any (s.rowHit check) :=
    any_eq_of_mem hcovered fun id _ => hhit id
  have hall : (s'.coveredRows check').all (s'.rowHit check') =
      (s.coveredRows check).all (s.rowHit check) :=
    all_eq_of_mem hcovered fun id _ => hhit id
  unfold satisfied
  rw [hresolves]
  cases how with
  | any => simp only [combined, hany]
  | all => simp only [combined, hall]
  | none => simp only [combined, hany]

theorem exclusive_congr (hrows : s'.rows = s.rows) : s'.exclusive check' = s.exclusive check := by
  have hall : (s'.coveredRows check').all (s'.rowHit check') =
      (s.coveredRows check).all (s.rowHit check) :=
    all_eq_of_mem hcovered fun id _ => hhit id
  have hothers : ∀ r ∈ s'.rows, ((s'.coveredRows check').contains r.id || !s'.rowHit check' r.id) =
      ((s.coveredRows check).contains r.id || !s.rowHit check r.id) := by
    intro r _
    rw [hhit, List.contains_eq_mem, List.contains_eq_mem, decide_eq_decide.mpr (hcovered r.id)]
  unfold exclusive
  rw [hresolves, hall, all_eq_of_mem (fun r => by rw [hrows]) hothers]

end

end Scope

instance (rows : List Row) (check : Check) : Decidable (check.Resolvable rows) :=
  decidable_of_iff (Scope.resolves ⟨rows, .empty, {}⟩ check = true) Scope.resolves_iff_resolvable

/-- A check that is false on a grid whatever was filled in. -/
def Check.FailsOn (rows : List Row) (check : Check) : Prop :=
  ∀ (cells : TableAnswer) (options : Options),
    (∀ how, Scope.satisfied ⟨rows, cells, options⟩ check how = false) ∧
      Scope.exclusive ⟨rows, cells, options⟩ check = false

/-- The checks that fail for good are those that do not resolve. -/
theorem Check.failsOn_iff {rows : List Row} (cells : TableAnswer) (options : Options) :
    check.FailsOn rows ↔ Scope.resolves ⟨rows, cells, options⟩ check = false := by
  constructor
  · intro h
    rw [Bool.eq_false_iff]
    intro hresolves
    have hnone := Scope.satisfied_none_of_resolves hresolves
    rw [(h cells options).1, (h cells options).1] at hnone
    cases hnone
  · intro h cells' options'
    have hresolves : Scope.resolves ⟨rows, cells', options'⟩ check = false :=
      (Scope.resolves_congr rfl).trans h
    unfold Scope.satisfied Scope.exclusive
    simp only [hresolves, Bool.false_and, implies_true, and_self]

end Questionnaire.Table
