import Questionnaire.Condition.Holds

/-!
# What a condition that holds has found

A condition holds when it is enabled, its source is a question of the survey, there is an answer to
that question, and the answer passes the test. A test of cells has in addition found a check and a
table. These are the only ways in which conditions and such tests come out true.
-/

namespace Questionnaire

/-- What a test for cells has found out when it passes. -/
theorem Test.passes_cells_iff {primary extra : Option Table.Check} {source : Question} {a : Answer}
    {options : Options} :
    (Test.cells primary extra).passes source a options = true ↔
      ∃ check cells, primary = some check ∧ a = .table cells ∧
        (⟨source.rows, cells, options⟩ : Table.Scope).holds check = true ∧
        ∀ c ∈ extra, (⟨source.rows, cells, options⟩ : Table.Scope).holds c = true := by
  cases primary with
  | none => simp [Test.passes]
  | some check =>
    cases a with
    | table cells => simp [Test.passes, Answer.table?, Option.all_eq_true]
    | text s => simp [Test.passes, Answer.table?]
    | other o => simp [Test.passes, Answer.table?]
    | choices picks => simp [Test.passes, Answer.table?]
    | unsupported content => simp [Test.passes, Answer.table?]

theorem Condition.holds_iff {c : Condition} {r : Snapshot} {questions : List Question}
    {options : Options} : c.holds r questions options = true ↔
      c.isEnabled = true ∧ ∃ source a, question? c.source questions = some source ∧
        r.get? source.id = some a ∧ c.test.passes source a options = true := by
  unfold holds
  rw [Bool.and_eq_true]
  cases question? c.source questions with
  | none => simp
  | some source => cases hget : r.get? source.id <;> simp [hget]

end Questionnaire
