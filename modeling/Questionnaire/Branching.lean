import Questionnaire.Condition.Holds

/-!
# Branching rules

The rules of a table question are tried in their order against the answer to the question, and the
first one that fires decides where the respondent goes. An answer that is missing or is no table
counts as a table in which nothing is filled in.
-/

namespace Questionnaire

namespace Rule

/-- Whether the primary check of a rule asks for what it finds. -/
def primaryHolds (r : Rule) (scope : Table.Scope) : Bool :=
  match r.kind with
  | .anyOf => scope.satisfied r.check .any
  | .allOf => scope.satisfied r.check .all
  | .combination => scope.satisfied r.check .all
  | .noneOf => scope.satisfied r.check .none
  | .exclusive => scope.exclusive r.check

/-- Whether a rule fires: its primary check by the kind of the rule, and its additional check by
the check's own combinator. -/
def fires (r : Rule) (scope : Table.Scope) : Bool :=
  r.primaryHolds scope && r.extra.all scope.holds

/-- The targets by selected value, when there are any. -/
def branches? (r : Rule) : Option (Entries String) :=
  r.targetMap.filter fun m => !m.isEmpty

theorem branches?_eq_some_iff {r : Rule} {m : Entries String} :
    r.branches? = some m ↔ r.targetMap = some m ∧ m.isEmpty = false := by
  simp [branches?, Option.filter_eq_some_iff]

theorem branches?_eq_none_iff {r : Rule} :
    r.branches? = none ↔ ∀ m, r.targetMap = some m → m.isEmpty = true := by
  simp [branches?, Option.filter_eq_none_iff]

/-- The check whose rows choose among the targets. -/
def selector (r : Rule) : Table.Check := r.extra.getD r.check

/-- The target of a rule that jumps: that of the first selected value which has one, or the fixed
target when no targets by value are given. -/
def chosenTarget? (r : Rule) (scope : Table.Scope) : Option String :=
  match r.branches? with
  | some targets => (scope.selectedValues r.selector).findSome? targets.get?
  | none => r.target

end Rule

namespace Question

/-- The grid of a question with an answer to it. -/
def scope (q : Question) (answer : Option Answer) (options : Options) : Table.Scope :=
  ⟨q.rows, Answer.cells answer, options⟩

/-- The first rule of a table question that fires. -/
def firedRule? (q : Question) (answer : Option Answer) (options : Options) : Option Rule :=
  if q.isTable then q.rules.find? fun r => r.fires (q.scope answer options) else none

end Question

end Questionnaire
