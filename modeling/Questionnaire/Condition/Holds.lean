import Questionnaire.Survey.Basic
import Questionnaire.Table.Scope

/-!
# When conditions hold

A condition is judged against the answers given so far. What cannot be resolved (an unknown
source, a missing answer, a check of a question that is no table) makes it false.
-/

namespace Questionnaire

/-- Whether an answer includes one of the required values; with none required, whether it holds
data. -/
def Answer.matches (a : Answer) (required : List String) : Bool :=
  if required.isEmpty then a.isAnswered else a.choiceValues.any required.contains

/-- Whether the answer to `source` passes a test. -/
def Test.passes (t : Test) (source : Question) (a : Answer) (options : Options) : Bool :=
  match t with
  | .value required => a.matches required
  | .cells primary extra => match primary, a.table? with
    | some check, some filled =>
      let scope : Table.Scope := ⟨source.rows, filled, options⟩
      scope.holds check && extra.all scope.holds
    | _, _ => false

/-- Whether a condition holds. -/
def Condition.holds (c : Condition) (answers : Snapshot) (questions : List Question)
    (options : Options) : Bool :=
  c.isEnabled &&
    match question? c.source questions with
    | none => false
    | some source => match answers.get? source.id with
      | none => false
      | some a => c.test.passes source a options

/-- Whether a guard holds. A guard that has no enabled condition always holds. -/
def Guard.holds (g : Guard) (answers : Snapshot) (questions : List Question)
    (options : Options) : Bool :=
  g.enabled.isEmpty ||
    match g.logic with
    | .and => g.enabled.all (·.holds answers questions options)
    | .or => g.enabled.any (·.holds answers questions options)
    | .not => !g.enabled.any (·.holds answers questions options)

/-- Whether an optional guard holds; no guard is no restriction. -/
def guardHolds (g : Option Guard) (answers : Snapshot) (questions : List Question)
    (options : Options) : Bool :=
  g.all (·.holds answers questions options)

end Questionnaire
