import Questionnaire.Json.Basic

/-!
# Findings

What the check of a survey reports: the part of the survey that it concerns and what is wrong with
it. Code, severity and message are functions of the issue.
-/

namespace Questionnaire.Lint

/-- How bad a finding is. -/
inductive Severity where
  | info
  | warning
  | error
  deriving DecidableEq, Repr

namespace Severity

/-- The severities from mild to grave. -/
def rank : Severity → Nat
  | info => 0
  | warning => 1
  | error => 2

/-- The name of a severity. -/
def name : Severity → String
  | info => "info"
  | warning => "warning"
  | error => "error"

end Severity

/-- A part of a survey that may have a guard. -/
inductive Owner where
  | question (id : String)
  | group (id : String)
  deriving DecidableEq, Repr

/-- The part of a survey that a finding concerns. -/
inductive Subject where
  | owner (o : Owner)
  | condition (o : Owner) (id : String)
  | rule (questionId ruleId : String)
  deriving DecidableEq, Repr

/-- The text of an owner. -/
def Owner.text : Owner → String
  | question id => "question:" ++ id
  | group id => "group:" ++ id

/-- The text of a subject. -/
def Subject.text : Subject → String
  | owner o => o.text
  | condition o id => o.text ++ "/condition:" ++ id
  | rule questionId ruleId => (Owner.question questionId).text ++ "/rule:" ++ ruleId

/-- What is wrong. -/
inductive Issue where
  | unknownGroup (id : String)
  | unknownParent (id : String)
  | groupCycle
  | rulesOnNonTable
  | unknownSource (id : String)
  | forwardSource (id : String)
  | sourceNotTable (id : String)
  | missingCheck
  | unknownRow (rowId tableId : String)
  | columnOutOfRange (column : Nat) (rowId : String)
  | unscopedColumn
  | noTarget
  | danglingTarget (id : String)
  | backwardTarget (id : String)
  deriving DecidableEq, Repr

namespace Issue

/-- The code of an issue. -/
def code : Issue → String
  | unknownGroup _ => "unknown_group"
  | unknownParent _ => "unknown_group"
  | groupCycle => "group_cycle"
  | rulesOnNonTable => "rules_on_non_table"
  | unknownSource _ => "unknown_source_question"
  | forwardSource _ => "forward_source_question"
  | sourceNotTable _ => "source_not_table"
  | missingCheck => "missing_table_check"
  | unknownRow _ _ => "unknown_row"
  | columnOutOfRange _ _ => "column_out_of_range"
  | unscopedColumn => "unscoped_column"
  | noTarget => "goto_without_target"
  | danglingTarget _ => "dangling_target"
  | backwardTarget _ => "backward_target"

/-- The severity of an issue. -/
def severity : Issue → Severity
  | rulesOnNonTable => .warning
  | forwardSource _ => .warning
  | backwardTarget _ => .warning
  | unscopedColumn => .info
  | _ => .error

/-- A name between apostrophes. -/
def named (s : String) : String := "'" ++ s ++ "'"

/-- The wording of an issue. -/
def message : Issue → String
  | unknownGroup id => "group " ++ named id ++ " does not exist"
  | unknownParent id => "parent group " ++ named id ++ " does not exist"
  | groupCycle => "parent group chain loops back to this group"
  | rulesOnNonTable => "validation rules only apply to table questions"
  | unknownSource id => "source question " ++ named id ++ " does not exist"
  | forwardSource id =>
    "source question " ++ named id ++ " is not answered before this question"
  | sourceNotTable id => "source question " ++ named id ++ " is not a table"
  | missingCheck => "table-cell-check condition has no tableConditions"
  | unknownRow rowId tableId =>
    "row " ++ named rowId ++ " is not part of table " ++ named tableId
  | columnOutOfRange column rowId =>
    "column " ++ toString column ++ " does not exist in row " ++ named rowId
  | unscopedColumn => "no column selected; a row counts when any interactive column matches"
  | noTarget => "goto rule has neither targetQuestionId nor targetQuestionMap"
  | danglingTarget id => "target question " ++ named id ++ " does not exist"
  | backwardTarget id => "target question " ++ named id ++ " comes at or before this question"

end Issue

/-- An issue of a part of a survey. -/
structure Finding where
  subject : Subject
  issue : Issue
  deriving DecidableEq, Repr

/-- The severity of a finding. -/
def Finding.severity (f : Finding) : Severity := f.issue.severity

/-- The value of a finding. -/
def Finding.toJson (f : Finding) : Json :=
  .object
    [("code", .text f.issue.code), ("severity", .text f.severity.name),
      ("subject", .text f.subject.text), ("message", .text f.issue.message)]

/-- Whether some finding is at least this bad. -/
def hasFindingsAt (findings : List Finding) (threshold : Severity) : Bool :=
  findings.any fun f => threshold.rank ≤ f.severity.rank

end Questionnaire.Lint
