import Questionnaire.Lint.Finding
import Questionnaire.Visibility

/-!
# Checking a survey

The evaluation of a survey passes over broken references in silence. `Survey.lint` reports them to
the author: it goes through the questions with their guards and rules and then through the groups,
in the order of the survey.
-/

namespace Questionnaire

open Lint (Finding Issue Owner Subject)

namespace Lint

/-- The rows of a check that its table does not have. -/
def unknownRows (table : Question) (check : Table.Check) : List Issue :=
  (check.rowIds.filter fun id => !table.rows.any fun r => r.id == id).map fun id =>
    .unknownRow id table.id

/-- The first row of a check that lacks its column. -/
def shortRow? (rows : List Table.Row) (rowIds : List String) (col : Nat) : Option Table.Row :=
  (rows.filter fun r => rowIds.contains r.id).find? fun r => r.cells.length ≤ col

/-- What is wrong with the column of a check. -/
def columnIssues (table : Question) (check : Table.Check) : List Issue :=
  match check.column with
  | none => [.unscopedColumn]
  | some col => match shortRow? table.rows check.rowIds col with
    | some row => [.columnOutOfRange col row.id]
    | none => []

/-- What is wrong with a check of a table. -/
def checkIssues (table : Question) (check : Table.Check) : List Issue :=
  unknownRows table check ++ columnIssues table check

/-- What is wrong with an optional check of a table. -/
def optionalCheckIssues (table : Question) (check : Option Table.Check) : List Issue :=
  match check with
  | some c => checkIssues table c
  | none => []

/-- What is wrong with a test of the answer to `source`. -/
def testIssues (source : Question) : Test → List Issue
  | .value _ => []
  | .cells primary extra =>
    if !source.isTable then [.sourceNotTable source.id]
    else
      (match primary with
        | some c => checkIssues source c
        | none => [.missingCheck]) ++ optionalCheckIssues source extra

/-- What is wrong with a condition. The owner is a question at `position`, or a group. -/
def conditionIssues (s : Survey) (position : Option Nat) (c : Condition) : List Issue :=
  match questionIndex? c.source s.questions with
  | none => [.unknownSource c.source]
  | some sourcePosition =>
    (if position.any (· ≤ sourcePosition) then [.forwardSource c.source] else []) ++
      match s.questions[sourcePosition]? with
      | some source => testIssues source c.test
      | none => []

/-- The findings about a guard. -/
def guardFindings (s : Survey) (o : Owner) (position : Option Nat) (g : Option Guard) :
    List Finding :=
  match g with
  | none => []
  | some g => g.conditions.flatMap fun c =>
      (conditionIssues s position c).map fun i => ⟨.condition o c.id, i⟩

/-- The question ids that a rule may jump to. -/
def targets (r : Rule) : List String :=
  match r.targetMap with
  | some m => if m.isEmpty then r.target.toList else m.values
  | none => r.target.toList

/-- What is wrong with a target of a rule of the question at `position`. -/
def targetIssues (s : Survey) (position : Nat) (target : String) : List Issue :=
  match questionIndex? target s.questions with
  | none => [.danglingTarget target]
  | some index => if index ≤ position then [.backwardTarget target] else []

/-- What is wrong with the targets of a rule of the question at `position`. -/
def jumpIssues (s : Survey) (position : Nat) (r : Rule) : List Issue :=
  match r.action with
  | .finish => []
  | .jump =>
    (if (targets r).isEmpty then [.noTarget] else []) ++
      (targets r).flatMap (targetIssues s position)

/-- What is wrong with a rule of the question at `position`. -/
def ruleIssues (s : Survey) (position : Nat) (q : Question) (r : Rule) : List Issue :=
  checkIssues q r.check ++ optionalCheckIssues q r.extra ++ jumpIssues s position r

/-- The findings about the rules of the question at `position`. -/
def rulesFindings (s : Survey) (position : Nat) (q : Question) : List Finding :=
  if q.rules.isEmpty then []
  else if !q.isTable then [⟨.owner (.question q.id), .rulesOnNonTable⟩]
  else q.rules.flatMap fun r =>
    (ruleIssues s position q r).map fun i => ⟨.rule q.id r.id, i⟩

/-- The finding about an id that names no group. -/
def unknownGroup (s : Survey) (o : Owner) (issue : String → Issue) (id : Option String) :
    List Finding :=
  match id with
  | none => []
  | some id => if (group? id s.groups).isNone then [⟨.owner o, issue id⟩] else []

/-- The findings about the question at `position`. -/
def questionFindings (s : Survey) (position : Nat) (q : Question) : List Finding :=
  unknownGroup s (.question q.id) .unknownGroup q.groupId ++
    guardFindings s (.question q.id) (some position) q.guard ++
    rulesFindings s position q

/-- Whether following parents from above a group leads back to it. -/
def inCycle (groups : List Group) (id : String) : Bool :=
  (Orbit.trail (parentId? groups) ((groupIds groups).erase id) (parentId? groups id)).cut == some id

/-- The findings about a group. -/
def groupFindings (s : Survey) (g : Group) : List Finding :=
  unknownGroup s (.group g.id) .unknownParent g.parentId ++
    (if inCycle s.groups g.id then [⟨.owner (.group g.id), .groupCycle⟩] else []) ++
    guardFindings s (.group g.id) none g.guard

end Lint

/-- What is wrong with a survey, in document order. -/
def Survey.lint (s : Survey) : List Finding :=
  (s.questions.mapIdx (Lint.questionFindings s)).flatten ++
    s.groups.flatMap (Lint.groupFindings s)

end Questionnaire
