import Questionnaire.Json.Printer
import Questionnaire.Lint.Survey
import Questionnaire.Progress
import Questionnaire.Route

/-!
# Reports

What the commands find out about a survey, and how they write it: as text with one line for each
question, step or finding, or as a document value.
-/

namespace Questionnaire.CommandLine

/-- A text filled up with blanks on the right to a width. -/
def padRight (width : Nat) (s : String) : String :=
  s ++ String.ofList (List.replicate (width - s.length) ' ')

/-- A text filled up with blanks on the left to a width. -/
def padLeft (width : Nat) (s : String) : String :=
  String.ofList (List.replicate (width - s.length) ' ') ++ s

/-- Lines, each with its end. -/
def unlines (lines : List String) : String :=
  String.join (lines.map fun line => line ++ "\n")

/-- A position after the id of its question. -/
def questionLabel (s : Survey) (index : Nat) : String :=
  let position := "#" ++ toString index
  match s.questions[index]? with
  | some q => q.id ++ " (" ++ position ++ ")"
  | none => position

/-- The id of the question at a position. -/
def questionId (s : Survey) (index : Nat) : String :=
  match s.questions[index]? with
  | some q => q.id
  | none => ""

/-- The state of one question. -/
structure QuestionState where
  id : String
  visible : Bool
  number : Option Nat
  deriving DecidableEq, Repr

namespace QuestionState

/-- The line of a question. -/
def line (q : QuestionState) : String :=
  let status := match q.visible, q.number with
    | true, some n => "visible  " ++ toString n ++ "."
    | true, none => "visible"
    | false, _ => "hidden"
  padRight 24 q.id ++ " " ++ status

/-- The value of the state of a question. -/
def toJson (q : QuestionState) : Json :=
  .object <| Json.present
    [("id", some (.text q.id)), ("visible", some (.bool q.visible)),
      ("number", q.number.map .nat)]

end QuestionState

/-- The visibility of every question, and the progress. -/
structure VisibilityReport where
  questions : List QuestionState
  progress : Progress

namespace VisibilityReport

/-- The visibility of the questions of a survey. -/
def of (s : Survey) (answers : Snapshot) (options : Options) : VisibilityReport :=
  let visibility := s.visibility answers options
  let numbers := s.numbers answers options
  { questions := s.questions.map fun q =>
      ⟨q.id, (visibility.get? q.id).getD false, numbers.get? q.id⟩
    progress := s.progress answers options }

/-- A share with one decimal place. -/
def tenthsText (tenths : Nat) : String := toString (tenths / 10) ++ "." ++ toString (tenths % 10)

/-- The line of a progress. -/
def progressLine (p : Progress) : String :=
  "progress: " ++ toString p.answered ++ "/" ++ toString p.visible ++ " answered (" ++
    tenthsText p.tenths ++ "%)"

/-- The report as text. -/
def text (r : VisibilityReport) : String :=
  unlines (r.questions.map QuestionState.line ++ [progressLine r.progress])

/-- The report as a value. -/
def toJson (r : VisibilityReport) : Json :=
  .object
    [("questions", .list (r.questions.map QuestionState.toJson)),
      ("progress", r.progress.toJson)]

end VisibilityReport

/-- Where a respondent goes next, and why. -/
structure NextReport where
  current : Nat
  next : Destination
  nextId : Option String
  reason : Reason
  deriving DecidableEq, Repr

namespace NextReport

/-- Where a respondent goes from a question; `raw` leaves hidden questions in. -/
def of (s : Survey) (answers : Snapshot) (options : Options) (current : Nat) (raw : Bool) :
    NextReport :=
  let step := resolve s.questions current (s.answerAt? answers current) options
  let next := match step.next, raw with
    | .question index, false => .ofIndex? (s.nextVisible? answers options index)
    | other, _ => other
  { current, next, reason := step.reason
    nextId := next.index?.bind fun index => s.questions[index]?.map (·.id) }

/-- A reason in words. -/
def reasonText : Reason → String
  | .inOrder => "no rule fired; default order"
  | .ended ruleId => "rule '" ++ ruleId ++ "' ends the survey"
  | .jumped ruleId targetId => "rule '" ++ ruleId ++ "' jumps to " ++ targetId
  | .unresolved ruleId =>
    "rule '" ++ ruleId ++ "' fired but its target did not resolve; default order"

/-- The report as text. -/
def text (s : Survey) (r : NextReport) : String :=
  let next := match r.next with
    | .question index => questionLabel s index
    | .finish => "END"
  unlines ["next: " ++ next, "reason: " ++ reasonText r.reason]

/-- The report as a value. -/
def toJson (r : NextReport) : Json :=
  .object <| Json.present
    [("current", some (.nat r.current)), ("next", some r.next.toJson),
      ("next_id", r.nextId.map .text), ("transition", some r.reason.toJson)]

end NextReport

/-- The lines of a path, one for each question and one for its end. -/
def pathText (s : Survey) (p : Path) : String :=
  let lines := p.visited.mapIdx fun i index =>
    padLeft 3 (toString (i + 1)) ++ ". " ++ questionLabel s index
  let last := match p.loopAt with
    | some index => "loop: navigation returns to " ++ questionLabel s index
    | none => "END"
  unlines (lines ++ [last])

/-- The value of a path with the ids of its questions. -/
def pathJson (s : Survey) (p : Path) : Json :=
  .object <| Json.present
    [("path", some (Json.texts (p.visited.map (questionId s)))),
      ("visited", some (.list (p.visited.map .nat))),
      ("loop_at", p.loopAt.map fun index => .text (questionId s index))]

/-- The line of a finding. -/
def findingLine (f : Lint.Finding) : String :=
  padRight 7 f.severity.name ++ " " ++ padRight 24 f.issue.code ++ " " ++ f.subject.text ++ ": " ++
    f.issue.message

/-- Findings as text. -/
def findingsText (findings : List Lint.Finding) : String :=
  if findings.isEmpty then "no findings\n" else unlines (findings.map findingLine)

/-- Findings as a value. -/
def findingsJson (findings : List Lint.Finding) : Json :=
  .list (findings.map Lint.Finding.toJson)

end Questionnaire.CommandLine
