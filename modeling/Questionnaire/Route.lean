import Questionnaire.Branching
import Questionnaire.Visibility

/-!
# Routes through a survey

`resolve` says where a respondent goes from a question and why, before hidden questions are passed
over; `Survey.advance` passes over them; `Survey.walk` goes on to the end, or to the first
question that would be seen a second time.
-/

namespace Questionnaire

/-- Where a respondent goes next. -/
inductive Destination where
  | question (index : Nat)
  | finish
  deriving DecidableEq, Repr

/-- Why a respondent goes there: in survey order, because a rule ends the survey or jumps to a
question, or in survey order because the target of a rule does not resolve. -/
inductive Reason where
  | inOrder
  | ended (ruleId : String)
  | jumped (ruleId targetId : String)
  | unresolved (ruleId : String)
  deriving DecidableEq, Repr

/-- Where a respondent goes next, and why. -/
structure Step where
  next : Destination
  reason : Reason
  deriving DecidableEq, Repr

namespace Destination

/-- The destination at a position, or the end when there is none. -/
def ofIndex? : Option Nat → Destination
  | some index => question index
  | none => finish

/-- The position of the next question. -/
def index? : Destination → Option Nat
  | question index => some index
  | finish => none

/-- The position of the next question, and -1 for the end. -/
def signed : Destination → Int
  | question index => index
  | finish => -1

/-- The value of a destination. -/
def toJson : Destination → Json
  | question index => .object [("kind", .text "index"), ("index", .nat index)]
  | finish => .object [("kind", .text "end")]

end Destination

/-- The value of a reason. -/
def Reason.toJson : Reason → Json
  | inOrder => .object [("kind", .text "linear")]
  | ended ruleId => .object [("kind", .text "end"), ("rule_id", .text ruleId)]
  | jumped ruleId targetId =>
    .object [("kind", .text "goto"), ("rule_id", .text ruleId), ("target_id", .text targetId)]
  | unresolved ruleId => .object [("kind", .text "unresolved"), ("rule_id", .text ruleId)]

/-- The value of a step. -/
def Step.toJson (s : Step) : Json :=
  .object [("next", s.next.toJson), ("transition", s.reason.toJson)]

/-- The question after `current` in survey order. -/
def following (questions : List Question) (current : Nat) : Destination :=
  if current + 1 < questions.length then .question (current + 1) else .finish

/-- The step of a rule that fired at `current`. -/
def Rule.step (r : Rule) (scope : Table.Scope) (questions : List Question) (current : Nat) :
    Step :=
  match r.action with
  | .finish => ⟨.finish, .ended r.id⟩
  | .jump => match r.chosenTarget? scope with
    | none => ⟨following questions current, .unresolved r.id⟩
    | some target => match questionIndex? target questions with
      | none => ⟨following questions current, .unresolved r.id⟩
      | some index => ⟨.question index, .jumped r.id target⟩

/-- Where a respondent with this answer goes from the question at `current`. -/
def resolve (questions : List Question) (current : Nat) (answer : Option Answer)
    (options : Options) : Step :=
  match questions[current]? with
  | none => ⟨following questions current, .inOrder⟩
  | some q => match q.firedRule? answer options with
    | none => ⟨following questions current, .inOrder⟩
    | some r => r.step (q.scope answer options) questions current

/-- The questions that a respondent sees, by position, and the one that would be seen again. -/
structure Path where
  visited : List Nat
  loopAt : Option Nat
  deriving DecidableEq, Repr

/-- The value of a path. -/
def Path.toJson (p : Path) : Json :=
  .object <| Json.present
    [("visited", some (.list (p.visited.map .nat))), ("loop_at", p.loopAt.map .nat)]

namespace Survey

variable (s : Survey) (answers : Snapshot) (options : Options)

/-- The answer to the question at a position. -/
def answerAt? (index : Nat) : Option Answer :=
  s.questions[index]?.bind fun q => answers.get? q.id

/-- The first visible question at or after a destination. -/
def skipHidden : Destination → Destination
  | .finish => .finish
  | .question index => .ofIndex? (s.nextVisible? answers options index)

/-- The next visible question after `current`. -/
def advance (current : Nat) : Destination :=
  s.skipHidden answers options
    (resolve s.questions current (s.answerAt? answers current) options).next

/-- The first visible question. -/
def start : Destination := .ofIndex? (s.nextVisible? answers options 0)

/-- The path from the first visible question to the end or the first repetition. -/
def walk : Path :=
  let t := Orbit.trail (fun index => (s.advance answers options index).index?)
    (List.range s.questions.length) (s.nextVisible? answers options 0)
  ⟨t.visited, t.cut⟩

end Survey

end Questionnaire
