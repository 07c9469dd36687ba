import Questionnaire.Condition.Holds
import Questionnaire.Orbit

/-!
# Visible questions

A question is visible when its own guard holds and the guard of every group around it does. The
groups around a question are found by following parent ids; the chain ends at an unknown id and
at the first id that comes up again, and what would lie beyond places no restriction.
-/

namespace Questionnaire

/-- The id of the parent of the first group with this id. -/
def parentId? (groups : List Group) (id : String) : Option String :=
  (group? id groups).bind (·.parentId)

/-- The ids of the groups, each once. -/
def groupIds (groups : List Group) : List String := Table.firstOccurrences (groups.map (·.id))

/-- The ids of the groups from a start upwards. -/
def chainIds (groups : List Group) (start : Option String) : List String :=
  (Orbit.trail (parentId? groups) (groupIds groups) start).visited

/-- The groups from a start upwards. -/
def groupChain (groups : List Group) (start : Option String) : List Group :=
  (chainIds groups start).filterMap fun id => group? id groups

/-- Whether a question is visible among `questions` and `groups`. -/
def Question.isVisible (q : Question) (answers : Snapshot) (questions : List Question)
    (groups : List Group) (options : Options) : Bool :=
  guardHolds q.guard answers questions options &&
    (groupChain groups q.groupId).all fun g => guardHolds g.guard answers questions options

namespace Survey

variable (s : Survey) (answers : Snapshot) (options : Options)

/-- Whether a question is visible in a survey. -/
def shows (q : Question) : Bool := q.isVisible answers s.questions s.groups options

/-- The position of the first visible question at or after `start`. -/
def nextVisible? (start : Nat) : Option Nat :=
  ((s.questions.drop start).findIdx? (s.shows answers options)).map (start + ·)

/-- Whether each question is visible, by id; of several with one id the last counts. -/
def visibility : Entries Bool :=
  Entries.ofList (s.questions.map fun q => (q.id, s.shows answers options q))

/-- The visible questions, in survey order. -/
def visibleQuestions : List Question := s.questions.filter (s.shows answers options)

end Survey

end Questionnaire
