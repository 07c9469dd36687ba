import Questionnaire.Condition.Basic
import Questionnaire.Entries

/-!
# Surveys

A survey is a list of questions, some of them in named groups that may be nested. A table question
may carry branching rules, which decide where the respondent goes after it.
-/

namespace Questionnaire

/-- When a rule fires, by the rows of its primary check: one of them is hit, all are, none is, or
exactly they are and no other row of the table. `combination` asks for the same as `allOf`. -/
inductive RuleKind where
  | exclusive
  | anyOf
  | allOf
  | noneOf
  | combination
  deriving DecidableEq, Repr

/-- What a rule does when it fires. -/
inductive RuleAction where
  | jump
  | finish
  deriving DecidableEq, Repr

/-- A branching rule of a table question. Its targets are question ids: a fixed one, or one for
each of several selected values. -/
structure Rule where
  id : String
  kind : RuleKind
  check : Table.Check
  extra : Option Table.Check := none
  action : RuleAction
  target : Option String := none
  targetMap : Option (Entries String) := none
  errorMessage : Option String := none

/-- How a question is asked. -/
inductive QuestionKind where
  | notice
  | text
  | textarea
  | radio
  | checkbox
  | select
  | multiselect
  | table
  deriving DecidableEq, Repr

/-- Notices only show something; every other question takes an answer. -/
def QuestionKind.takesAnswer : QuestionKind → Bool
  | notice => false
  | _ => true

/-- A question. Its grid and rules count only if it is a table. -/
structure Question where
  id : String
  kind : QuestionKind
  title : Option String := none
  groupId : Option String := none
  order : UInt32 := 0
  guard : Option Guard := none
  grid : List Table.Row := []
  columns : List Table.Column := []
  rules : List Rule := []

namespace Question

/-- Whether a question asks for a table. -/
def isTable (q : Question) : Bool := q.kind == .table

/-- The rows of a table question; any other question has none. -/
def rows (q : Question) : List Table.Row := if q.isTable then q.grid else []

end Question

/-- A group of questions, possibly within another one. -/
structure Group where
  id : String
  name : Option String := none
  parentId : Option String := none
  order : UInt32 := 0
  guard : Option Guard := none

/-- The first question with this id. -/
def question? (id : String) (questions : List Question) : Option Question :=
  questions.find? fun q => q.id == id

/-- The position of the first question with this id. -/
def questionIndex? (id : String) (questions : List Question) : Option Nat :=
  questions.findIdx? fun q => q.id == id

/-- The question of an id stands where its position says. -/
theorem exists_index_of_question? {id : String} {questions : List Question} {q : Question}
    (h : question? id questions = some q) :
    ∃ i, questionIndex? id questions = some i ∧ questions[i]? = some q := by
  obtain ⟨hid, i, hi, rfl, hbefore⟩ := List.find?_eq_some_iff_getElem.mp h
  refine ⟨i, ?_, List.getElem?_eq_getElem hi⟩
  rw [questionIndex?, List.findIdx?_eq_some_iff_getElem]
  refine ⟨hi, hid, fun j hj heq => ?_⟩
  have hne := hbefore j hj
  rw [heq] at hne
  cases hne

theorem questionIndex?_eq_none_of_question? {id : String} {questions : List Question}
    (h : question? id questions = none) : questionIndex? id questions = none :=
  List.findIdx?_eq_none_iff.mpr fun q hq => by simpa using List.find?_eq_none.mp h q hq

/-- The first group with this id. -/
def group? (id : String) (groups : List Group) : Option Group :=
  groups.find? fun g => g.id == id

/-- A survey. -/
structure Survey where
  id : Option String := none
  title : Option String := none
  questions : List Question
  groups : List Group := []

/-- The same survey with its questions by ascending `order`; questions of one order keep their
sequence. -/
def Survey.ordered (s : Survey) : Survey :=
  { s with questions := s.questions.mergeSort fun a b => a.order ≤ b.order }

end Questionnaire
