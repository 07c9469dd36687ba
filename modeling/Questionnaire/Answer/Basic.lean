import Questionnaire.Entries
import Questionnaire.Json.Basic
import Questionnaire.Text.Blank

/-!
# Answers

The answer to a question has the shape that its question type produces: a text, a choice with a
text of the respondent's own, a list of choices, or the cells of a table. Anything else is kept
and counts as no data. A `Snapshot` holds the answers given so far, by question id.
-/

namespace Questionnaire

/-- A choice of "other", with the text that the respondent put beside it. -/
structure OtherChoice where
  selected : String
  other : String := ""
  hasOther : Bool
  deriving DecidableEq, Repr

/-- One element of an answer with several choices. -/
inductive Pick where
  | value (v : String)
  | other (o : OtherChoice)
  deriving DecidableEq, Repr

/-- The value picked, without a text beside it. -/
def Pick.selected : Pick → String
  | value v => v
  | other o => o.selected

/-- What a respondent put into one cell of a table. -/
inductive CellAnswer where
  | text (s : String)
  | selections (values : List String)
  | unsupported (content : Json)

/-- The cells of a table that hold something, by cell id. -/
abbrev TableAnswer := Entries CellAnswer

/-- The answer to one question. -/
inductive Answer where
  | text (s : String)
  | other (o : OtherChoice)
  | choices (picks : List Pick)
  | table (cells : TableAnswer)
  | unsupported (content : Json)

/-- A text as a list of values: none when it is blank. -/
def textValues (s : String) : List String :=
  if Text.isBlank s then [] else [s]

namespace CellAnswer

/-- The values that a cell holds, in stored order. -/
def values : CellAnswer → List String
  | text s => textValues s
  | selections vs => vs.filter (· ≠ "")
  | unsupported _ => []

/-- Whether a cell holds a value. -/
def isAnswered (c : CellAnswer) : Bool := !c.values.isEmpty

end CellAnswer

namespace Answer

/-- An answer of several plain choices. -/
def ofValues (values : List String) : Answer := choices (values.map .value)

/-- The choices that an answer makes; a table makes none. -/
def choiceValues : Answer → List String
  | text s => textValues s
  | other o => if o.selected = "" then [] else [o.selected]
  | choices picks => (picks.map Pick.selected).filter (· ≠ "")
  | table _ => []
  | unsupported _ => []

/-- Whether an answer holds data. -/
def isAnswered : Answer → Bool
  | table cells => cells.values.any CellAnswer.isAnswered
  | unsupported _ => false
  | a => !a.choiceValues.isEmpty

/-- The cells of an answer to a table question. -/
def table? : Answer → Option TableAnswer
  | table cells => some cells
  | _ => none

/-- The cells of an optional answer; without a table answer every cell is empty. -/
def cells (a : Option Answer) : TableAnswer := (a.bind table?).getD .empty

end Answer

/-- The answers given so far, by question id. -/
structure Snapshot where
  answers : Entries Answer

namespace Snapshot

/-- No answers. -/
def empty : Snapshot := ⟨.empty⟩

instance : Inhabited Snapshot := ⟨empty⟩

/-- The answer to a question. -/
def get? (s : Snapshot) (id : String) : Option Answer := s.answers.get? id

/-- The snapshot with an answer given or replaced. -/
def answer (s : Snapshot) (id : String) (a : Answer) : Snapshot := ⟨s.answers.put id a⟩

/-- Whether the answer to a question holds data. -/
def isAnswered (s : Snapshot) (id : String) : Bool := (s.get? id).any Answer.isAnswered

@[simp] theorem get?_empty (id : String) : empty.get? id = none := rfl

@[simp] theorem get?_answer (s : Snapshot) (id : String) (a : Answer) (other : String) :
    (s.answer id a).get? other = if id = other then some a else s.get? other :=
  Entries.get?_put s.answers id a other

end Snapshot

end Questionnaire
