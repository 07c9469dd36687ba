import Questionnaire.Visibility

/-!
# Progress and numbering

Of the visible questions those count that take an answer. They are numbered from one, and the
progress of a respondent is the share of them that is answered.
-/

namespace Questionnaire

/-- How far a respondent has come; `tenths` is the share answered in tenths of a percent. -/
structure Progress where
  visible : Nat
  answered : Nat
  tenths : Nat
  deriving DecidableEq, Repr

/-- The share `answered / visible` in tenths of a percent, rounded half up from the nearest binary
number; nothing to answer is all answered. -/
def shareInTenths (answered visible : Nat) : Nat :=
  if visible = 0 then 1000
  else (answered.toFloat / visible.toFloat * 1000).round.toUInt64.toNat

namespace Survey

variable (s : Survey) (answers : Snapshot) (options : Options)

/-- The visible questions that take an answer. -/
def answerable : List Question :=
  (s.visibleQuestions answers options).filter fun q => q.kind.takesAnswer

/-- The progress of a respondent. -/
def progress : Progress :=
  let visible := (s.answerable answers options).length
  let answered := ((s.answerable answers options).filter fun q => answers.isAnswered q.id).length
  ⟨visible, answered, shareInTenths answered visible⟩

/-- The numbers of the questions, by id. -/
def numbers : Entries Nat :=
  Entries.ofList ((s.answerable answers options).mapIdx fun i q => (q.id, i + 1))

end Survey

/-- The share answered, in percent. -/
def Progress.percent (p : Progress) : Float := p.tenths.toFloat / 10

/-- The value of a progress. -/
def Progress.toJson (p : Progress) : Json :=
  .object
    [("visible", .nat p.visible), ("answered", .nat p.answered),
      ("percent", .number (.float p.percent))]

end Questionnaire
