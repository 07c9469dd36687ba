import Questionnaire.Condition.Format
import Questionnaire.Survey.Basic

/-!
# Surveys as documents

How surveys are read from documents and written to values. Reading a survey orders its questions.
-/

namespace Questionnaire

open Reader (Shape Field)

namespace RuleKind

/-- The name of a kind of rule. -/
def name : RuleKind → String
  | exclusive => "exclusive-check"
  | anyOf => "any-of"
  | allOf => "all-of"
  | noneOf => "none-of"
  | combination => "required-combination"

/-- Reads a kind of rule. -/
def read : Reader RuleKind :=
  Reader.variant ([exclusive, anyOf, allOf, noneOf, combination].map fun k => (k.name, k))

end RuleKind

namespace RuleAction

/-- The name of an action. -/
def name : RuleAction → String
  | jump => "goto"
  | finish => "end"

/-- Reads an action. -/
def read : Reader RuleAction := Reader.variant ([jump, finish].map fun a => (a.name, a))

end RuleAction

namespace Rule

/-- The record type of rules. -/
def shape : Shape Rule where
  name := "TableValidationRule"
  fields :=
    [.required "id" Reader.text fun v r => { r with id := v },
      .required "type" RuleKind.read fun v r => { r with kind := v },
      .required "conditions" Table.Check.read fun v r => { r with check := v },
      .optional "additionalConditions" (Reader.optional Table.Check.read)
        fun v r => { r with extra := v },
      .required "action" RuleAction.read fun v r => { r with action := v },
      .optional "targetQuestionId" (Reader.optional Reader.text)
        fun v r => { r with target := v },
      .optional "targetQuestionMap" (Reader.optional (Reader.map Reader.text))
        fun v r => { r with targetMap := v },
      .optional "errorMessage" (Reader.optional Reader.text)
        fun v r => { r with errorMessage := v }]
  blank := { id := "", kind := .anyOf, check := {}, action := .finish }

/-- Reads a rule. -/
def read : Reader Rule := shape.read

/-- The value of a map from selected values to targets. -/
def targetsJson (targets : Entries String) : Json :=
  .object (targets.toList.map fun t => (t.1, .text t.2))

/-- The value of a rule. -/
def toJson (r : Rule) : Json :=
  .object <| Json.present
    [("id", some (.text r.id)),
      ("type", some (.text r.kind.name)),
      ("conditions", some r.check.toJson),
      ("additionalConditions", r.extra.map Table.Check.toJson),
      ("action", some (.text r.action.name)),
      ("targetQuestionId", r.target.map .text),
      ("targetQuestionMap", r.targetMap.map targetsJson),
      ("errorMessage", r.errorMessage.map .text)]

end Rule

namespace QuestionKind

/-- The name of a kind of question. -/
def name : QuestionKind → String
  | notice => "notice"
  | text => "text"
  | textarea => "textarea"
  | radio => "radio"
  | checkbox => "checkbox"
  | select => "select"
  | multiselect => "multiselect"
  | table => "table"

/-- Reads a kind of question. -/
def read : Reader QuestionKind :=
  Reader.variant
    ([notice, text, textarea, radio, checkbox, select, multiselect, table].map
      fun k => (k.name, k))

end QuestionKind

namespace Question

/-- The record type of questions. -/
def shape : Shape Question where
  name := "Question"
  fields :=
    [.required "id" Reader.text fun v q => { q with id := v },
      .required "type" QuestionKind.read fun v q => { q with kind := v },
      .optional "title" (Reader.optional Reader.text) fun v q => { q with title := v },
      .optional "groupId" (Reader.optional Reader.text) fun v q => { q with groupId := v },
      .optional "order" Reader.word32 fun v q => { q with order := v },
      .optional "displayCondition" (Reader.optional Guard.read)
        fun v q => { q with guard := v },
      .optional "tableRowsData" (Reader.list Table.Row.read) fun v q => { q with grid := v },
      .optional "tableColumns" (Reader.list Table.Column.read)
        fun v q => { q with columns := v },
      .optional "tableValidationRules" (Reader.list Rule.read)
        fun v q => { q with rules := v }]
  blank := { id := "", kind := .notice }

/-- Reads a question. -/
def read : Reader Question := shape.read

/-- The value of a question. -/
def toJson (q : Question) : Json :=
  .object <| Json.present
    [("id", some (.text q.id)),
      ("type", some (.text q.kind.name)),
      ("title", q.title.map .text),
      ("groupId", q.groupId.map .text),
      ("order", some (Json.word q.order)),
      ("displayCondition", q.guard.map Guard.toJson),
      ("tableRowsData", Json.listUnlessEmpty Table.Row.toJson q.grid),
      ("tableColumns", Json.listUnlessEmpty Table.Column.toJson q.columns),
      ("tableValidationRules", Json.listUnlessEmpty Rule.toJson q.rules)]

end Question

namespace Group

/-- The record type of groups. -/
def shape : Shape Group where
  name := "QuestionGroup"
  fields :=
    [.required "id" Reader.text fun v g => { g with id := v },
      .optional "name" (Reader.optional Reader.text) fun v g => { g with name := v },
      .optional "parentGroupId" (Reader.optional Reader.text)
        fun v g => { g with parentId := v },
      .optional "order" Reader.word32 fun v g => { g with order := v },
      .optional "displayCondition" (Reader.optional Guard.read)
        fun v g => { g with guard := v }]
  blank := { id := "" }

/-- Reads a group. -/
def read : Reader Group := shape.read

/-- The value of a group. -/
def toJson (g : Group) : Json :=
  .object <| Json.present
    [("id", some (.text g.id)),
      ("name", g.name.map .text),
      ("parentGroupId", g.parentId.map .text),
      ("order", some (Json.word g.order)),
      ("displayCondition", g.guard.map Guard.toJson)]

end Group

namespace Survey

/-- The record type of surveys. -/
def shape : Shape Survey where
  name := "Survey"
  fields :=
    [.optional "id" (Reader.optional Reader.text) fun v s => { s with id := v },
      .optional "title" (Reader.optional Reader.text) fun v s => { s with title := v },
      .required "questions" (Reader.list Question.read) fun v s => { s with questions := v },
      .optional "groups" (Reader.list Group.read) fun v s => { s with groups := v }]
  blank := { questions := [] }

/-- Reads a survey and orders its questions. -/
def read : Reader Survey := fun o d => (shape.read o d).map ordered

/-- The value of a survey. -/
def toJson (s : Survey) : Json :=
  .object <| Json.present
    [("id", s.id.map .text),
      ("title", s.title.map .text),
      ("questions", some (.list (s.questions.map Question.toJson))),
      ("groups", some (.list (s.groups.map Group.toJson)))]

end Survey

end Questionnaire
