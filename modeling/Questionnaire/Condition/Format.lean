import Questionnaire.Condition.Basic
import Questionnaire.Table.Format

/-!
# Conditions as documents

The members of a condition and those of its test stand side by side in one record. The member
`conditionType` says which test it is; the members of that test are read last, from the part that
was set aside, and those of the other test are ignored.
-/

namespace Questionnaire

open Reader (Shape Field Origin Refusal)
open Json (Document)

/-- The two kinds of test. -/
inductive TestKind where
  | value
  | cells
  deriving DecidableEq

namespace TestKind

/-- The name of a kind of test. -/
def name : TestKind → String
  | value => "value-match"
  | cells => "table-cell-check"

/-- Reads a kind of test, given by its name or its number. -/
def read : Reader TestKind
  | _, .text s => Reader.named ([value, cells].map fun k => (k.name, k)) s
  | _, .number (.int 0) => .ok value
  | _, .number (.int 1) => .ok cells
  | _, d@(.number (.int n)) =>
    if n < 0 then .error (Reader.refuse d "variant identifier")
    else .error (.problem (.wrongValue (.int n) "variant index 0 <= i < 2"))
  | _, d => .error (Reader.refuse d "variant identifier")

/-- The name of the member that gives the kind of test. -/
def tag : String := "conditionType"

/-- Finds the kind of test among members; `found` is the one found before. -/
def find (found : Option TestKind) :
    List (Option String × Document) → Except Refusal TestKind
  | [] => match found with
    | some kind => .ok kind
    | none => .error (.problem (.missing tag))
  | (name, d) :: rest =>
    if name = some tag then match found with
      | some _ => .error (.problem (.repeated tag))
      | none => (read .setAside d).bind fun kind => find (some kind) rest
    else find found rest

end TestKind

namespace Test

/-- The record type of a value test. -/
def valueShape : Shape Test where
  name := "ConditionKind"
  fields := [.optional "requiredValues" (Reader.list Reader.text) fun v _ => value v]
  blank := value []

/-- Replaces the primary check of a table test. -/
def withPrimary (check : Option Table.Check) : Test → Test
  | cells _ extra => cells check extra
  | value _ => cells check none

/-- Replaces the additional check of a table test. -/
def withExtra (check : Option Table.Check) : Test → Test
  | cells primary _ => cells primary check
  | value _ => cells none check

/-- The record type of a table test. -/
def cellsShape : Shape Test where
  name := "ConditionKind"
  fields :=
    [.optional "tableConditions" (Reader.optional Table.Check.read) withPrimary,
      .optional "additionalConditions" (Reader.optional Table.Check.read) withExtra]
  blank := cells none none

/-- The record type of a kind of test. -/
def shape : TestKind → Shape Test
  | .value => valueShape
  | .cells => cellsShape

/-- Reads a test from the members that were set aside. -/
def ofOthers (members : List (Option String × Document)) : Except Refusal Test :=
  (TestKind.find none members).bind fun kind =>
    (shape kind).readMembers .setAside members [] (shape kind).blank

/-- The members of a test. -/
def members : Test → List (String × Option Json)
  | value required =>
    [(TestKind.tag, some (.text TestKind.value.name)),
      ("requiredValues", Json.listUnlessEmpty .text required)]
  | cells primary extra =>
    [(TestKind.tag, some (.text TestKind.cells.name)),
      ("tableConditions", primary.map Table.Check.toJson),
      ("additionalConditions", extra.map Table.Check.toJson)]

end Test

namespace Condition

/-- The record type of the members that every condition has. -/
def shape : Shape Condition where
  name := "Condition"
  fields :=
    [.optional "id" Reader.text fun v c => { c with id := v },
      .optional "enabled" Reader.bool fun v c => { c with isEnabled := v },
      .required "sourceQuestionId" Reader.text fun v c => { c with source := v }]
  blank := { source := "", test := .value [] }
  keepsOthers := true

/-- The members that are not common to all conditions. -/
def others (members : List (Option String × Document)) : List (Option String × Document) :=
  members.filter fun m => match m.1 with
    | some name => (shape.field? name).isNone
    | none => false

/-- Reads a condition, which is always given by members. -/
def read : Reader Condition
  | o, .record members =>
    o.enter.bind fun inner =>
      (shape.readMembers inner members [] shape.blank).bind fun c =>
        (Test.ofOthers (others members)).map fun test => { c with test := test }
  | _, d => .error (Reader.refuse d ("struct " ++ shape.name))

/-- The value of a condition. -/
def toJson (c : Condition) : Json :=
  .object <| Json.present <|
    [("id", some (.text c.id)),
      ("enabled", some (.bool c.isEnabled)),
      ("sourceQuestionId", some (.text c.source))] ++ c.test.members

end Condition

namespace Logic

/-- The name of a way to combine conditions. -/
def name : Logic → String
  | and => "AND"
  | or => "OR"
  | not => "NOT"

/-- Reads a way to combine conditions. -/
def read : Reader Logic := Reader.variant ([and, or, not].map fun l => (l.name, l))

end Logic

namespace Guard

/-- The record type of guards. -/
def shape : Shape Guard where
  name := "ConditionGroup"
  fields :=
    [.optional "conditions" (Reader.list Condition.read) fun v g => { g with conditions := v },
      .optional "logicType" Logic.read fun v g => { g with logic := v }]
  blank := {}

/-- Reads a guard. -/
def read : Reader Guard := shape.read

/-- The value of a guard. -/
def toJson (g : Guard) : Json :=
  .object
    [("conditions", .list (g.conditions.map Condition.toJson)),
      ("logicType", .text g.logic.name)]

end Guard

end Questionnaire
