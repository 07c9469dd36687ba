import Questionnaire.Table.Basic

/-!
# Conditions

A condition is a statement about the answer to one question, its source. A `Guard` combines
conditions and decides whether a question or a group of questions is shown.
-/

namespace Questionnaire

/-- What a condition asks of the answer to its source: one of the required values (any data if
none is required), or one or two checks of the table. -/
inductive Test where
  | value (required : List String)
  | cells (primary extra : Option Table.Check)
  deriving DecidableEq

/-- A statement about the answer to the question `source`. One that is not enabled is ignored. -/
structure Condition where
  id : String := ""
  isEnabled : Bool := true
  source : String
  test : Test
  deriving DecidableEq

/-- How the conditions of a guard are combined: all hold, one holds, or none holds. -/
inductive Logic where
  | and
  | or
  | not
  deriving DecidableEq, Repr

/-- The condition for showing a question or a group. -/
structure Guard where
  conditions : List Condition := []
  logic : Logic := .and
  deriving DecidableEq

/-- The conditions of a guard that count. -/
def Guard.enabled (g : Guard) : List Condition := g.conditions.filter (·.isEnabled)

namespace Condition

/-- The condition that the answer to `source` includes one of the values. -/
def ofValues (id source : String) (required : List String) : Condition :=
  { id, source, test := .value required }

/-- The condition that the table answered in `source` passes one or two checks. -/
def ofChecks (id source : String) (primary : Table.Check) (extra : Option Table.Check) :
    Condition :=
  { id, source, test := .cells (some primary) extra }

/-- The same condition, not counted. -/
def disabled (c : Condition) : Condition := { c with isEnabled := false }

end Condition

end Questionnaire
