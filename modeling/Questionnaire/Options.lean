import Questionnaire.Reader.Record

/-!
# Evaluation options

What the author of a survey may choose about the evaluation of its rules, beyond the rules
themselves.
-/

namespace Questionnaire

open Reader (Shape Field)

/-- How a row is judged by a check that names no column: by any of its interactive columns, or by
all of them. -/
inductive ColumnPolicy where
  | any
  | all
  deriving DecidableEq, Repr, Inhabited

/-- The options of an evaluation. -/
structure Options where
  unscopedColumns : ColumnPolicy := .any
  deriving DecidableEq, Repr, Inhabited

namespace ColumnPolicy

/-- The names of the policies. -/
def names : List (String × ColumnPolicy) := [("any", .any), ("all", .all)]

/-- Reads a policy. -/
def read : Reader ColumnPolicy := Reader.variant names

/-- The value of a policy. -/
def toJson : ColumnPolicy → Json
  | .any => .text "any"
  | .all => .text "all"

end ColumnPolicy

namespace Options

/-- The record type of options. -/
def shape : Shape Options where
  name := "EvalOptions"
  fields :=
    [.optional "unscoped_columns" ColumnPolicy.read fun p o => { o with unscopedColumns := p }]
  blank := {}

/-- Reads options. -/
def read : Reader Options := shape.read

/-- The value of options. -/
def toJson (o : Options) : Json :=
  .object [("unscoped_columns", o.unscopedColumns.toJson)]

end Options

end Questionnaire
