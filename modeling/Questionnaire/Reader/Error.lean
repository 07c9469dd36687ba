import Questionnaire.Decimal.Shortest
import Questionnaire.Json.Document
import Questionnaire.Text.Quoted

/-!
# Why a document cannot be read

A document is refused either because its text is malformed or because something in it is not what
the reader expects. `Problem` names the cause in the second case, `Problem.message` words it.
-/

namespace Questionnaire.Reader

open Json (Document)

/-- What a reader met, in the detail that a message shows. -/
inductive Found where
  | null
  | bool (value : Bool)
  | int (value : Int)
  | float (value : Float)
  | text (value : String)
  | list
  | record
  deriving DecidableEq

/-- Why a well-formed document is refused. `expected` says in words what would be accepted. -/
inductive Problem where
  | wrongKind (found : Found) (expected : String)
  | wrongValue (found : Found) (expected : String)
  | missing (field : String)
  | repeated (field : String)
  | unknownVariant (name : String) (known : List String)
  | wrongLength (length : Nat) (expected : String)
  deriving DecidableEq

/-- Why a document is refused. -/
inductive Refusal where
  | malformed
  | problem (cause : Problem)
  deriving DecidableEq

/-- A name between grave accents. -/
def ticked (name : String) : String := "\u0060" ++ name ++ "\u0060"

/-- What was met, in words. -/
def Found.words : Found → String
  | .null => "null"
  | .bool b => "boolean " ++ ticked (if b then "true" else "false")
  | .int n => "integer " ++ ticked (toString n)
  | .float x => "floating point " ++ ticked (floatText x)
  | .text s => "string " ++ Text.shown s
  | .list => "sequence"
  | .record => "map"

/-- The variants that would be accepted, in words. -/
def variantWords (known : List String) : String :=
  match known with
  | [a] => ticked a
  | [a, b] => ticked a ++ " or " ++ ticked b
  | _ => "one of " ++ ", ".intercalate (known.map ticked)

/-- The wording of a problem. -/
def Problem.message : Problem → String
  | .wrongKind found expected => "invalid type: " ++ found.words ++ ", expected " ++ expected
  | .wrongValue found expected => "invalid value: " ++ found.words ++ ", expected " ++ expected
  | .missing field => "missing field " ++ ticked field
  | .repeated field => "duplicate field " ++ ticked field
  | .unknownVariant name known =>
    "unknown variant " ++ ticked name ++ ", expected " ++ variantWords known
  | .wrongLength length expected =>
    "invalid length " ++ toString length ++ ", expected " ++ expected

/-- What a document is, in the detail that a message shows; `none` when it cannot be read. -/
def found? : Document → Option Found
  | .null => some .null
  | .bool b => some (.bool b)
  | .number (.int n) => some (.int n)
  | .number (.float x) => some (.float x)
  | .text s => some (.text s)
  | .list _ => some .list
  | .record _ => some .record
  | .unreadable => none
  | .damaged => none

/-- The refusal of a document that is not of the expected kind. -/
def refuse (d : Document) (expected : String) : Refusal :=
  match found? d with
  | some found => .problem (.wrongKind found expected)
  | none => .malformed

end Questionnaire.Reader
