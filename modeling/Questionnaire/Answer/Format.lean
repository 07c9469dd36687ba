import Questionnaire.Answer.Basic
import Questionnaire.Reader.Record

/-!
# Answers as documents

An answer document is classified by its shape alone, so reading it never fails: a text is a text
answer, a record (or list) of the three parts of an "other" choice is one, a list of choices is a
list of choices, any other record is a table, and everything else is kept as it is. The same holds
for the cells of a table. In a snapshot document `null` says that a question has no answer.
-/

namespace Questionnaire

open Reader (Shape Field)

namespace OtherChoice

/-- The record type of "other" choices. -/
def shape : Shape OtherChoice where
  name := "OtherChoice"
  fields :=
    [.required "selectedValue" Reader.text fun v c => { c with selected := v },
      .optional "otherValue" Reader.text fun v c => { c with other := v },
      .required "hasOther" Reader.bool fun v c => { c with hasOther := v }]
  blank := { selected := "", hasOther := false }

/-- The "other" choice of a value, when it has the shape of one. -/
def ofJson? (j : Json) : Option OtherChoice :=
  (shape.read .setAside (.ofJson j)).toOption

/-- The value of an "other" choice. -/
def toJson (c : OtherChoice) : Json :=
  .object
    [("selectedValue", .text c.selected), ("otherValue", .text c.other),
      ("hasOther", .bool c.hasOther)]

end OtherChoice

namespace Pick

/-- The pick of a value, when it has the shape of one. -/
def ofJson? : Json → Option Pick
  | .text s => some (value s)
  | j => (OtherChoice.ofJson? j).map other

/-- The picks of the items of a list, when all have the shape of one. -/
def ofItems? : List Json → Option (List Pick)
  | [] => some []
  | j :: rest => (ofJson? j).bind fun p => (ofItems? rest).map (p :: ·)

/-- The value of a pick. -/
def toJson : Pick → Json
  | value v => .text v
  | other o => o.toJson

end Pick

namespace CellAnswer

/-- The texts of the items of a list, when all are texts. -/
def texts? : List Json → Option (List String)
  | [] => some []
  | .text s :: rest => (texts? rest).map (s :: ·)
  | _ :: _ => none

/-- What a value says about a cell. -/
def ofJson : Json → CellAnswer
  | .text s => text s
  | .list items => match texts? items with
    | some values => selections values
    | none => unsupported (Json.list items).withoutRepeats
  | j => unsupported j.withoutRepeats

/-- Reads what is in a cell. -/
def read : Reader CellAnswer := fun o d => (Reader.content o d).map ofJson

/-- The value of a cell. -/
def toJson : CellAnswer → Json
  | text s => .text s
  | selections values => Json.texts values
  | unsupported j => j

end CellAnswer

namespace TableAnswer

/-- The cells of the members of an object; the last of several members with one name counts. -/
def ofMembers (members : List (String × Json)) : TableAnswer :=
  Entries.ofList (members.map fun m => (m.1, CellAnswer.ofJson m.2))

/-- Reads the cells of a table. -/
def read : Reader TableAnswer := Reader.map CellAnswer.read

/-- The value of the cells of a table. -/
def toJson (cells : TableAnswer) : Json :=
  .object (cells.toList.map fun c => (c.1, c.2.toJson))

end TableAnswer

namespace Answer

/-- The answer of a value that is neither a text nor an "other" choice. -/
def ofCompound : Json → Answer
  | .list items => match Pick.ofItems? items with
    | some picks => choices picks
    | none => unsupported (Json.list items).withoutRepeats
  | .object members => table (TableAnswer.ofMembers members)
  | j => unsupported j

/-- The answer of a value. -/
def ofJson : Json → Answer
  | .text s => text s
  | j => match OtherChoice.ofJson? j with
    | some o => other o
    | none => ofCompound j

/-- Reads an answer. -/
def read : Reader Answer := fun o d => (Reader.content o d).map ofJson

/-- The value of an answer. -/
def toJson : Answer → Json
  | text s => .text s
  | other o => o.toJson
  | choices picks => .list (picks.map Pick.toJson)
  | table cells => TableAnswer.toJson cells
  | unsupported j => j

end Answer

namespace Snapshot

/-- Reads a snapshot. A question whose answer is `null` has none. -/
def read : Reader Snapshot := fun o d =>
  (Reader.map (Reader.optional Answer.read) o d).map fun m => ⟨m.filterMap id⟩

/-- The value of a snapshot. -/
def toJson (s : Snapshot) : Json :=
  .object (s.answers.toList.map fun a => (a.1, a.2.toJson))

end Snapshot

end Questionnaire
