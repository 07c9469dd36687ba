import Questionnaire.Table.Basic

/-!
# Tables as documents

How grids and checks are read from documents and written to values. Empty lists, absent values and
most empty texts are left out of a value and may be left out of a document.
-/

namespace Questionnaire

open Reader (Shape Field)

namespace Json

/-- A text unless it is empty. -/
def textUnlessEmpty (s : String) : Option Json := if s = "" then none else some (.text s)

/-- A list unless it is empty. -/
def listUnlessEmpty {α : Type} (f : α → Json) (items : List α) : Option Json :=
  if items.isEmpty then none else some (.list (items.map f))

/-- The number of a 32-bit word. -/
def word (n : UInt32) : Json := .nat n.toNat

end Json

namespace Table

namespace Widget

/-- The name of a widget. -/
def name : Widget → String
  | checkbox => "checkbox"
  | radio => "radio"
  | select => "select"
  | input => "input"

end Widget

namespace CellKind

/-- The name of a cell kind. -/
def name : CellKind → String
  | text => "text"
  | image => "image"
  | widget w => w.name

/-- Reads a cell kind. -/
def read : Reader CellKind :=
  Reader.variant
    ([text, image, widget .checkbox, widget .radio, widget .select, widget .input].map
      fun k => (k.name, k))

end CellKind

namespace Choice

/-- The record type of choices. -/
def shape : Shape Choice where
  name := "CellOption"
  fields :=
    [.required "id" Reader.text fun v c => { c with id := v },
      .optional "label" Reader.text fun v c => { c with label := v },
      .optional "value" (Reader.optional Reader.text) fun v c => { c with value := v }]
  blank := { id := "" }

/-- Reads a choice. -/
def read : Reader Choice := shape.read

/-- The value of a choice. -/
def toJson (c : Choice) : Json :=
  .object <| Json.present
    [("id", some (.text c.id)),
      ("label", some (.text c.label)),
      ("value", c.value.map .text)]

end Choice

namespace Cell

/-- The record type of cells. -/
def shape : Shape Cell where
  name := "TableCell"
  fields :=
    [.required "id" Reader.text fun v c => { c with id := v },
      .optional "type" CellKind.read fun v c => { c with kind := v },
      .optional "content" Reader.text fun v c => { c with content := v },
      .optional "checkboxOptions" (Reader.list Choice.read)
        fun v c => { c with checkboxChoices := v },
      .optional "radioOptions" (Reader.list Choice.read) fun v c => { c with radioChoices := v },
      .optional "selectOptions" (Reader.list Choice.read)
        fun v c => { c with selectChoices := v },
      .optional "rowspan" (Reader.optional Reader.word32) fun v c => { c with rowspan := v },
      .optional "colspan" (Reader.optional Reader.word32) fun v c => { c with colspan := v },
      .optional "isHidden" Reader.bool fun v c => { c with isHidden := v }]
  blank := { id := "" }

/-- Reads a cell. -/
def read : Reader Cell := shape.read

/-- The value of a cell. -/
def toJson (c : Cell) : Json :=
  .object <| Json.present
    [("id", some (.text c.id)),
      ("type", some (.text c.kind.name)),
      ("content", Json.textUnlessEmpty c.content),
      ("checkboxOptions", Json.listUnlessEmpty Choice.toJson c.checkboxChoices),
      ("radioOptions", Json.listUnlessEmpty Choice.toJson c.radioChoices),
      ("selectOptions", Json.listUnlessEmpty Choice.toJson c.selectChoices),
      ("rowspan", c.rowspan.map Json.word),
      ("colspan", c.colspan.map Json.word),
      ("isHidden", some (.bool c.isHidden))]

end Cell

namespace Row

/-- The record type of rows. -/
def shape : Shape Row where
  name := "TableRow"
  fields :=
    [.required "id" Reader.text fun v r => { r with id := v },
      .optional "label" Reader.text fun v r => { r with label := v },
      .optional "cells" (Reader.list Cell.read) fun v r => { r with cells := v }]
  blank := { id := "" }

/-- Reads a row. -/
def read : Reader Row := shape.read

/-- The value of a row. -/
def toJson (r : Row) : Json :=
  .object <| Json.present
    [("id", some (.text r.id)),
      ("label", Json.textUnlessEmpty r.label),
      ("cells", some (.list (r.cells.map Cell.toJson)))]

end Row

namespace Column

/-- The record type of column headings. -/
def shape : Shape Column where
  name := "TableColumn"
  fields :=
    [.optional "id" Reader.text fun v c => { c with id := v },
      .optional "label" Reader.text fun v c => { c with label := v },
      .optional "width" (Reader.optional Reader.word32) fun v c => { c with width := v }]
  blank := {}

/-- Reads a column heading. -/
def read : Reader Column := shape.read

/-- The value of a column heading. -/
def toJson (c : Column) : Json :=
  .object <| Json.present
    [("id", some (.text c.id)),
      ("label", some (.text c.label)),
      ("width", c.width.map Json.word)]

end Column

namespace CheckType

/-- The name of a check type. -/
def name : CheckType → String
  | combine .any => "any"
  | combine .all => "all"
  | combine .none => "none"
  | only w => w.name

/-- Reads a check type. -/
def read : Reader CheckType :=
  Reader.variant
    ([combine .any, combine .all, combine .none, only .checkbox, only .radio, only .select,
      only .input].map fun t => (t.name, t))

end CheckType

namespace Check

/-- The record type of checks. -/
def shape : Shape Check where
  name := "TableCheck"
  fields :=
    [.optional "rowIds" (Reader.list Reader.text) fun v c => { c with rowIds := v },
      .optional "checkType" CheckType.read fun v c => { c with type := v },
      .optional "cellColumnIndex" (Reader.optional Reader.position)
        fun v c => { c with columnIndex := v },
      .optional "expectedValues" (Reader.list Reader.text) fun v c => { c with expected := v }]
  blank := {}

/-- Reads a check. -/
def read : Reader Check := shape.read

/-- The value of a check. -/
def toJson (c : Check) : Json :=
  .object <| Json.present
    [("rowIds", some (Json.texts c.rowIds)),
      ("checkType", some (.text c.type.name)),
      ("cellColumnIndex", c.columnIndex.map fun n => .nat n.toNat),
      ("expectedValues", Json.listUnlessEmpty .text c.expected)]

end Check

end Table

end Questionnaire
