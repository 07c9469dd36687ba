import Questionnaire.Proofs.Reader.Reads
import Questionnaire.Table.Format

/-!
# Tables are read back

The value of a grid or of a check is read back to the same grid or check. For each record type there
are two lemmas: its fields are independent, and what is written for a record restores it, field by
field. Fields that are left out have the value that leaving them out stands for.
-/

namespace Questionnaire

open Reader (Reads Restores Shape Field reads_text reads_bool reads_word32 reads_position reads_list
  reads_variant)

namespace Reader.Restores

variable {α β : Type} {fields : List (Field α)} {parts : List (String × Option Json)} {a b : α}
  {name : String}

/-- A list is left out when it is empty. -/
theorem listUnlessEmpty {r : Reader β} {set : List β → α → α} {f : β → Json} {l : List β}
    (h : ∀ x ∈ l, Reads r (f x) x) (hblank : set [] a = a)
    (hrest : Restores fields parts (set l a) b) :
    Restores (.optional name (Reader.list r) set :: fields)
      ((name, Json.listUnlessEmpty f l) :: parts) a b := by
  unfold Json.listUnlessEmpty
  cases l with
  | nil => exact leftOut (x := []) (by nofun) (fun _ => hblank) hrest
  | cons x rest => exact optional (reads_list h) hrest

/-- A text is left out when it is empty. -/
theorem textUnlessEmpty {set : String → α → α} {s : String} (hblank : set "" a = a)
    (hrest : Restores fields parts (set s a) b) :
    Restores (.optional name Reader.text set :: fields)
      ((name, Json.textUnlessEmpty s) :: parts) a b := by
  unfold Json.textUnlessEmpty
  by_cases hs : s = ""
  · rw [if_pos hs]
    exact leftOut (x := s) (by nofun) (fun _ => hs ▸ hblank) hrest
  · rw [if_neg hs]
    exact optional (reads_text s) hrest

end Reader.Restores

namespace Table

theorem CellKind.reads (k : CellKind) : Reads CellKind.read (.text k.name) k := by
  refine reads_variant ?_
  rcases k with _ | _ | (_ | _ | _ | _) <;> rfl

theorem CheckType.reads (t : CheckType) : Reads CheckType.read (.text t.name) t := by
  refine reads_variant ?_
  rcases t with (_ | _ | _) | (_ | _ | _ | _) <;> rfl

namespace Choice

theorem independent : shape.Independent where
  names := by decide
  stores := by simp [shape, Field.required, Field.optional, Field.independent_of_comm]

theorem reads (c : Choice) : Reads read c.toJson c := by
  refine Shape.reads_of_restores independent ?_
  refine .required (reads_text c.id) ?_
  refine .optional (reads_text c.label) ?_
  refine .optionalValue (x := c.value) reads_text (by nofun) rfl ?_
  exact .done rfl

end Choice

namespace Cell

theorem independent : shape.Independent where
  names := by decide
  stores := by simp [shape, Field.required, Field.optional, Field.independent_of_comm]

theorem reads (c : Cell) : Reads read c.toJson c := by
  refine Shape.reads_of_restores independent ?_
  refine .required (reads_text c.id) ?_
  refine .optional (CellKind.reads c.kind) ?_
  refine .textUnlessEmpty (s := c.content) rfl ?_
  refine .listUnlessEmpty (l := c.checkboxChoices) (fun x _ => x.reads) rfl ?_
  refine .listUnlessEmpty (l := c.radioChoices) (fun x _ => x.reads) rfl ?_
  refine .listUnlessEmpty (l := c.selectChoices) (fun x _ => x.reads) rfl ?_
  refine .optionalValue (x := c.rowspan) reads_word32 (by nofun) rfl ?_
  refine .optionalValue (x := c.colspan) reads_word32 (by nofun) rfl ?_
  refine .optional (reads_bool c.isHidden) ?_
  exact .done rfl

end Cell

namespace Row

theorem independent : shape.Independent where
  names := by decide
  stores := by simp [shape, Field.required, Field.optional, Field.independent_of_comm]

theorem reads (r : Row) : Reads read r.toJson r := by
  refine Shape.reads_of_restores independent ?_
  refine .required (reads_text r.id) ?_
  refine .textUnlessEmpty (s := r.label) rfl ?_
  refine .optional (reads_list (l := r.cells) fun c _ => c.reads) ?_
  exact .done rfl

end Row

namespace Column

theorem independent : shape.Independent where
  names := by decide
  stores := by simp [shape, Field.optional, Field.independent_of_comm]

theorem reads (c : Column) : Reads read c.toJson c := by
  refine Shape.reads_of_restores independent ?_
  refine .optional (reads_text c.id) ?_
  refine .optional (reads_text c.label) ?_
  refine .optionalValue (x := c.width) reads_word32 (by nofun) rfl ?_
  exact .done rfl

end Column

namespace Check

theorem independent : shape.Independent where
  names := by decide
  stores := by simp [shape, Field.optional, Field.independent_of_comm]

theorem reads (c : Check) : Reads read c.toJson c := by
  refine Shape.reads_of_restores independent ?_
  refine .optional (reads_list (l := c.rowIds) fun s _ => reads_text s) ?_
  refine .optional (CheckType.reads c.type) ?_
  refine .optionalValue (x := c.columnIndex) reads_position (by nofun) rfl ?_
  refine .listUnlessEmpty (l := c.expected) (fun s _ => reads_text s) rfl ?_
  exact .done rfl

end Check

end Table

end Questionnaire
