/-!
# Parts of a text

A text with separators in it consists of the parts between them, of which any may be empty.
`splitFirst` goes by the first separator only.
-/

namespace Questionnaire.Text

/-- The parts of a text between separators. -/
def parts (separator : Char) : List Char → List (List Char)
  | [] => [[]]
  | c :: rest =>
    if c = separator then [] :: parts separator rest
    else match parts separator rest with
      | part :: more => (c :: part) :: more
      | [] => [[c]]

/-- These are the parts that the library's `splitOn` gives. -/
theorem parts_eq_splitOn (separator : Char) (cs : List Char) :
    parts separator cs = cs.splitOn separator := by
  induction cs with
  | nil => rfl
  | cons c rest ih =>
    have hcons : (c :: rest).splitOn separator =
        if (c == separator) = true then [] :: rest.splitOn separator
        else (rest.splitOn separator).modifyHead (c :: ·) :=
      List.splitOnP_cons_eq_if_modifyHead c rest
    rw [parts, ih, hcons]
    by_cases h : c = separator
    · simp [h]
    · obtain ⟨part, more, hparts⟩ :=
        List.exists_cons_of_ne_nil (List.splitOn_ne_nil separator rest)
      simp [h, hparts]

/-- Splits a text at the first character of a kind, if it holds one. -/
def splitFirst (p : Char → Bool) (cs : List Char) : List Char × Option (List Char) :=
  match cs.dropWhile (!p ·) with
  | [] => (cs.takeWhile (!p ·), none)
  | _ :: rest => (cs.takeWhile (!p ·), some rest)

end Questionnaire.Text
