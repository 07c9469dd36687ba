/-!
# Blank text

A text answer counts as given only when it holds something other than white space. White space
is the Unicode property `White_Space`: the ASCII blanks and controls, the no-break space, the
typographic spaces, both separators and the ideographic space. Zero-width characters are not
white space.
-/

namespace Questionnaire.Text

/-- The code points with the Unicode property `White_Space`, as closed intervals. -/
def blankRanges : List (Nat × Nat) :=
  [(0x09, 0x0D), (0x20, 0x20), (0x85, 0x85), (0xA0, 0xA0), (0x1680, 0x1680), (0x2000, 0x200A),
    (0x2028, 0x2029), (0x202F, 0x202F), (0x205F, 0x205F), (0x3000, 0x3000)]

/-- Whether a character is white space. -/
def isBlankChar (c : Char) : Bool :=
  blankRanges.any fun r => r.1 ≤ c.toNat && c.toNat ≤ r.2

/-- Whether a text is empty or white space throughout. -/
def isBlank (s : String) : Bool :=
  s.toList.all isBlankChar

/-- The property names twenty-five code points. -/
example : (blankRanges.map fun r => r.2 + 1 - r.1).sum = 25 := by decide

/-- Every character that the standard library calls white space is blank. -/
theorem isBlankChar_of_isWhitespace {c : Char} (h : c.isWhitespace = true) :
    isBlankChar c = true := by
  simp only [Char.isWhitespace, Bool.or_eq_true, decide_eq_true_eq] at h
  rcases h with ((rfl | rfl) | rfl) | rfl <;> decide

@[simp] theorem isBlank_empty : isBlank "" = true := rfl

end Questionnaire.Text
