import Questionnaire.Decimal.Numeral

/-!
# The tokens of a document text

`tokens` splits a text into tokens, always the longest that fits. A text that stops being
splittable ends in the token `garbage`. Two tokens are well formed and yet have no value: a quoted
text with half of a surrogate pair (`halfText`) and a numeral out of range (`hugeNumber`).
-/

namespace Questionnaire.Json

/-- A token of a document text. -/
inductive Token where
  | openList
  | closeList
  | openRecord
  | closeRecord
  | comma
  | colon
  | null
  | bool (value : Bool)
  | number (value : Number)
  | text (value : String)
  | halfText
  | hugeNumber
  | garbage
  deriving DecidableEq

/-- One unit of a quoted text: a character, or a 16-bit unit written with four digits. -/
inductive TextUnit where
  | char (c : Char)
  | escaped (unit : Nat)

/-- The value of a hexadecimal digit. -/
def hexValue? (c : Char) : Option Nat :=
  if '0' ≤ c ∧ c ≤ '9' then some (c.toNat - '0'.toNat)
  else if 'a' ≤ c ∧ c ≤ 'f' then some (c.toNat - 'a'.toNat + 10)
  else if 'A' ≤ c ∧ c ≤ 'F' then some (c.toNat - 'A'.toNat + 10)
  else none

/-- The value of four hexadecimal digits. -/
def unitValue? (a b c d : Char) : Option Nat := do
  let a ← hexValue? a
  let b ← hexValue? b
  let c ← hexValue? c
  let d ← hexValue? d
  some (((a * 16 + b) * 16 + c) * 16 + d)

/-- The character that a backslash and this character stand for. -/
def escape? : Char → Option Char
  | '"' => some '"'
  | '\\' => some '\\'
  | '/' => some '/'
  | 'b' => some '\x08'
  | 'f' => some '\x0c'
  | 'n' => some '\n'
  | 'r' => some '\r'
  | 't' => some '\t'
  | _ => none

/-- Adds a unit in front of the units read so far. -/
def consUnit (u : TextUnit) (p : List TextUnit × List Char) : List TextUnit × List Char :=
  (u :: p.1, p.2)

/-- The units of a quoted text after its opening quote, and what follows the closing quote.
Refuses a control character, an unknown escape and a missing closing quote. -/
def textUnits? : List Char → Option (List TextUnit × List Char)
  | [] => none
  | '"' :: rest => some ([], rest)
  | '\\' :: 'u' :: a :: b :: c :: d :: rest =>
    (unitValue? a b c d).bind fun u => (textUnits? rest).map (consUnit (.escaped u))
  | '\\' :: c :: rest =>
    (escape? c).bind fun e => (textUnits? rest).map (consUnit (.char e))
  | c :: rest =>
    if c.toNat < 32 then none else (textUnits? rest).map (consUnit (.char c))

/-- Whether a 16-bit unit is the first half of a surrogate pair. -/
def isHighHalf (u : Nat) : Bool := 0xD800 ≤ u && u < 0xDC00

/-- Whether a 16-bit unit is the second half of a surrogate pair. -/
def isLowHalf (u : Nat) : Bool := 0xDC00 ≤ u && u < 0xE000

/-- The characters of the units; `pending` is the first half of a pair that is still open.
Refuses half of a pair. -/
def decodeUnits? (pending : Option Nat) : List TextUnit → Option (List Char)
  | [] => match pending with
    | none => some []
    | some _ => none
  | .char c :: rest => match pending with
    | none => (decodeUnits? none rest).map (c :: ·)
    | some _ => none
  | .escaped u :: rest => match pending with
    | none =>
      if isHighHalf u then decodeUnits? (some u) rest
      else if isLowHalf u then none
      else (decodeUnits? none rest).map (Char.ofNat u :: ·)
    | some high =>
      if isLowHalf u then
        let code := 0x10000 + (high - 0xD800) * 0x400 + (u - 0xDC00)
        (decodeUnits? none rest).map (Char.ofNat code :: ·)
      else none

/-- Whether a character may stand between tokens. -/
def isSpace (c : Char) : Bool := c = ' ' || c = '\n' || c = '\t' || c = '\r'

/-- The token that a single character makes. -/
def punctuation? : Char → Option Token
  | '[' => some .openList
  | ']' => some .closeList
  | '\x7b' => some .openRecord
  | '\x7d' => some .closeRecord
  | ',' => some .comma
  | ':' => some .colon
  | _ => none

/-- The words of the format. -/
def words : List (List Char × Token) :=
  [(['t', 'r', 'u', 'e'], .bool true), (['f', 'a', 'l', 's', 'e'], .bool false),
    (['n', 'u', 'l', 'l'], .null)]

/-- What follows `word` in a text that starts with it. -/
def afterWord? : List Char → List Char → Option (List Char)
  | [], cs => some cs
  | _ :: _, [] => none
  | w :: word, c :: cs => if w = c then afterWord? word cs else none

/-- Splits a word of the format off. -/
def scanWord? (cs : List Char) : Option (Token × List Char) :=
  words.findSome? fun w => (afterWord? w.1 cs).map fun rest => (w.2, rest)

/-- The token that a quoted text makes. -/
def textToken (units : List TextUnit) : Token :=
  match decodeUnits? none units with
  | some cs => .text (String.ofList cs)
  | none => .halfText

/-- The token that a numeral makes. -/
def numberToken (n : Numeral) : Token :=
  match n.value? with
  | some v => .number v
  | none => .hugeNumber

/-- Splits the first token off a text that starts with `c`, not a blank. -/
def scanToken? (c : Char) (rest : List Char) : Option (Token × List Char) :=
  match punctuation? c with
  | some t => some (t, rest)
  | none =>
    if c = '"' then (textUnits? rest).map fun p => (textToken p.1, p.2)
    else match scanWord? (c :: rest) with
      | some p => some p
      | none => (Numeral.scan? (c :: rest)).map fun p => (numberToken p.1, p.2)

theorem length_textUnits? {cs : List Char} {p : List TextUnit × List Char}
    (h : textUnits? cs = some p) : p.2.length < cs.length := by
  fun_induction textUnits? cs generalizing p with
  | case1 => cases h
  | case2 => cases h; simp
  | case3 a b c d rest ih =>
    obtain ⟨u, -, hu⟩ := Option.bind_eq_some_iff.1 h
    obtain ⟨q, hq, rfl⟩ := Option.map_eq_some_iff.1 hu
    have := ih hq
    simp only [consUnit, List.length_cons]
    omega
  | case4 c rest _ ih =>
    obtain ⟨u, -, hu⟩ := Option.bind_eq_some_iff.1 h
    obtain ⟨q, hq, rfl⟩ := Option.map_eq_some_iff.1 hu
    have := ih hq
    simp only [consUnit, List.length_cons]
    omega
  | case5 => cases h
  | case6 c rest _ _ _ _ ih =>
    obtain ⟨q, hq, rfl⟩ := Option.map_eq_some_iff.1 h
    have := ih hq
    simp only [consUnit, List.length_cons]
    omega

theorem length_afterWord? {word cs rest : List Char} (h : afterWord? word cs = some rest) :
    rest.length + word.length = cs.length := by
  fun_induction afterWord? word cs with
  | case1 => cases h; simp
  | case2 => cases h
  | case3 word cs w ih =>
    have := ih h
    simp only [List.length_cons]
    omega
  | case4 => cases h

theorem length_scanWord? {cs : List Char} {p : Token × List Char} (h : scanWord? cs = some p) :
    p.2.length < cs.length := by
  obtain ⟨w, hw, hp⟩ := List.exists_of_findSome?_eq_some h
  obtain ⟨rest, hrest, rfl⟩ := Option.map_eq_some_iff.1 hp
  have := length_afterWord? hrest
  simp only [words, List.mem_cons, List.not_mem_nil, or_false] at hw
  rcases hw with rfl | rfl | rfl <;> simp only [List.length_cons] at this ⊢ <;> omega

/-- A token takes at least one character. -/
theorem length_scanToken? {c : Char} {rest : List Char} {p : Token × List Char}
    (h : scanToken? c rest = some p) : p.2.length < (c :: rest).length := by
  unfold scanToken? at h
  split at h
  · cases h; simp
  · split at h
    · obtain ⟨q, hq, rfl⟩ := Option.map_eq_some_iff.1 h
      exact Nat.lt_succ_of_lt (length_textUnits? hq)
    · split at h
      · rename_i hw
        cases h
        exact length_scanWord? hw
      · obtain ⟨q, hq, rfl⟩ := Option.map_eq_some_iff.1 h
        exact Numeral.length_scan? hq

/-- The tokens of a text. -/
def tokens : List Char → List Token
  | [] => []
  | c :: rest =>
    if isSpace c then tokens rest
    else match h : scanToken? c rest with
      | none => [.garbage]
      | some p =>
        have := length_scanToken? h
        p.1 :: tokens p.2
termination_by cs => cs.length
decreasing_by
  · exact Nat.lt_succ_self _
  · exact this

end Questionnaire.Json
