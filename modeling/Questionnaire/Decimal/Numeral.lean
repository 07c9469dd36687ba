/-!
# Numerals

The numerals of the document format: an optional minus sign, a whole part without needless
leading zeros, an optional fraction and an optional exponent. `Numeral.scan?` splits the longest
numeral off a text and `Numeral.value?` gives its value.

A numeral without fraction and exponent is an integer while it fits 64 bits (signed if negative).
Every other numeral is a float: its digits are gathered into a 64-bit significand, digits beyond
its range only count as places, and the significand is scaled once by a power of ten.
-/

namespace Questionnaire

/-- A number of the document format. -/
inductive Number where
  | int (value : Int)
  | float (value : Float)
  deriving DecidableEq

/-- The parts of a numeral. An exponent carries whether it is negative. -/
structure Numeral where
  negative : Bool
  whole : List Char
  fraction : List Char := []
  exponent : Option (Bool × List Char) := none

/-- The decimal digits at the start of a text, and the rest. -/
def spanDigits (cs : List Char) : List Char × List Char :=
  (cs.takeWhile Char.isDigit, cs.dropWhile Char.isDigit)

/-- The value of a decimal digit. -/
def digitValue (c : Char) : Nat := c.toNat - '0'.toNat

/-- The value of a row of decimal digits. -/
def digitsValue (cs : List Char) : Nat :=
  cs.foldl (fun n c => 10 * n + digitValue c) 0

theorem length_spanDigits (cs : List Char) : (spanDigits cs).2.length ≤ cs.length :=
  List.Sublist.length_le (List.dropWhile_sublist _)

namespace Numeral

/-- Splits a sign off: whether it is a minus, and the rest. -/
def scanSign : List Char → Bool × List Char
  | '-' :: rest => (true, rest)
  | '+' :: rest => (false, rest)
  | cs => (false, cs)

/-- Splits a minus sign off. -/
def scanMinus : List Char → Bool × List Char
  | '-' :: rest => (true, rest)
  | cs => (false, cs)

/-- Splits an exponent off: sign and digits. Refuses a mark without digits. -/
def scanExponent? : List Char → Option (Option (Bool × List Char) × List Char)
  | [] => some (none, [])
  | c :: rest =>
    if c = 'e' ∨ c = 'E' then
      let sign := scanSign rest
      let span := spanDigits sign.2
      if span.1.isEmpty then none else some (some (sign.1, span.1), span.2)
    else some (none, c :: rest)

/-- Splits a fraction off. Refuses a point without digits. -/
def scanFraction? : List Char → Option (List Char × List Char)
  | '.' :: rest =>
    let span := spanDigits rest
    if span.1.isEmpty then none else some span
  | cs => some ([], cs)

/-- Splits the longest numeral off. Refuses a text that starts with none, and a numeral with a
needless leading zero, a point without digits or an exponent without digits. -/
def scan? (cs : List Char) : Option (Numeral × List Char) :=
  let sign := scanMinus cs
  let whole := spanDigits sign.2
  match whole.1 with
  | [] => none
  | '0' :: _ :: _ => none
  | _ => do
    let fraction ← scanFraction? whole.2
    let exponent ← scanExponent? fraction.2
    some (⟨sign.1, whole.1, fraction.1, exponent.1⟩, exponent.2)

/-- A significand and the power of ten that it is to be scaled by. -/
structure Scaled where
  significand : Nat
  exponent : Int

/-- Whether a significand fits 64 bits. -/
def Scaled.fits (n : Nat) : Bool := n < Nat.pow 2 64

/-- Takes digits into a significand while it fits; `point` is the change of the exponent for a
digit taken in, `beyond` that for a digit left out. -/
def Scaled.take (point beyond : Int) (s : Scaled) : List Char → Scaled
  | [] => s
  | c :: rest =>
    let next := 10 * s.significand + digitValue c
    if fits next then take point beyond ⟨next, s.exponent + point⟩ rest
    else ⟨s.significand, s.exponent + beyond * (rest.length + 1)⟩

/-- Divides by 10^n in steps of at most 308 powers, and stops at zero. -/
def scaleDown (x : Float) (n : Nat) : Float :=
  if n ≤ 308 then x / Float.ofScientific 1 false n
  else if x == 0 then x
  else scaleDown (x / 1e308) (n - 308)
termination_by n
decreasing_by omega

/-- The magnitude of a scaled significand; `none` when it is too large for a float. -/
def Scaled.magnitude? (s : Scaled) : Option Float :=
  let x := s.significand.toUInt64.toFloat
  if s.exponent < 0 then some (scaleDown x (-s.exponent).toNat)
  else if s.exponent ≤ 308 then
    let y := x * Float.ofScientific 1 false s.exponent.toNat
    if y.isInf then none else some y
  else if s.significand = 0 then some x
  else none

/-- The value of a numeral; `none` when it is out of range. -/
def value? (n : Numeral) : Option Number :=
  let whole := digitsValue n.whole
  if n.fraction.isEmpty ∧ n.exponent.isNone ∧ ¬n.negative ∧ whole < Nat.pow 2 64 then
    some (.int whole)
  else if n.fraction.isEmpty ∧ n.exponent.isNone ∧ n.negative ∧ 0 < whole ∧ whole ≤ Nat.pow 2 63 then
    some (.int (-(whole : Int)))
  else
    let s := Scaled.take 0 1 ⟨0, 0⟩ n.whole
    let s := Scaled.take (-1) 0 s n.fraction
    let shift : Int := match n.exponent with
      | none => 0
      | some (negative, digits) =>
        if negative then -(digitsValue digits : Int) else digitsValue digits
    (Scaled.magnitude? ⟨s.significand, s.exponent + shift⟩).map fun x =>
      .float (if n.negative then -x else x)

end Numeral

theorem Numeral.length_scanSign (cs : List Char) : (scanSign cs).2.length ≤ cs.length := by
  unfold scanSign
  split <;> simp

theorem Numeral.length_scanMinus (cs : List Char) : (scanMinus cs).2.length ≤ cs.length := by
  unfold scanMinus
  split <;> simp

theorem Numeral.length_scanFraction? {cs : List Char} {p : List Char × List Char}
    (h : scanFraction? cs = some p) : p.2.length ≤ cs.length := by
  unfold scanFraction? at h
  split at h
  · rename_i rest
    have := length_spanDigits rest
    simp only [Option.ite_none_left_eq_some, Option.some.injEq] at h
    rw [← h.2, List.length_cons]
    omega
  · exact Option.some.inj h ▸ Nat.le_refl _

theorem Numeral.length_scanExponent? {cs : List Char}
    {p : Option (Bool × List Char) × List Char} (h : scanExponent? cs = some p) :
    p.2.length ≤ cs.length := by
  cases cs with
  | nil => exact Option.some.inj h ▸ Nat.le_refl _
  | cons c rest =>
    have hsign := length_scanSign rest
    have hspan := length_spanDigits (scanSign rest).2
    simp only [scanExponent?] at h
    split at h
    · simp only [Option.ite_none_left_eq_some, Option.some.injEq] at h
      simp only [← h.2, List.length_cons]
      omega
    · exact Option.some.inj h ▸ Nat.le_refl _

/-- A numeral takes at least one character. -/
theorem Numeral.length_scan? {cs rest : List Char} {n : Numeral}
    (h : scan? cs = some (n, rest)) : rest.length < cs.length := by
  have hsign := length_scanMinus cs
  have hspan : (spanDigits (scanMinus cs).2).1.length + (spanDigits (scanMinus cs).2).2.length =
      (scanMinus cs).2.length := by
    rw [← List.length_append]
    exact congrArg List.length List.takeWhile_append_dropWhile
  simp only [scan?] at h
  split at h
  · cases h
  · cases h
  · rename_i hne _
    simp only [Option.bind_eq_bind, Option.bind_eq_some_iff, Option.some.injEq,
      Prod.mk.injEq] at h
    obtain ⟨f, hf, e, he, -, rfl⟩ := h
    have := length_scanFraction? hf
    have := length_scanExponent? he
    have : 0 < (spanDigits (scanMinus cs).2).1.length := List.length_pos_iff.2 hne
    omega

end Questionnaire
