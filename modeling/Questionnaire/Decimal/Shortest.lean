/-!
# The shortest decimal of a binary number

A positive binary number m · 2^q stands for every real that rounds to it. Its shortest decimal
is the one with the fewest digits in that interval; of two with equally many digits it is the
nearer, and of two equally near ones the even one. The interval contains its ends exactly when
m is even.

`Decimal.text` lays the digits out: positionally while the point lies less than five places
before and at most sixteen places after the first digit, with at least one digit on both sides
of the point, and with an exponent otherwise, which always has a sign.
-/

namespace Questionnaire

/-- The number `mantissa · 2 ^ exponent`; `narrow` says that the gap below it is half as wide as
the gap above it. -/
structure Binary where
  mantissa : Nat
  exponent : Int
  narrow : Bool

/-- The number `digits · 10 ^ exponent`. -/
structure Decimal where
  digits : Nat
  exponent : Int
  deriving DecidableEq, Repr

namespace Binary

/-- The magnitude of a finite float. -/
def ofBits (bits : UInt64) : Binary :=
  let fraction := bits.toNat % Nat.pow 2 52
  let field := bits.toNat / Nat.pow 2 52 % 2048
  if field = 0 then ⟨fraction, -1074, false⟩
  else ⟨Nat.pow 2 52 + fraction, Int.ofNat field - 1075, fraction = 0 && 1 < field⟩

/-- The quarter of the last place, as a fraction: half-way points are whole multiples of it. -/
def quarter (b : Binary) : Nat × Nat :=
  if 2 ≤ b.exponent then (Nat.pow 2 (b.exponent - 2).toNat, 1)
  else (1, Nat.pow 2 (2 - b.exponent).toNat)

/-- The exponent of the leading decimal digit of the positive fraction `num / den`. -/
def leading (num den : Nat) : Int :=
  if den ≤ num then ((Nat.toDigits 10 (num / den)).length : Int) - 1
  else -((Nat.toDigits 10 ((den + num - 1) / num - 1)).length : Int)

/-- The point of the grid of multiples of 10^k that reads back as `b`, if there is one: the
nearer one of the two neighbours of `b` on the grid. -/
def onGrid? (b : Binary) (k : Int) : Option Decimal :=
  let (unitNum, unitDen) := b.quarter
  -- The unit of comparison makes both the grid and the quarters whole.
  let grid := Nat.pow 10 k.toNat * unitDen
  let place := unitNum * Nat.pow 10 (-k).toNat
  let value := 4 * b.mantissa * place
  let low := (4 * b.mantissa - (if b.narrow then 1 else 2)) * place
  let high := (4 * b.mantissa + 2) * place
  let readsBack (d : Nat) : Bool :=
    if b.mantissa % 2 = 0 then low ≤ d * grid && d * grid ≤ high
    else low < d * grid && d * grid < high
  let below := value / grid
  let above := below + 1
  match readsBack below && 0 < below, readsBack above with
  | true, true =>
    let distance := compare (value - below * grid) (above * grid - value)
    if distance == .lt || (distance == .eq && below % 2 == 0) then some ⟨below, k⟩
    else some ⟨above, k⟩
  | true, false => some ⟨below, k⟩
  | false, true => some ⟨above, k⟩
  | false, false => none

/-- The shortest decimal of a positive binary number. Seventeen digits always suffice. -/
def shortest (b : Binary) : Decimal :=
  let (unitNum, unitDen) := b.quarter
  let top := leading (4 * b.mantissa * unitNum) unitDen
  let grids := (List.range 17).map fun n => top - Int.ofNat n
  (grids.findSome? b.onGrid?).getD ⟨0, 0⟩

end Binary

namespace Decimal

/-- The same number without trailing zeros in its digits; `fuel` bounds their count. -/
def trim (d : Decimal) : (fuel : Nat) → Decimal
  | 0 => d
  | fuel + 1 =>
    if d.digits ≠ 0 ∧ d.digits % 10 = 0 then trim ⟨d.digits / 10, d.exponent + 1⟩ fuel else d

/-- The text of a positive decimal without trailing zeros. -/
def text (d : Decimal) : String :=
  let digits := Nat.toDigits 10 d.digits
  let point : Int := digits.length + d.exponent
  let zeros (n : Int) : List Char := List.replicate n.toNat '0'
  let mark := 'e' :: (if 0 < point then '+' else '-') :: Nat.toDigits 10 (point - 1).natAbs
  String.ofList <|
    if 0 ≤ d.exponent ∧ point ≤ 16 then digits ++ zeros d.exponent ++ ['.', '0']
    else if 0 < point ∧ point ≤ 16 then digits.take point.toNat ++ '.' :: digits.drop point.toNat
    else if -5 < point ∧ point ≤ 0 then '0' :: '.' :: (zeros (-point) ++ digits)
    else match digits with
      | first :: second :: rest => first :: '.' :: second :: rest ++ mark
      | single => single ++ mark

end Decimal

/-- The text of a finite float: sign, then the shortest decimal. -/
def floatText (x : Float) : String :=
  let bits := x.toBits
  let sign := if bits.toNat / Nat.pow 2 63 = 1 then "-" else ""
  let magnitude := Binary.ofBits bits
  if magnitude.mantissa = 0 then sign ++ "0.0"
  else sign ++ (magnitude.shortest.trim 20).text

example : floatText 0.1 = "0.1" := by decide +kernel
example : floatText 100 = "100.0" := by decide +kernel
example : floatText 1e16 = "1e+16" := by decide +kernel
example : floatText 123456789012345680 = "1.2345678901234568e+17" := by decide +kernel
example : floatText 1.5e-7 = "1.5e-7" := by decide +kernel
example : floatText 0.00001 = "0.00001" := by decide +kernel
example : floatText (-2.98023223876953125e-8) = "-2.9802322387695312e-8" := by decide +kernel
example : floatText (Float.ofBits 1) = "5e-324" := by decide +kernel

end Questionnaire
