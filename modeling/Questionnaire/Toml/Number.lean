import Questionnaire.Json.Token
import Questionnaire.Text.Parts

/-!
# Numbers of settings

How numbers are written in settings, and which of them have a value. The two are apart because a
word may read as a number and still have no value: it may be out of range, lack digits after the
mark of its base, or hold stray characters between its digits. Such a number is refused only where
it is used.
-/

namespace Questionnaire.Toml

/-- Whether digits are well formed: none missing beside an underscore. -/
def digitsOk (isDigit : Char → Bool) : List Char → Bool
  | [] => false
  | [c] => isDigit c
  | c :: '_' :: rest => isDigit c && digitsOk isDigit rest
  | c :: rest => isDigit c && digitsOk isDigit rest

/-- Drops a sign. -/
def unsigned : List Char → List Char
  | '+' :: rest => rest
  | '-' :: rest => rest
  | cs => cs

/-- The value of digits to a base, with or without underscores. -/
def valueOf (base : Nat) (cs : List Char) : Nat :=
  (cs.filter (· ≠ '_')).foldl (fun n c => base * n + (Json.hexValue? c).getD 0) 0

/-- The value of a decimal integer that may have a sign. -/
def signedValue : List Char → Int
  | '-' :: rest => -(valueOf 10 rest : Int)
  | cs => valueOf 10 (unsigned cs)

/-! ## Integers -/

/-- The base of an integer that starts with the mark of one, and its digits. -/
def based? : List Char → Option (Nat × List Char)
  | '0' :: 'x' :: digits => some (16, digits)
  | '0' :: 'o' :: digits => some (8, digits)
  | '0' :: 'b' :: digits => some (2, digits)
  | _ => none

/-- Whether a character is a digit to a base. -/
def isDigitTo (base : Nat) (c : Char) : Bool := (Json.hexValue? c).any (· < base)

/-- Whether a word is a decimal integer without needless leading zeros. -/
def isDecimal (cs : List Char) : Bool :=
  let digits := unsigned cs
  digits = ['0'] || (digitsOk Char.isDigit digits && digits.head? ≠ some '0')

/-- Whether the parts between underscores start with digits and, but for the last, end with them.
Digits to any base count. -/
def partsOk : List (List Char) → Bool
  | [] => true
  | [part] => part.head?.any (isDigitTo 16)
  | part :: rest =>
    part.head?.any (isDigitTo 16) && part.getLast?.any (isDigitTo 16) && partsOk rest

/-- Whether a word reads as an integer divided by underscores. Within its parts anything may stand
but a space and what belongs to a float. -/
def isDivided (cs : List Char) : Bool :=
  let digits := unsigned cs
  let lead := digits.takeWhile Char.isDigit
  match digits.drop lead.length with
  | '_' :: rest =>
    !lead.isEmpty && lead.head? ≠ some '0' && partsOk (Text.parts '_' rest) &&
      !rest.any fun c => c = ' ' || c = '.' || c = 'e' || c = 'E'
  | _ => false

/-- Whether an integer fits 128 bits, signed if it is negative. -/
def fitsInteger (n : Int) : Bool := -(Int.pow 2 127) ≤ n && n < Int.pow 2 128

/-! ## Floats -/

/-- The digits of a float: before the point, after it, and of the exponent. -/
structure FloatParts where
  whole : List Char
  fraction : Option (List Char)
  exponent : Option (List Char)

/-- Whether a word names a float that has no digits. -/
def isNamedFloat (cs : List Char) : Bool :=
  unsigned cs = "inf".toList || unsigned cs = "nan".toList

/-- The least number that is too large for a float: half-way from the largest float to the first
power of two beyond it. -/
def floatBound : Nat := Nat.pow 2 1024 - Nat.pow 2 970

/-- Whether `n · 10 ^ e` is not too large for a float. The bound has 309 places before the point,
so only numbers with as many are worked out. -/
def fitsFloat (n : Nat) (e : Int) : Bool :=
  let places := (Nat.toDigits 10 n).length + e
  n = 0 || places < 309 ||
    (places = 309 && n * Nat.pow 10 e.toNat < floatBound * Nat.pow 10 (-e).toNat)

namespace FloatParts

/-- The parts of a word. -/
def ofWord (cs : List Char) : FloatParts :=
  let (mantissa, exponent) := Text.splitFirst (fun c => c = 'e' || c = 'E') cs
  let (whole, fraction) := Text.splitFirst (· = '.') mantissa
  ⟨whole, fraction, exponent⟩

/-- Whether the parts make a float: there is a fraction or an exponent, and no digit is missing. -/
def isFloat (p : FloatParts) : Bool :=
  (p.fraction.isSome || p.exponent.isSome) && isDecimal p.whole &&
    p.fraction.all (digitsOk Char.isDigit) &&
    p.exponent.all fun e => digitsOk Char.isDigit (unsigned e)

/-- Whether the float is not too large. -/
def fits (p : FloatParts) : Bool :=
  let places := (p.fraction.getD []).filter (· ≠ '_')
  fitsFloat (valueOf 10 (unsigned p.whole ++ places))
    (signedValue (p.exponent.getD []) - places.length)

end FloatParts

/-! ## Numbers -/

/-- Whether a word reads as a number. -/
def isNumber (cs : List Char) : Bool :=
  match based? cs with
  | some (base, digits) => digits.isEmpty || digitsOk (isDigitTo base) digits
  | none => isDecimal cs || isDivided cs || isNamedFloat cs || (FloatParts.ofWord cs).isFloat

/-- Whether a word that reads as a number has a value. -/
def hasValue (cs : List Char) : Bool :=
  match based? cs with
  | some (base, digits) => !digits.isEmpty && fitsInteger (valueOf base digits)
  | none =>
    if isDecimal cs then fitsInteger (signedValue cs)
    else isNamedFloat cs ||
      ((FloatParts.ofWord cs).isFloat && (FloatParts.ofWord cs).fits)

example : hasValue "340282366920938463463374607431768211455".toList = true ∧
    hasValue "340282366920938463463374607431768211456".toList = false := by
  decide +kernel

example : hasValue "1.7976931348623158e308".toList = true ∧
    hasValue "1.7976931348623159e308".toList = false := by
  decide +kernel

/-- Numbers without a value: no digits after a mark, and a stray letter. -/
example : isNumber "0x".toList = true ∧ hasValue "0x".toList = false ∧
    isNumber "1_a".toList = true ∧ hasValue "1_a".toList = false ∧
    isNumber "1_y".toList = false := by
  decide +kernel

end Questionnaire.Toml
