import Questionnaire.Toml.Number

/-!
# Words of the settings format

Settings are written in TOML. This module recognises what a line is made of below the level of
values: blanks and comments, bare keys, quoted texts and the scalars that are not text. The
settings themselves use only texts, so of a number, a truth value or a date it is enough to know
that it is one.
-/

namespace Questionnaire.Toml

/-- A recogniser: the rest of a text after what it accepts. -/
abbrev Matcher := List Char → Option (List Char)

/-- Drops blanks within a line. -/
def skipBlanks (cs : List Char) : List Char := cs.dropWhile fun c => c = ' ' || c = '\t'

/-- Whether a character may stand in a comment or a text of one line. -/
def isVisible (c : Char) : Bool := c = '\t' || (32 ≤ c.toNat && c.toNat ≠ 127)

/-- Splits off the end of a line. -/
def newline? : Matcher
  | '\n' :: rest => some rest
  | '\r' :: '\n' :: rest => some rest
  | _ => none

/-- Drops a comment, up to the end of its line. -/
def skipComment : List Char → List Char
  | '#' :: rest => rest.dropWhile isVisible
  | cs => cs

/-- Drops the rest of a line that holds nothing more but a comment. -/
def endLine? (cs : List Char) : Option (List Char) :=
  match skipComment (skipBlanks cs) with
  | [] => some []
  | rest => newline? rest

/-- Drops blanks, comments and line ends; `fuel` bounds the number of lines. -/
def skipLines : (fuel : Nat) → List Char → List Char
  | 0, cs => cs
  | fuel + 1, cs =>
    let rest := skipComment (skipBlanks cs)
    match newline? rest with
    | some rest => skipLines fuel rest
    | none => rest

/-- Whether a character may stand in a bare key. -/
def isKeyChar (c : Char) : Bool := c.isAlphanum || c = '_' || c = '-'

/-- The code point of hexadecimal digits, if there is a character with it. -/
def hexChar? (digits : List Char) : Option Char := do
  let values ← digits.mapM Json.hexValue?
  let code := values.foldl (fun n d => 16 * n + d) 0
  if h : code.isValidChar then some (Char.ofNatAux code h) else none

/-- An escaped character after its backslash, and the rest. -/
def escape? : List Char → Option (Char × List Char)
  | 'b' :: rest => some ('\x08', rest)
  | 't' :: rest => some ('\t', rest)
  | 'n' :: rest => some ('\n', rest)
  | 'f' :: rest => some ('\x0c', rest)
  | 'r' :: rest => some ('\r', rest)
  | 'e' :: rest => some ('\x1b', rest)
  | '"' :: rest => some ('"', rest)
  | '\\' :: rest => some ('\\', rest)
  | 'x' :: a :: b :: rest => (hexChar? [a, b]).map (·, rest)
  | 'u' :: a :: b :: c :: d :: rest => (hexChar? [a, b, c, d]).map (·, rest)
  | 'U' :: a :: b :: c :: d :: e :: f :: g :: h :: rest =>
    (hexChar? [a, b, c, d, e, f, g, h]).map (·, rest)
  | _ => none

/-- The rest of a text of one line, after its opening quote; `fuel` bounds its length. -/
def basicText? : (fuel : Nat) → List Char → Option (List Char × List Char)
  | 0, _ => none
  | fuel + 1, cs => match cs with
    | '"' :: rest => some ([], rest)
    | '\\' :: rest => do
      let (c, rest) ← escape? rest
      let (more, rest) ← basicText? fuel rest
      some (c :: more, rest)
    | c :: rest =>
      if isVisible c then (basicText? fuel rest).map fun p => (c :: p.1, p.2) else none
    | [] => none

/-- The rest of a literal text of one line, after its opening apostrophe. -/
def literalText? : List Char → Option (List Char × List Char)
  | '\'' :: rest => some ([], rest)
  | c :: rest =>
    if isVisible c then (literalText? rest).map fun p => (c :: p.1, p.2) else none
  | [] => none

/-- The end of a text of several lines: three quotes, of which up to two more before belong to the
text. -/
def closing? (quote : Char) (cs : List Char) : Option (List Char × List Char) :=
  let quotes := cs.takeWhile (· = quote)
  if quotes.length < 3 then none
  else
    let inText := min (quotes.length - 3) 2
    some (quotes.take inText, cs.drop (inText + 3))

/-- Drops a line end at the start of a text of several lines. -/
def dropFirstNewline (cs : List Char) : List Char := (newline? cs).getD cs

/-- Drops blanks and line ends; `fuel` bounds the number of lines. -/
def skipBlankLines : (fuel : Nat) → List Char → List Char
  | 0, cs => cs
  | fuel + 1, cs =>
    let rest := skipBlanks cs
    match newline? rest with
    | some rest => skipBlankLines fuel rest
    | none => rest

/-- Drops the blanks and line ends after a backslash at the end of a line. -/
def continuation? (cs : List Char) : Option (List Char) :=
  (newline? (skipBlanks cs)).map fun rest => skipBlankLines rest.length rest

/-- The characters of the line end at the start of a text, as they are written. -/
def lineEnd (cs : List Char) : List Char :=
  match cs with
  | '\r' :: '\n' :: _ => ['\r', '\n']
  | '\n' :: _ => ['\n']
  | _ => []

/-- The rest of a text of several lines, after its opening quotes; `fuel` bounds its length. -/
def longText? (quote : Char) (escapes : Bool) :
    (fuel : Nat) → List Char → Option (List Char × List Char)
  | 0, _ => none
  | fuel + 1, cs =>
    match closing? quote cs with
    | some p => some p
    | none => match newline? cs with
      | some rest => (longText? quote escapes fuel rest).map fun p => (lineEnd cs ++ p.1, p.2)
      | none => match cs with
        | [] => none
        | c :: rest =>
          if escapes ∧ c = '\\' then
            match continuation? rest with
            | some rest => longText? quote escapes fuel rest
            | none => do
              let (e, rest) ← escape? rest
              let (more, rest) ← longText? quote escapes fuel rest
              some (e :: more, rest)
          else if isVisible c then
            (longText? quote escapes fuel rest).map fun p => (c :: p.1, p.2)
          else none

/-- A quoted text of any kind, and the rest. -/
def text? (cs : List Char) : Option (String × List Char) :=
  let found := match cs with
    | '"' :: '"' :: '"' :: rest => longText? '"' true cs.length (dropFirstNewline rest)
    | '\'' :: '\'' :: '\'' :: rest => longText? '\'' false cs.length (dropFirstNewline rest)
    | '"' :: rest => basicText? cs.length rest
    | '\'' :: rest => literalText? rest
    | _ => none
  found.map fun p => (String.ofList p.1, p.2)

/-- A single part of a key, and the rest. -/
def keyPart? (cs : List Char) : Option (String × List Char) :=
  match cs with
  | '"' :: rest => (basicText? cs.length rest).map fun p => (String.ofList p.1, p.2)
  | '\'' :: rest => (literalText? rest).map fun p => (String.ofList p.1, p.2)
  | _ =>
    let part := cs.takeWhile isKeyChar
    if part.isEmpty then none else some (String.ofList part, cs.drop part.length)

/-- Parts of a key, joined by points, and the rest; at most `limit` of them. -/
def keyParts? : (limit : Nat) → List Char → Option (List String × List Char)
  | 0, _ => none
  | limit + 1, cs => do
    let (part, rest) ← keyPart? (skipBlanks cs)
    match skipBlanks rest with
    | '.' :: rest => do
      let (parts, rest) ← keyParts? limit rest
      some (part :: parts, rest)
    | rest => some ([part], rest)

/-- How many parts a key may have, and how deep lists and inline tables may nest. -/
def depthLimit : Nat := 80

/-- A key, and the rest. -/
def key? (cs : List Char) : Option (List String × List Char) := keyParts? depthLimit cs

/-- A number of exactly `n` digits, and the rest. -/
def fixedDigits? (n : Nat) (cs : List Char) : Option (Nat × List Char) :=
  let digits := cs.take n
  if digits.length = n ∧ digits.all Char.isDigit then some (digitsValue digits, cs.drop n)
  else none

/-- Splits one character off. -/
def expect? (c : Char) : Matcher
  | d :: rest => if d = c then some rest else none
  | [] => none

/-- The number of days of a month. -/
def daysIn (year month : Nat) : Nat :=
  if month = 2 then
    if year % 4 = 0 ∧ (year % 100 ≠ 0 ∨ year % 400 = 0) then 29 else 28
  else if month ∈ [4, 6, 9, 11] then 30
  else 31

/-- Splits a date off. -/
def date? : Matcher := fun cs => do
  let (year, rest) ← fixedDigits? 4 cs
  let (month, rest) ← fixedDigits? 2 (← expect? '-' rest)
  let (day, rest) ← fixedDigits? 2 (← expect? '-' rest)
  if 1 ≤ month ∧ month ≤ 12 ∧ 1 ≤ day ∧ day ≤ daysIn year month then some rest else none

/-- Splits an optional fraction of a second off. -/
def secondFraction? : Matcher
  | '.' :: rest =>
    let digits := rest.takeWhile Char.isDigit
    if digits.isEmpty then none else some (rest.drop digits.length)
  | cs => some cs

/-- Splits a time of day off; the seconds may be left out. -/
def time? : Matcher := fun cs => do
  let (hour, rest) ← fixedDigits? 2 cs
  let (minute, rest) ← fixedDigits? 2 (← expect? ':' rest)
  if 24 ≤ hour ∨ 60 ≤ minute then none
  else match rest with
    | ':' :: rest => do
      let (second, rest) ← fixedDigits? 2 rest
      if 60 < second then none else secondFraction? rest
    | rest => some rest

/-- Whether a word is the offset of a time, or nothing. -/
def isOffset (cs : List Char) : Bool :=
  match cs with
  | [] => true
  | ['Z'] => true
  | ['z'] => true
  | c :: rest => (c = '+' || c = '-') &&
      match fixedDigits? 2 rest with
      | some (hour, ':' :: rest) => match fixedDigits? 2 rest with
        | some (minute, []) => hour < 24 && minute < 60
        | _ => false
      | _ => false

/-- Whether a word is a date, a time of day, or both joined, the latter with or without an
offset. -/
def isMoment (cs : List Char) : Bool :=
  match date? cs with
  | some [] => true
  | some (c :: rest) => (c = 'T' || c = 't' || c = ' ') && (time? rest).any isOffset
  | none => time? cs = some []

/-- The characters that may not stand within a part of a word. -/
def wordEnds : List Char :=
  ['=', ',', '[', ']', '\x7b', '\x7d', ' ', '\t', '#', '\r', '\n']

/-- Whether a character may stand within a part of a word. -/
def isWordChar (c : Char) : Bool := !wordEnds.contains c

/-- Whether a character may start a part of a word after blanks. -/
def startsPart (c : Char) : Bool := isWordChar c && c ≠ '.' && c ≠ '"' && c ≠ '\''

/-- The word at the start of a text. It goes on after blanks wherever a further part follows;
`fuel` bounds the number of parts. -/
def wordParts : (fuel : Nat) → List Char → List Char
  | 0, _ => []
  | fuel + 1, cs =>
    let part := cs.takeWhile isWordChar
    let rest := cs.drop part.length
    let more := skipBlanks rest
    if more.length < rest.length ∧ more.head?.any startsPart then
      part ++ rest.take (rest.length - more.length) ++ wordParts fuel more
    else part

/-- Splits the word at the start of a text off: what stands where a value does and is no text. -/
def splitWord (cs : List Char) : List Char × List Char :=
  let word := wordParts (cs.length + 1) cs
  (word, cs.drop word.length)

/-- Splits a date or time off. -/
def moment? : Matcher := fun cs =>
  let (word, rest) := splitWord cs
  if isMoment word then some rest else none

/-- Splits a number or truth value off, and says whether it has a value. -/
def scalar? (cs : List Char) : Option (Bool × List Char) :=
  let (word, rest) := splitWord cs
  if word = "true".toList ∨ word = "false".toList then some (true, rest)
  else if isNumber word then some (hasValue word, rest)
  else none

end Questionnaire.Toml
