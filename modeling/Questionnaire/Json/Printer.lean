import Questionnaire.Decimal.Shortest
import Questionnaire.Json.Basic

/-!
# Writing document values

`Json.compact` writes a value on one line without blanks, `Json.pretty` writes one member or item
per line with two blanks for each level. Both quote texts alike: the two quoting characters and
the control characters are escaped and everything else stands for itself.
-/

namespace Questionnaire.Json

/-- A hexadecimal digit, in lower case. -/
def hexDigit (n : Nat) : Char := (Nat.toDigits 16 n).headD '0'

/-- A character within quotes. -/
def quoteChar (c : Char) : List Char :=
  if c = '"' then ['\\', '"']
  else if c = '\\' then ['\\', '\\']
  else if c = '\n' then ['\\', 'n']
  else if c = '\r' then ['\\', 'r']
  else if c = '\t' then ['\\', 't']
  else if c = '\x08' then ['\\', 'b']
  else if c = '\x0c' then ['\\', 'f']
  else if c.toNat < 32 then
    ['\\', 'u', '0', '0', hexDigit (c.toNat / 16), hexDigit (c.toNat % 16)]
  else [c]

/-- A text in quotes. -/
def quote (s : String) : String :=
  String.ofList ('"' :: s.toList.flatMap quoteChar ++ ['"'])

/-- The text of a number. -/
def numberText : Number → String
  | .int n => toString n
  | .float x => floatText x

mutual

/-- The value on one line without blanks. -/
def compact : Json → String
  | .null => "null"
  | .bool b => if b then "true" else "false"
  | .number n => numberText n
  | .text s => quote s
  | .list items => "[" ++ ",".intercalate (compactItems items) ++ "]"
  | .object members => "\x7b" ++ ",".intercalate (compactMembers members) ++ "\x7d"

/-- The items of a list, each on one line. -/
def compactItems : List Json → List String
  | [] => []
  | j :: rest => compact j :: compactItems rest

/-- The members of an object, each on one line. -/
def compactMembers : List (String × Json) → List String
  | [] => []
  | (name, j) :: rest => (quote name ++ ":" ++ compact j) :: compactMembers rest

end

/-- The blanks at the start of a line `level` levels deep. -/
def indent (level : Nat) : String := String.ofList (List.replicate (2 * level) ' ')

/-- Lines between brackets, one level deeper than the brackets. -/
def block (opening closing : String) (level : Nat) : List String → String
  | [] => opening ++ closing
  | lines =>
    let separator := ",\n" ++ indent (level + 1)
    opening ++ "\n" ++ indent (level + 1) ++ separator.intercalate lines ++ "\n" ++
      indent level ++ closing

mutual

/-- The value over several lines; `level` is the depth of the line it starts on. -/
def prettyAt (level : Nat) : Json → String
  | .list items => block "[" "]" level (prettyItems (level + 1) items)
  | .object members => block "\x7b" "\x7d" level (prettyMembers (level + 1) members)
  | j => compact j

/-- The items of a list. -/
def prettyItems (level : Nat) : List Json → List String
  | [] => []
  | j :: rest => prettyAt level j :: prettyItems level rest

/-- The members of an object. -/
def prettyMembers (level : Nat) : List (String × Json) → List String
  | [] => []
  | (name, j) :: rest => (quote name ++ ": " ++ prettyAt level j) :: prettyMembers level rest

end

/-- The value over several lines. -/
def pretty (j : Json) : String := prettyAt 0 j

end Questionnaire.Json
