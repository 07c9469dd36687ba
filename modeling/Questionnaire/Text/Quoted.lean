import Questionnaire.Text.Printable

/-!
# Quoted text in messages

A message shows a text between double quotes. The quote and the backslash are escaped by a
backslash, a few controls by a letter, and every other character that cannot be shown by itself by
its code point in braces.
-/

namespace Questionnaire.Text

/-- A character between quotes. -/
def showChar (c : Char) : List Char :=
  if c = '\x00' then ['\\', '0']
  else if c = '\t' then ['\\', 't']
  else if c = '\r' then ['\\', 'r']
  else if c = '\n' then ['\\', 'n']
  else if c = '"' then ['\\', '"']
  else if c = '\\' then ['\\', '\\']
  else if isPrintable c then [c]
  else ['\\', 'u', '\x7b'] ++ Nat.toDigits 16 c.toNat ++ ['\x7d']

/-- A text between quotes. -/
def shown (s : String) : String :=
  String.ofList ('"' :: s.toList.flatMap showChar ++ ['"'])

example : shown "say \"hi\"\u200b" = "\"say \\\"hi\\\"\\u\x7b200b\x7d\"" := by decide +kernel

end Questionnaire.Text
