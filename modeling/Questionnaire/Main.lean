import Questionnaire.CommandLine.Run

/-!
# The program

Reads the files that the arguments name, runs the command on them, writes what it says and ends
with its exit code.
-/

namespace Questionnaire

/-- The text of a file, if it can be read. -/
def readText (name : String) : IO (Option String) := do
  try
    return some (← IO.FS.readFile name)
  catch _ => return none

/-- Reads files, each beside its name. -/
def readTexts (names : List String) : IO (List (String × Option String)) :=
  names.mapM fun name => do return (name, ← readText name)

end Questionnaire

open Questionnaire CommandLine in
/-- Runs the program. -/
def main (args : List String) : IO UInt32 := do
  let texts ← readTexts (fileNames args)
  let ending := run args (Files.ofTexts texts)
  IO.print ending.output
  match ending with
  | .failed _ failure => IO.eprintln ("Error: " ++ failure.message)
  | .misused => IO.eprintln "error: the arguments make no sense"
  | .done _ => pure ()
  return ending.code.toUInt32
