import Questionnaire.Text.Parts

/-!
# The files that a command can read

`Files` gives the text of each file that can be read, by its path. Such files may be read one by one
before a command runs, or belong to a `FileTree`: a file system as a value, with the names that lead
to each file from the root. There a path leads from name to name, from the root if it starts with a
slash and otherwise from the directory that the command works in. Empty names and a point stay where
they are, two points go back, and behind a file there is nothing.
-/

namespace Questionnaire.CommandLine

/-- The text of each readable file, by its path. -/
abbrev Files := String → Option String

/-- The files at some paths, each with its text if it could be read, and no others. -/
def Files.ofTexts (texts : List (String × Option String)) : Files :=
  fun path => (texts.lookup path).join

/-- The names that lead to each file, with its text, and those that lead to the directory that a
command works in. -/
structure FileTree where
  files : List (List String × String)
  workingDirectory : List String

/-- What a path has led to: a directory, given by the names that lead to it, or a file. -/
inductive Place where
  | directory (names : List String)
  | file (text : String)
  deriving DecidableEq, Repr

/-- The names in a path. -/
def pathNames (path : String) : List String :=
  (Text.parts '/' path.toList).map String.ofList

namespace FileTree

/-- What every file system holds: the null device, and a standard input that is at its end. -/
def devices : List (List String × String) := [(["dev", "null"], ""), (["dev", "stdin"], "")]

/-- The devices, and files that are given by their paths from the directory that a command works
in. -/
def within (workingDirectory : List String) (files : List (String × String)) : FileTree where
  files := devices ++ files.map fun file => (workingDirectory ++ pathNames file.1, file.2)
  workingDirectory := workingDirectory

/-- Files in a directory of their own. -/
def ofFiles (files : List (String × String)) : FileTree := within ["tmp", "work"] files

/-- The text of the file that these names lead to. -/
def lookup (t : FileTree) (names : List String) : Option String := t.files.lookup names

/-- Goes on from a place to a name. The root is its own parent. -/
def step (t : FileTree) : Place → String → Option Place
  | .file _, _ => none
  | .directory names, name =>
    if name = "" ∨ name = "." then some (.directory names)
    else if name = ".." then some (.directory names.dropLast)
    else
      let names := names ++ [name]
      match t.lookup names with
      | some text => some (.file text)
      | none =>
        if t.files.any fun file => names.isPrefixOf file.1 then some (.directory names) else none

/-- The place that a path starts from. The empty path leads nowhere. -/
def start? (t : FileTree) : List String → Option Place
  | [""] => none
  | "" :: _ => some (.directory [])
  | _ => some (.directory t.workingDirectory)

/-- The text of the file that a path leads to, if it leads to a file. -/
def read? (t : FileTree) : Files := fun path => do
  match ← (pathNames path).foldlM t.step (← t.start? (pathNames path)) with
  | .file text => some text
  | .directory _ => none

end FileTree

end Questionnaire.CommandLine
