import Questionnaire.Answer.Format
import Questionnaire.CommandLine.Arguments
import Questionnaire.CommandLine.FileTree
import Questionnaire.CommandLine.Report
import Questionnaire.Settings
import Questionnaire.Survey.Format

/-!
# Running a command

`run` takes arguments and the contents of files to what the program writes and how it ends. The
order of work decides which of several failures is reported: settings, log filter, survey,
answers, and the command last.
-/

namespace Questionnaire.CommandLine

/-- Why a command fails. -/
inductive Failure where
  | configUnreadable (path : String)
  | configInvalid (path : String)
  | filterInvalid (filter : String)
  | surveyNotLoaded (path : String)
  | responsesNotLoaded (path : String)
  | unknownCurrent (text : String)
  | currentOutOfRange (index count : Nat)
  | findings (count : Nat)
  deriving DecidableEq, Repr

/-- The wording of a failure. -/
def Failure.message : Failure → String
  | configUnreadable path => "failed to read config " ++ path
  | configInvalid path => "invalid config " ++ path
  | filterInvalid filter => "invalid [log] filter '" ++ filter ++ "'"
  | surveyNotLoaded path => "failed to load survey " ++ path
  | responsesNotLoaded path => "failed to load responses " ++ path
  | unknownCurrent text => "'" ++ text ++ "' is neither a question id nor an index"
  | currentOutOfRange index count =>
    "question index " ++ toString index ++ " is out of range (survey has " ++ toString count ++
      " questions)"
  | findings count =>
    "survey-lint: " ++ toString count ++ " finding(s) at warning or above (--strict)"

/-- What the program writes, and why it fails if it does. -/
structure Outcome where
  output : String
  failure : Option Failure := none
  deriving DecidableEq, Repr

/-- The settings file that is used when none is named. -/
def defaultConfig : String := "survey-rules.toml"

/-- The settings of a file that can be read. -/
def settingsOf (path document : String) : Except Failure Settings :=
  match Settings.parse? document with
  | some s => .ok s
  | none => .error (.configInvalid path)

/-- The settings in force: those of the named file, or of the default file if there is one. -/
def settings (files : Files) : Option String → Except Failure Settings
  | some path => match files path with
    | some document => settingsOf path document
    | none => .error (.configUnreadable path)
  | none => match files defaultConfig with
    | some document => settingsOf defaultConfig document
    | none => .ok {}

/-- The document of a file, read. -/
def load {α : Type} (files : Files) (r : Reader α) (failure : Failure) (path : String) :
    Except Failure α :=
  match files path with
  | none => .error failure
  | some document => match Reader.ofText r document with
    | .ok a => .ok a
    | .error _ => .error failure

/-- The answers in a file; no file is no answers. -/
def loadAnswers (files : Files) : Option String → Except Failure Snapshot
  | none => .ok .empty
  | some path => load files Snapshot.read (.responsesNotLoaded path) path

/-- The position that a text gives in decimal digits, with or without a plus sign. -/
def position? (text : String) : Option Nat :=
  let digits := match text.toList with
    | '+' :: rest => rest
    | cs => cs
  if digits.isEmpty || !digits.all Char.isDigit then none
  else
    let n := digitsValue digits
    if n < UInt64.size then some n else none

/-- The question that a text names: by its id first, and otherwise by its position. -/
def current (s : Survey) (text : String) : Except Failure Nat :=
  match questionIndex? text s.questions with
  | some index => .ok index
  | none => match position? text with
    | none => .error (.unknownCurrent text)
    | some index =>
      if index < s.questions.length then .ok index
      else .error (.currentOutOfRange index s.questions.length)

/-- A value over several lines, with the end of the last. -/
def jsonText (j : Json) : String := j.pretty ++ "\n"

/-- The findings of a survey; with `strict`, warnings and errors are a failure. -/
def lintOutcome (s : Survey) (json strict : Bool) : Outcome :=
  let failing := (s.lint.filter fun f => Lint.Severity.warning.rank ≤ f.severity.rank).length
  { output := if json then jsonText (findingsJson s.lint) else findingsText s.lint
    failure := if strict && Lint.hasFindingsAt s.lint .warning then some (.findings failing)
      else none }

/-- Carries out a command on a survey and the answers to it. -/
def Command.run (c : Command) (s : Survey) (answers : Snapshot) (options : Options) :
    Except Failure Outcome :=
  match c with
  | .visibility json =>
    let report := VisibilityReport.of s answers options
    .ok { output := if json then jsonText report.toJson else report.text }
  | .next text raw json =>
    (current s text).map fun index =>
      let report := NextReport.of s answers options index raw
      { output := if json then jsonText report.toJson else report.text s }
  | .walk json =>
    let path := s.walk answers options
    .ok { output := if json then jsonText (pathJson s path) else pathText s path }
  | .lint json strict => .ok (lintOutcome s json strict)

/-- Carries out an invocation. -/
def Invocation.run (i : Invocation) (files : Files) : Except Failure Outcome := do
  let settings ← settings files i.config
  match settings.filter with
  | some filter => if isLogFilter filter then pure () else throw (.filterInvalid filter)
  | none => pure ()
  let survey ← load files Survey.read (.surveyNotLoaded i.survey) i.survey
  let answers ← loadAnswers files i.responses
  i.command.run survey answers settings.options

/-- How the program ends: as asked, refused because the arguments make no sense, or after a
failure. -/
inductive Ending where
  | done (output : String)
  | misused
  | failed (output : String) (failure : Failure)
  deriving DecidableEq, Repr

/-- The exit code of an ending. -/
def Ending.code : Ending → Nat
  | done _ => 0
  | misused => 2
  | failed _ _ => 1

/-- What the program writes before it ends. -/
def Ending.output : Ending → String
  | done output => output
  | misused => ""
  | failed output _ => output

/-- The ending of an outcome. -/
def Outcome.ending (o : Outcome) : Ending :=
  match o.failure with
  | none => .done o.output
  | some f => .failed o.output f

/-- The name and version of the program. -/
def versionText : String := "survey-rules 0.3.0\n"

/-- Runs the program on arguments and files. -/
def run (args : List String) (files : Files) : Ending :=
  match parse args with
  | none => .misused
  | some .version => .done versionText
  | some (.run i) => match i.run files with
    | .ok outcome => outcome.ending
    | .error f => .failed "" f

/-- The names of the files that the arguments may need. -/
def fileNames (args : List String) : List String :=
  match parse args with
  | some (.run i) => i.config.getD defaultConfig :: i.survey :: i.responses.toList
  | _ => []

end Questionnaire.CommandLine
