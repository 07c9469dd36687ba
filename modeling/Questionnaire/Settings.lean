import Questionnaire.Options
import Questionnaire.Text.Parts
import Questionnaire.Toml.Document

/-!
# Settings

A settings document may choose evaluation options in the table `engine` and the filter of log
messages in the table `log`. Anything else is refused, except further entries of `engine`, whose
numbers must have values. Where a list stands for a table, only its first item is used.
-/

namespace Questionnaire

/-- The settings of the program. -/
structure Settings where
  options : Options := {}
  filter : Option String := none
  deriving DecidableEq

namespace Settings

open Toml (Value Table)

/-- Whether a value may stand beside the name of a policy. -/
def isNothing : Value → Bool
  | .list items => items.isEmpty
  | .table _ entries => entries.isEmpty
  | _ => false

/-- The policy of a value: its name, alone or with nothing beside it. -/
def policy? : Value → Option ColumnPolicy
  | .text s => ColumnPolicy.names.lookup s
  | .table _ [(name, v)] => if isNothing v then ColumnPolicy.names.lookup name else none
  | _ => none

/-- The options of a table. Its other entries count for nothing, but must be sound. -/
def optionsOfTable? (t : Table) : Option Options :=
  if t.all fun e => e.1 = "unscoped_columns" || e.2.isSound then
    match t.lookup "unscoped_columns" with
    | none => some {}
    | some v => (policy? v).map fun p => { unscopedColumns := p }
  else none

/-- The options of a list, which gives the policy first. -/
def optionsOfList? : List Value → Option Options
  | [] => some {}
  | v :: _ => (policy? v).map fun p => { unscopedColumns := p }

/-- The tables of an array as values. -/
def tableValues (done : List Table) (last : Table) : List Value :=
  (done ++ [last]).map (.table .header)

/-- The options of a value. A date or time is a table of parts of which none is an option. -/
def options? : Value → Option Options
  | .table _ t => optionsOfTable? t
  | .moment => some {}
  | .list items => optionsOfList? items
  | .tables done last => optionsOfList? (tableValues done last)
  | _ => none

/-- The log filter of a table, which may hold nothing else. -/
def filterOfTable? (t : Table) : Option (Option String) :=
  match t with
  | [] => some none
  | [("filter", .text s)] => some (some s)
  | _ => none

/-- The log filter of a value. -/
def filter? : Value → Option (Option String)
  | .table _ t => filterOfTable? t
  | .list [] => some none
  | .list (.text s :: _) => some (some s)
  | _ => none

/-- Takes an entry of the document into the settings. -/
def add (s : Settings) (name : String) (v : Value) : Option Settings :=
  if name = "engine" then (options? v).map fun o => { s with options := o }
  else if name = "log" then (filter? v).map fun f => { s with filter := f }
  else none

/-- Takes entries of the document into the settings, one after another. -/
def addAll (s : Settings) : Table → Option Settings
  | [] => some s
  | (name, v) :: rest => (s.add name v).bind fun s => s.addAll rest

/-- The settings of a document. -/
def parse? (document : String) : Option Settings :=
  (Table.parse? document).bind fun t => addAll {} t

end Settings

/-- The levels of log messages, by name and by number. -/
def logLevels : List String :=
  ["trace", "debug", "info", "warn", "error", "off", "0", "1", "2", "3", "4", "5"]

/-- Whether a text names a level of log messages, in letters of either case. -/
def isLogLevel (cs : List Char) : Bool :=
  logLevels.contains (String.ofList (cs.map Char.toLower))

/-- Whether a text may name a part of the program. -/
def isLogTarget (cs : List Char) : Bool :=
  !cs.isEmpty && cs.all fun c => c.isAlphanum || c = '_' || c = ':' || c = '-'

/-- Whether a directive of a log filter is valid: a level, a part of the program, or both joined by
an equals sign. -/
def isLogDirective (cs : List Char) : Bool :=
  match Text.splitFirst (· = '=') cs with
  | (word, none) => isLogTarget word
  | (word, some level) => isLogTarget word && (level.isEmpty || isLogLevel level)

/-- Whether a log filter is valid: directives between commas, of which some may be empty. -/
def isLogFilter (filter : String) : Bool :=
  (Text.parts ',' filter.toList).all fun d => d.isEmpty || isLogDirective d

end Questionnaire
