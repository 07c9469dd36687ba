/-!
# Command-line arguments

The program takes a command and options, of which some carry a value, given as the next argument
or after an equals sign. `parse` takes arguments to the `Request` they make, or refuses them.
-/

namespace Questionnaire.CommandLine

/-- What the program is asked to do. -/
inductive Command where
  | visibility (json : Bool)
  | next (current : String) (raw json : Bool)
  | walk (json : Bool)
  | lint (json strict : Bool)
  deriving DecidableEq, Repr

/-- A command and the files that it works on. -/
structure Invocation where
  config : Option String
  survey : String
  responses : Option String
  command : Command
  deriving DecidableEq, Repr

/-- What the arguments make. -/
inductive Request where
  | version
  | run (i : Invocation)
  deriving DecidableEq, Repr

/-- Options by name, each with its value if it carries one. -/
abbrev Given := List (String × Option String)

/-- The options of a command: those that carry a value and those that do not. -/
structure Accepted where
  valued : List String
  flags : List String

/-- The options that name a file, whose value must not be empty. -/
def pathOptions : List String := ["config", "survey", "responses"]

/-- The name of an option, and its value if it stands after an equals sign. -/
def option? (arg : String) : Option (String × Option String) :=
  match arg.toList with
  | '-' :: '-' :: rest =>
    let name := rest.takeWhile (· ≠ '=')
    let value := match rest.drop name.length with
      | _ :: value => some (String.ofList value)
      | [] => none
    some (String.ofList name, value)
  | _ => none

/-- Whether an argument may be the value of the option before it. -/
def isValue (arg : String) : Bool :=
  match arg.toList with
  | ['-'] => true
  | '-' :: _ => false
  | _ => true

/-- Adds an option that carries a value, unless it was given before or its file has no name. -/
def Given.add (given : Given) (name value : String) : Option Given :=
  if (given.lookup name).isSome || (pathOptions.contains name && value = "") then none
  else some ((name, some value) :: given)

/-- Reads the options of a command. Nothing else may follow, not even after `--`. -/
def Accepted.read (accepted : Accepted) (given : Given) : List String → Option Given
  | [] => some given
  | arg :: rest =>
    if arg = "--" then if rest.isEmpty then some given else none
    else match option? arg with
      | none => none
      | some (name, inline) =>
        if accepted.valued.contains name then
          match inline with
          | some value => (given.add name value).bind fun given => accepted.read given rest
          | none => match rest with
            | value :: rest =>
              if isValue value then
                (given.add name value).bind fun given => accepted.read given rest
              else none
            | [] => none
        else if accepted.flags.contains name && inline.isNone && (given.lookup name).isNone then
          accepted.read ((name, none) :: given) rest
        else none

namespace Given

/-- The value of an option. -/
def value? (given : Given) (name : String) : Option String := (given.lookup name).join

/-- Whether an option was given. -/
def has (given : Given) (name : String) : Bool := (given.lookup name).isSome

/-- The invocation that options make for a command; `config` was given before the command. -/
def invocation? (given : Given) (config : Option String) (command : Given → Option Command) :
    Option Request := do
  let survey ← given.value? "survey"
  let command ← command given
  some (.run ⟨given.value? "config" <|> config, survey, given.value? "responses", command⟩)

end Given

/-- The options and the meaning of a command. -/
structure CommandForm where
  accepted : Accepted
  command : Given → Option Command

/-- The commands by name. -/
def commands : List (String × CommandForm) :=
  [("visibility",
      ⟨⟨["config", "survey", "responses"], ["json"]⟩,
        fun g => some (.visibility (g.has "json"))⟩),
    ("next",
      ⟨⟨["config", "survey", "responses", "current"], ["raw", "json"]⟩,
        fun g => (g.value? "current").map fun c => .next c (g.has "raw") (g.has "json")⟩),
    ("walk",
      ⟨⟨["config", "survey", "responses"], ["json"]⟩, fun g => some (.walk (g.has "json"))⟩),
    ("lint",
      ⟨⟨["config", "survey"], ["json", "strict"]⟩,
        fun g => some (.lint (g.has "json") (g.has "strict"))⟩)]

/-- Whether an argument asks for the version in its short form. -/
def isShortVersion (arg : String) : Bool :=
  match arg.toList with
  | '-' :: 'V' :: _ => true
  | _ => false

/-- Reads the arguments up to the command, and the command with the rest. -/
def parseFrom (config : Option String) : List String → Option Request
  | [] => none
  | arg :: rest =>
    if arg = "--version" || isShortVersion arg then some .version
    else match commands.lookup arg with
      | some form =>
        (form.accepted.read [] rest).bind fun given => given.invocation? config form.command
      | none => match option? arg with
        | some ("config", some value) =>
          if config.isSome || value = "" then none else parseFrom (some value) rest
        | some ("config", none) => match rest with
          | value :: rest =>
            if config.isSome || value = "" || !isValue value then none
            else parseFrom (some value) rest
          | [] => none
        | _ => none

/-- What the arguments ask for; `none` when they make no sense. -/
def parse (args : List String) : Option Request := parseFrom none args

end Questionnaire.CommandLine
