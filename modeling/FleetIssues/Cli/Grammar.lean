/-! The grammar of a command line: a program with options and subcommands, each subcommand with
options of its own. -/

namespace FleetIssues.Cli

/-- How the value of an option is read. -/
inductive ValueKind where
  | text
  | path
  | int64
  deriving DecidableEq, Repr

/-- What an option does when it appears. -/
inductive OptionAction where
  /-- Takes one value; the option may appear once. -/
  | set (kind : ValueKind)
  /-- Takes one value; the option may appear any number of times. -/
  | append (kind : ValueKind)
  /-- Asks for the help text. -/
  | help
  /-- Asks for the version. -/
  | version
  deriving DecidableEq, Repr

/-- An option of a command. -/
structure OptionSpec where
  name : String
  long : String
  short : Option Char
  valueName : String
  help : String
  action : OptionAction
  required : Bool
  defaultValue : Option String
  order : Nat
  deriving DecidableEq, Repr

namespace OptionSpec

/-- Whether the option takes a value. -/
def takesValue (o : OptionSpec) : Bool :=
  match o.action with
  | .set _ | .append _ => true
  | .help | .version => false

/-- Whether the option is one of those every command is given: help and version. -/
def isBuiltIn (o : OptionSpec) : Bool :=
  match o.action with
  | .help | .version => true
  | .set _ | .append _ => false

/-- How the option is written in usage and errors: `--long <VALUE>`, or `--long` for a flag. -/
def display (o : OptionSpec) : String :=
  "--" ++ o.long ++ (if o.takesValue then " <" ++ o.valueName ++ ">" else "")

/-- The key that orders options of one display order in help. -/
def sortKey (o : OptionSpec) : String :=
  match o.short with
  | some c => String.ofList [c.toLower, if c.isLower then '0' else '1']
  | none => o.long

end OptionSpec

/-- A subcommand: its name, what it does, and its options in the order they were declared. -/
structure CommandSpec where
  name : String
  about : String
  options : List OptionSpec
  deriving DecidableEq, Repr

/-- A program: its name, version and purpose, the options its subcommands accept too, and its
subcommands. Besides these it has a help and a version option, and a `help` subcommand that
shows the help of the others. -/
structure ProgramSpec where
  name : String
  version : String
  about : String
  globals : List OptionSpec
  commands : List CommandSpec
  deriving DecidableEq, Repr

/-- The option that asks for help. -/
def helpOption : OptionSpec :=
  { name := "help", long := "help", short := some 'h', valueName := "", help := "Print help",
    action := .help, required := false, defaultValue := none, order := 999 }

/-- The option that asks for the version. -/
def versionOption : OptionSpec :=
  { name := "version", long := "version", short := some 'V', valueName := "",
    help := "Print version", action := .version, required := false, defaultValue := none,
    order := 999 }

/-- What the `help` subcommand does. -/
def helpCommandAbout : String := "Print this message or the help of the given subcommand(s)"

/-- The name of the `help` subcommand. -/
def helpCommandName : String := "help"

namespace ProgramSpec

/-- The names a subcommand may be called by, the `help` subcommand last. -/
def commandNames (p : ProgramSpec) : List String :=
  p.commands.map CommandSpec.name ++ [helpCommandName]

/-- The subcommand of a name. -/
def command? (p : ProgramSpec) (name : String) : Option CommandSpec :=
  p.commands.find? (·.name == name)

end ProgramSpec

end FleetIssues.Cli
