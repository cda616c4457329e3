import FleetIssues.Cli.Grammar
/-! Levels of a command line and the texts drawn from them: usage lines, help and version. -/

namespace FleetIssues.Cli

/-- One level of a command line: how usage names it, what it does, the options it accepts in
the order they were declared, and its subcommands with what they do (none for a subcommand). -/
structure Level where
  usageName : String
  about : String
  options : List OptionSpec
  commands : List (String × String)
  deriving DecidableEq, Repr

namespace ProgramSpec

/-- The level of the program itself. -/
def topLevel (p : ProgramSpec) : Level :=
  { usageName := p.name, about := p.about, options := p.globals ++ [helpOption, versionOption],
    commands := p.commands.map (fun c => (c.name, c.about)) ++ [(helpCommandName, helpCommandAbout)] }

/-- The level of a subcommand. -/
def commandLevel (p : ProgramSpec) (c : CommandSpec) : Level :=
  { usageName := p.name ++ " " ++ c.name, about := c.about,
    options := c.options ++ p.globals ++ [helpOption], commands := [] }

/-- The version text. -/
def versionText (p : ProgramSpec) : String := p.name ++ " " ++ p.version ++ "\n"

end ProgramSpec

/-- A run of spaces. -/
def spaces (n : Nat) : String := String.ofList (List.replicate n ' ')

/-- Keeps the first of each repeated name. -/
def dedupNames (names : List String) : List String :=
  names.foldl (fun kept n => if kept.contains n then kept else kept ++ [n]) []

namespace Level

/-- The option of a long name. -/
def findLong (l : Level) (long : String) : Option OptionSpec :=
  l.options.find? (·.long == long)

/-- The option of a short name. -/
def findShort (l : Level) (c : Char) : Option OptionSpec :=
  l.options.find? (·.short == some c)

/-- The option of an identifier. -/
def findName (l : Level) (name : String) : Option OptionSpec :=
  l.options.find? (·.name == name)

/-- The long names of the level's options, in declaration order. -/
def longs (l : Level) : List String := l.options.map OptionSpec.long

/-- The names of the required options, in declaration order. -/
def requiredNames (l : Level) : List String :=
  (l.options.filter OptionSpec.required).map OptionSpec.name

/-- Whether the level has subcommands. -/
def hasCommands (l : Level) : Bool := !l.commands.isEmpty

/-- Whether usage shows `[OPTIONS]`: some option is neither built in nor required. -/
def needsOptionsTag (l : Level) : Bool :=
  l.options.any fun o => !o.isBuiltIn && !o.required

/-- The options of identifiers, written as in usage, each after a space. -/
def writeOptions (l : Level) (names : List String) : String :=
  String.join (names.filterMap fun n => (l.findName n).map fun o => " " ++ o.display)

/-- `<COMMAND>` after a space, for a level with subcommands. -/
def commandTag (l : Level) : String := if l.hasCommands then " <COMMAND>" else ""

/-- The full usage of the level. -/
def fullUsage (l : Level) : String :=
  l.usageName ++ (if l.needsOptionsTag then " [OPTIONS]" else "") ++
    l.writeOptions l.requiredNames ++ l.commandTag

/-- The short usage of the level once the options `used` have been given. -/
def shortUsage (l : Level) (used : List String) : String :=
  l.usageName ++ l.writeOptions (dedupNames (l.requiredNames ++ used)) ++ l.commandTag

/-- The usage to show with an error: the short form when options were given, else the full. -/
def usageFor (l : Level) (used : List String) : String :=
  if used.isEmpty then l.fullUsage else l.shortUsage used

/-- The width an option takes in help before its description. -/
def optionWidth (o : OptionSpec) : Nat := o.display.length + 4

/-- The help of an option with its default value. -/
def optionHelp (o : OptionSpec) : String :=
  match o.defaultValue with
  | none => o.help
  | some d =>
    let shown := "[default: " ++ d ++ "]"
    if o.help.isEmpty then shown else o.help ++ " " ++ shown

/-- One line of the options section. -/
def optionLine (longest : Nat) (o : OptionSpec) : String :=
  let shortPart := match o.short with
    | some c => "-" ++ String.singleton c ++ ", "
    | none => "    "
  "  " ++ shortPart ++ o.display ++ spaces (longest + 2 - optionWidth o) ++ optionHelp o

/-- Whether an option comes before another in help. -/
def showsBefore (a b : OptionSpec) : Bool :=
  a.order < b.order || (a.order == b.order && decide (a.sortKey ≤ b.sortKey))

/-- The options section. -/
def optionsSection (l : Level) : String :=
  let longest := l.options.foldl (fun m o => max m (optionWidth o)) 2
  "Options:\n" ++ "\n".intercalate ((l.options.mergeSort showsBefore).map (optionLine longest))

/-- The subcommands section. -/
def commandsSection (l : Level) : String :=
  let longest := l.commands.foldl (fun m c => max m c.1.length) 2
  "Commands:\n" ++ "\n".intercalate (l.commands.map fun (name, about) =>
    "  " ++ name ++ spaces (longest + 2 - name.length) ++ about)

/-- Removes trailing white space. -/
def trimEnd (s : String) : String :=
  String.ofList (s.toList.reverse.dropWhile Char.isWhitespace).reverse

/-- The help text of the level. -/
def helpText (l : Level) : String :=
  let sections := (if l.hasCommands then [l.commandsSection] else []) ++
    (if l.options.isEmpty then [] else [l.optionsSection])
  let aboutPart := if l.about.isEmpty then "" else l.about ++ "\n"
  trimEnd (aboutPart ++ "\nUsage: " ++ l.fullUsage ++ "\n\n" ++ "\n\n".intercalate sections) ++ "\n"

end Level

/-- The help text of the `help` subcommand of a program. -/
def helpCommandText (programName : String) : String :=
  helpCommandAbout ++ "\n\nUsage: " ++ programName ++ " " ++ helpCommandName ++
    " [COMMAND]...\n\nArguments:\n  [COMMAND]...  Print help for the subcommand(s)\n"

/-- The usage of the `help` subcommand of a program. -/
def helpCommandUsage (programName : String) : String :=
  programName ++ " " ++ helpCommandName ++ " [COMMAND]..."

end FleetIssues.Cli
