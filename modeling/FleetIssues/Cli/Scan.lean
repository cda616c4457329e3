import FleetIssues.Cli.Fault
import FleetIssues.Text.Basic
/-! Reading a command line. -/

namespace FleetIssues.Cli

open Text

/-- A value read from the command line. -/
inductive ArgValue where
  | text (s : String)
  | int (i : Int)
  deriving DecidableEq, Repr

/-- An option that has arrived, with the values given to it so far. -/
structure Pending where
  option : OptionSpec
  values : List String
  deriving DecidableEq, Repr

/-- What has been read at one level: the options given, in order of first appearance with
their values; the option whose values are still open; whether the next plain word is its value;
and whether `--` has been read. -/
structure LevelState where
  found : List (String × List ArgValue)
  pending : Option Pending
  waiting : Bool
  escaped : Bool
  deriving DecidableEq, Repr

/-- Why reading stops before the command runs: text for standard output, after which the
program succeeds, or text for standard error, after which it fails. -/
inductive Halt where
  | inform (text : String)
  | complain (text : String)
  deriving DecidableEq, Repr

namespace LevelState

/-- Nothing read yet. -/
def empty : LevelState := ⟨[], none, false, false⟩

/-- Whether an option was given. -/
def has (s : LevelState) (name : String) : Bool := s.found.any (·.1 == name)

/-- The identifiers of the options given, in order of first appearance. -/
def given (s : LevelState) : List String := s.found.map Prod.fst

/-- Adds a value to an option, recording the option if it is new. -/
def record (s : LevelState) (name : String) (v : ArgValue) : LevelState :=
  if s.has name then
    { s with found := s.found.map fun (n, vs) => if n == name then (n, vs ++ [v]) else (n, vs) }
  else { s with found := s.found ++ [(name, [v])] }

/-- Gives the next word to the option waiting for a value. -/
def giveValue (s : LevelState) (word : String) : LevelState :=
  match s.pending with
  | some p => { s with pending := some { p with values := p.values ++ [word] }, waiting := false }
  | none => s

/-- The values given to an option. -/
def valuesOf (s : LevelState) (name : String) : List ArgValue :=
  match s.found.find? (·.1 == name) with
  | some (_, vs) => vs
  | none => []

end LevelState

/-- Stops with a refusal on standard error. -/
def refuse {α : Type} (r : Refusal) : Except Halt α := .error (.complain r.text)

/-- Reads a value of a kind for an option. -/
def readValue (o : OptionSpec) (kind : ValueKind) (raw : String) : Except Halt ArgValue :=
  match kind with
  | .text => .ok (.text raw)
  | .path => if raw.isEmpty then refuse (Fault.missingValue o.display).bare else .ok (.text raw)
  | .int64 =>
    match parseInt64 raw with
    | .ok i => .ok (.int i)
    | .error e => refuse (Fault.invalidValue raw o.display e.message).bare

/-- Applies an option that has all its values. -/
def accept (p : ProgramSpec) (l : Level) (s : LevelState) (o : OptionSpec)
    (values : List String) : Except Halt LevelState :=
  match o.action with
  | .help => .error (.inform l.helpText)
  | .version => .error (.inform p.versionText)
  | .set kind =>
    match values with
    | [] => refuse (Fault.missingValue o.display).bare
    | raw :: _ =>
      if s.has o.name then refuse ((Fault.repeated o.display).withUsage l.fullUsage [])
      else do
        let v ← readValue o kind raw
        pure (s.record o.name v)
  | .append kind =>
    match values with
    | [] => refuse (Fault.missingValue o.display).bare
    | raw :: _ => do
      let v ← readValue o kind raw
      pure (s.record o.name v)

/-- Applies the option whose values are open, if any. -/
def resolve (p : ProgramSpec) (l : Level) (s : LevelState) : Except Halt LevelState :=
  match s.pending with
  | none => .ok s
  | some pending => accept p l { s with pending := none, waiting := false } pending.option pending.values

/-- Applies the open option before a refusal, keeping what was read if that fails. -/
def resolveQuietly (p : ProgramSpec) (l : Level) (s : LevelState) : LevelState :=
  match resolve p l s with
  | .ok s' => s'
  | .error _ => { s with pending := none, waiting := false }

/-- An option that takes a value has arrived, with its value attached or not. -/
def takeOption (p : ProgramSpec) (l : Level) (s : LevelState) (o : OptionSpec)
    (attached : Option String) : Except Halt LevelState := do
  let s ← resolve p l s
  match attached with
  | some v => accept p l s o [v]
  | none => pure { s with pending := some ⟨o, []⟩, waiting := true }

/-- A flag has arrived. -/
def takeFlag (p : ProgramSpec) (l : Level) (s : LevelState) (o : OptionSpec) :
    Except Halt LevelState := do
  let s ← resolve p l s
  accept p l s o []

/-- The options given that usage should name besides the required ones. -/
def optionalGiven (l : Level) (s : LevelState) : List String :=
  s.given.filter fun n => !l.requiredNames.contains n

/-- The position of a word in a list. -/
def positionOf (word : String) : List String → Option Nat
  | [] => none
  | w :: rest => if w == word then some 0 else (positionOf word rest).map (· + 1)

/-- Among subcommands named in the words still to come, the first named one with an option
similar to a long name, with that option. -/
def optionElsewhere (p : ProgramSpec) (name : String) (rest : List String) :
    Option (String × String) :=
  let candidates := p.commands.filterMap fun c =>
    match (similarNames name (p.commandLevel c).longs).getLast?, positionOf c.name rest with
    | some best, some pos => some (pos, c.name, best)
    | _, _ => none
  let first := candidates.foldl (fun acc x =>
    match acc with
    | some y => if x.1 < y.1 then some x else some y
    | none => some x) none
  first.map fun x => x.2

/-- The refusal of an unknown long option, with a similar option as a tip. -/
def unknownLong (p : ProgramSpec) (l : Level) (s : LevelState) (name : String)
    (rest : List String) : Refusal :=
  let s := resolveQuietly p l s
  let fault := Fault.unexpectedArgument ("--" ++ name)
  match (similarNames name l.longs).getLast? with
  | some best =>
    let bestName := ((l.findLong best).map OptionSpec.name).getD best
    let used := (dedupNames (s.given ++ [bestName])).filter fun n => !l.requiredNames.contains n
    fault.withUsage (l.usageFor used) [.similarOption ("--" ++ best)]
  | none =>
    let tips := if l.hasCommands then
        match optionElsewhere p name rest with
        | some (command, option) => [Tip.optionOfCommand command ("--" ++ option)]
        | none => []
      else []
    fault.withUsage (l.usageFor (optionalGiven l s)) tips

/-- The refusal of a plain word, which no level takes. -/
def strayWord (l : Level) (s : LevelState) (word : String) : Refusal :=
  if s.escaped && l.commands.any (·.1 == word) then
    (Fault.escapedSubcommand word).withUsage l.fullUsage [.removeEscape word]
  else if l.hasCommands then
    let similar := similarNames word (l.commands.map Prod.fst)
    (Fault.unrecognizedSubcommand word).withUsage l.fullUsage
      (if similar.isEmpty then [] else [.similarCommands similar])
  else (Fault.unexpectedArgument word).withUsage l.fullUsage []

/-- Reads a cluster of one-letter options after a dash. -/
def scanShorts (p : ProgramSpec) (l : Level) (s : LevelState) :
    List Char → Except Halt LevelState
  | [] => .ok s
  | c :: more =>
    match l.findShort c with
    | none =>
      refuse ((Fault.unexpectedArgument ("-" ++ String.singleton c)).withUsage l.fullUsage [])
    | some o =>
      if o.takesValue then
        let attached := match more with
          | [] => none
          | '=' :: value => some (String.ofList value)
          | value => some (String.ofList value)
        takeOption p l s o attached
      else do
        let s ← takeFlag p l s o
        scanShorts p l s more

/-- Splits `name=value` at the first `=`. -/
def splitAtEquals (body : String) : String × Option String :=
  match body.toList.span (· != '=') with
  | (name, _ :: value) => (String.ofList name, some (String.ofList value))
  | (name, []) => (String.ofList name, none)

/-- How reading a level's words ends: they ran out, a subcommand was named with the words
after it, or the `help` subcommand was named with the words after it. -/
inductive Scanned where
  | ended (s : LevelState)
  | entered (s : LevelState) (command : String) (rest : List String)
  | helpCommand (rest : List String)
  deriving DecidableEq, Repr

/-- Reads the words of one level. -/
def scanLevel (p : ProgramSpec) (l : Level) : LevelState → List String → Except Halt Scanned
  | s, [] => .ok (.ended s)
  | s, word :: rest =>
    if s.escaped then refuse (strayWord l (resolveQuietly p l s) word)
    else if l.commands.any (·.1 == word) then
      if word == helpCommandName then .ok (.helpCommand rest) else .ok (.entered s word rest)
    else if word == "--" then scanLevel p l { s with escaped := true } rest
    else if word.startsWith "--" then
      let (name, attached) := splitAtEquals (String.ofList (word.toList.drop 2))
      match l.findLong name with
      | some o =>
        if o.takesValue then do
          let s ← takeOption p l s o attached
          scanLevel p l s rest
        else
          match attached with
          | some v =>
            let used := (s.given ++ [o.name]).filter fun n => !l.requiredNames.contains n
            refuse ((Fault.unexpectedValue v o.display).withUsage (l.usageFor used) [])
          | none => do
            let s ← takeFlag p l s o
            scanLevel p l s rest
      | none =>
        if name.isEmpty then refuse (strayWord l (resolveQuietly p l s) word)
        else refuse (unknownLong p l s name rest)
    else if word.startsWith "-" && word != "-" then do
      let s ← scanShorts p l s (word.toList.drop 1)
      scanLevel p l s rest
    else if s.waiting then scanLevel p l (s.giveValue word) rest
    else refuse (strayWord l (resolveQuietly p l s) word)

/-- What the `help` subcommand shows for the words after it. -/
def helpFor (p : ProgramSpec) : List String → Halt
  | [] => .inform p.topLevel.helpText
  | name :: rest =>
    match p.command? name with
    | some c =>
      let l := p.commandLevel c
      match rest with
      | [] => .inform l.helpText
      | word :: _ => .complain ((Fault.unrecognizedSubcommand word).withUsage l.fullUsage []).text
    | none =>
      if name == helpCommandName then
        match rest with
        | [] => .inform (helpCommandText p.name)
        | word :: _ =>
          .complain (Refusal.text ⟨.unrecognizedSubcommand word, [], some (helpCommandUsage p.name), false⟩)
      else .complain ((Fault.unrecognizedSubcommand name).withUsage p.topLevel.fullUsage []).text

/-- Checks that a level's required options were given. -/
def checkRequired (l : Level) (s : LevelState) : Except Halt Unit :=
  let missing := l.requiredNames.filter fun n => !s.has n
  if missing.isEmpty then .ok ()
  else
    let shown := missing.filterMap fun n => (l.findName n).map OptionSpec.display
    refuse ((Fault.missingArguments shown).withUsage (l.usageFor (s.given ++ missing)) [])

/-- A command line read in full: the program's options, the subcommand, and its options. -/
structure CommandLine where
  top : LevelState
  command : CommandSpec
  options : LevelState
  deriving DecidableEq, Repr

/-- Reads a subcommand's words, then settles the program's own options. -/
def readCommand (p : ProgramSpec) (top : LevelState) (c : CommandSpec) (rest : List String) :
    Except Halt CommandLine := do
  let l := p.commandLevel c
  let scanned ← scanLevel p l LevelState.empty rest
  let s := match scanned with
    | .ended s => s
    | .entered s _ _ => s
    | .helpCommand _ => LevelState.empty
  let s ← resolve p l s
  checkRequired l s
  let top ← resolve p p.topLevel top
  pure ⟨top, c, s⟩

/-- Reads a command line. -/
def readCommandLine (p : ProgramSpec) (args : List String) : Except Halt CommandLine := do
  let top := p.topLevel
  match ← scanLevel p top LevelState.empty args with
  | .helpCommand rest => .error (helpFor p rest)
  | .entered s name rest =>
    match p.command? name with
    | some c => readCommand p s c rest
    | none => refuse ((Fault.unrecognizedSubcommand name).withUsage top.fullUsage [])
  | .ended s =>
    let s ← resolve p top s
    if s.found.isEmpty then .error (.complain top.helpText)
    else refuse ((Fault.missingSubcommand p.name p.commandNames).withUsage top.fullUsage [])

end FleetIssues.Cli
