import FleetIssues.Cli.Scan
/-! The command line of the fleet issues program and what it asks for. -/

namespace FleetIssues.Cli

/-- The configuration file option, accepted by every subcommand. -/
def configOption : OptionSpec :=
  { name := "config", long := "config", short := some 'c', valueName := "CONFIG",
    help := "Configuration file (.json, .yaml or .yml)", action := .set .path, required := false,
    defaultValue := none, order := 2 }

/-- The roles a caller has when none are given. -/
def defaultRoles : String := "ROLE_CARRIER"

/-- The `replay` subcommand. -/
def replayCommand : CommandSpec :=
  { name := "replay", about := "Replay an event log and report what the index resolves",
    options := [
      { name := "events", long := "events", short := some 'e', valueName := "EVENTS",
        help := "JSON-lines event log", action := .set .path, required := true,
        defaultValue := none, order := 0 },
      { name := "carriers", long := "carrier", short := none, valueName := "CARRIERS",
        help := "Carriers to resolve after the replay", action := .append .int64,
        required := false, defaultValue := none, order := 1 }] }

/-- The `create-issue` subcommand. -/
def createIssueCommand : CommandSpec :=
  { name := "create-issue",
    about := "Replay an event log, then file an issue as a gateway-admitted caller",
    options := [
      { name := "events", long := "events", short := some 'e', valueName := "EVENTS",
        help := "JSON-lines event log to build the index from", action := .set .path,
        required := false, defaultValue := none, order := 0 },
      { name := "user_id", long := "user-id", short := some 'u', valueName := "USER_ID",
        help := "Caller's user id", action := .set .int64, required := true,
        defaultValue := none, order := 1 },
      { name := "roles", long := "roles", short := some 'r', valueName := "ROLES",
        help := "Caller's roles (comma-separated)", action := .set .text, required := false,
        defaultValue := some defaultRoles, order := 2 },
      { name := "title", long := "title", short := none, valueName := "TITLE", help := "",
        action := .set .text, required := true, defaultValue := none, order := 3 },
      { name := "content", long := "content", short := none, valueName := "CONTENT", help := "",
        action := .set .text, required := true, defaultValue := none, order := 4 },
      { name := "issue_type", long := "type", short := some 't', valueName := "ISSUE_TYPE",
        help := "VEHICLE, ROUTE, SHIPMENT, TECHNICAL or OTHER", action := .set .text,
        required := true, defaultValue := none, order := 5 },
      { name := "shipment_id", long := "shipment-id", short := none, valueName := "SHIPMENT_ID",
        help := "", action := .set .int64, required := false, defaultValue := none,
        order := 6 }] }

/-- The program. -/
def program : ProgramSpec :=
  { name := "fleet-issues", version := "0.1.0",
    about := "Fleet Issues - carrier issue intake with vehicle/manager resolution",
    globals := [configOption], commands := [replayCommand, createIssueCommand] }

/-- What `replay` asks for: the event log and the carriers to resolve. -/
structure ReplayArgs where
  events : String
  carriers : List Int
  deriving DecidableEq, Repr

/-- What `create-issue` asks for: an optional event log, the caller, and the issue. -/
structure FilingArgs where
  events : Option String
  userId : Int
  roles : String
  title : String
  content : String
  issueType : String
  shipment : Option Int
  deriving DecidableEq, Repr

/-- A subcommand with its arguments. -/
inductive Command where
  | replay (args : ReplayArgs)
  | createIssue (args : FilingArgs)
  deriving DecidableEq, Repr

/-- A command line read in full: the configuration file if given, and the subcommand. -/
structure Invocation where
  config : Option String
  command : Command
  deriving DecidableEq, Repr

/-- The first text value of an option. -/
def textOf (s : LevelState) (name : String) : Option String :=
  match s.valuesOf name with
  | .text t :: _ => some t
  | _ => none

/-- The first integer value of an option. -/
def intOf (s : LevelState) (name : String) : Option Int :=
  match s.valuesOf name with
  | .int i :: _ => some i
  | _ => none

/-- The integer values of an option. -/
def intsOf (s : LevelState) (name : String) : List Int :=
  (s.valuesOf name).filterMap fun
    | .int i => some i
    | .text _ => none

/-- The invocation of a command line; a subcommand's configuration file wins over the
program's. -/
def Invocation.ofCommandLine (line : CommandLine) : Invocation :=
  let o := line.options
  let config := match textOf o configOption.name with
    | some path => some path
    | none => textOf line.top configOption.name
  let command :=
    if line.command.name == createIssueCommand.name then
      Command.createIssue
        { events := textOf o "events", userId := (intOf o "user_id").getD 0,
          roles := (textOf o "roles").getD defaultRoles, title := (textOf o "title").getD "",
          content := (textOf o "content").getD "", issueType := (textOf o "issue_type").getD "",
          shipment := intOf o "shipment_id" }
    else Command.replay { events := (textOf o "events").getD "", carriers := intsOf o "carriers" }
  ⟨config, command⟩

/-- Reads the program's command line. -/
def readInvocation (args : List String) : Except Halt Invocation :=
  (readCommandLine program args).map Invocation.ofCommandLine

/-- The paths an invocation reads: its configuration file and its event log. -/
def Invocation.paths (i : Invocation) : List String :=
  i.config.toList ++
    match i.command with
    | .replay args => [args.events]
    | .createIssue args => args.events.toList

/-- The paths a command line reads, none when it cannot be read. -/
def pathsRead (args : List String) : List String :=
  match readInvocation args with
  | .ok i => i.paths
  | .error _ => []

end FleetIssues.Cli
