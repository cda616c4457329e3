import FleetIssues.Cli.Program
import FleetIssues.Cli.Workspace
import FleetIssues.Config.Load
import FleetIssues.Auth.Gateway
import FleetIssues.Issue.Controller
import FleetIssues.Issue.Basic
import FleetIssues.Fleet.Ingest
import FleetIssues.Json.Value
/-! Running the program on a command line. -/

namespace FleetIssues.Cli

open Json Fleet Issue Auth Config

/-- What a run leaves: its exit status and what it wrote to standard output and error. -/
structure Outcome where
  exit : Nat
  stdout : String
  stderr : String
  deriving DecidableEq, Repr

/-- The text of a failure: its message and, when it has one, the message of its cause. -/
def errorText (message : String) (cause : Option String) : String :=
  "Error: " ++ message ++
    (match cause with
      | some c => "\n\nCaused by:\n    " ++ c
      | none => "") ++ "\n"

/-- A failed run after what it already printed. -/
def failed (stdout message : String) (cause : Option String) : Outcome :=
  ⟨1, stdout, errorText message cause⟩

/-- Loads the configuration file if one is named, or the defaults. -/
def loadConfig (path : Option String) (read : String → FileRead) :
    Except ServiceError ServiceConfig :=
  ServiceConfig.load path fun p => (read p).bytes

/-- Streams an event log into an index through a channel of the given capacity. A path that
cannot be opened names the log; a log that cannot be read fails with the reason alone, and one
with a line that is not UTF-8 with the sentence of that line's UTF-8 error. -/
def ingestLog (capacity : Nat) (index : Index) (path : String) : FileRead →
    Except (String × Option String) (Index × ReplaySummary)
  | .missing => .error ("Failed to open event log " ++ path, some missingFileReason)
  | .notDirectory => .error ("Failed to open event log " ++ path, some notDirectoryReason)
  | .directory => .error (directoryReason, none)
  | .contents bytes =>
    match Index.ingest capacity index bytes with
    | (index', .ok summary) => .ok (index', summary)
    | (_, .error e) => .error (e.message, none)

/-- What the index resolves for one carrier. -/
def carrierReport (index : Index) (carrier : Int) : Value :=
  .object [("carrierId", .ofInt carrier),
    ("managerId", .ofIntOption (index.managerFor (some carrier))),
    ("vehicleId", .ofIntOption (index.vehicleFor (some carrier)))]

/-- The report of a replay. -/
def replayReport (index : Index) (summary : ReplaySummary) (carriers : List Int) : Value :=
  .object [("applied", .ofInt summary.applied.toNat),
    ("carriers", .array (carriers.map (carrierReport index))),
    ("dropped", .ofInt summary.dropped.toNat),
    ("identityEventsIgnored", .ofInt index.stats.identityEventsIgnored.toNat),
    ("invariantViolations", .ofInt index.stats.invariantViolations.toNat)]

/-- Runs `replay`. -/
def runReplay (config : ServiceConfig) (args : ReplayArgs) (read : String → FileRead) : Outcome :=
  match ingestLog config.consumer.channelCapacity Index.empty args.events (read args.events) with
  | .error (message, cause) => failed "" message cause
  | .ok (index, summary) => ⟨0, (replayReport index summary args.carriers).pretty ++ "\n", ""⟩

/-- The token the caller of `create-issue` presents. -/
def sessionToken : String := "cli-session"

/-- The path issues are filed at. -/
def issuesPath : String := "/api/v1/issues"

/-- The request body of a new issue. -/
def filingBody (args : FilingArgs) : String :=
  Value.compact (.object [("content", .string args.content),
    ("shipmentId", .ofIntOption args.shipment), ("title", .string args.title),
    ("type", .string args.issueType)])

/-- Files the issue of `create-issue` on an index, as a caller the gateway admitted. -/
def fileIssue (index : Index) (identity : ForwardedIdentity) (args : FilingArgs)
    (now : String) : Outcome :=
  let handled := handleCreate index IssueTable.empty ⟨identity.headers⟩ (filingBody args) now
  let stdout := handled.response.body.pretty ++ "\n" ++
    String.join (handled.events.map fun e => e.render ++ "\n")
  if handled.response.isSuccess then ⟨0, stdout, ""⟩
  else failed stdout ("Issue rejected with status " ++ toString handled.response.status) none

/-- Runs `create-issue`. -/
def runCreateIssue (config : ServiceConfig) (args : FilingArgs) (read : String → FileRead)
    (now : String) : Outcome :=
  let ingested : Except (String × Option String) Index := match args.events with
    | none => .ok Index.empty
    | some path => (ingestLog config.consumer.channelCapacity Index.empty path (read path)).map Prod.fst
  match ingested with
  | .error (message, cause) => failed "" message cause
  | .ok index =>
    match RouteGuard.ofConfig config.gateway.routes with
    | .error e => failed "" e.message none
    | .ok guard =>
      let tokens := TokenTable.empty.insert sessionToken ⟨args.userId, RoleSet.parse args.roles⟩
      match Gateway.admit ⟨tokens, guard⟩ issuesPath (some ("Bearer " ++ sessionToken)) with
      | .error e => failed "" (e.message ++ " (" ++ toString e.status ++ ")") none
      | .ok identity => fileIssue index identity args now

/-- Runs the program on a command line, reading files through `read` and stamping what it files
with `now`. -/
def run (args : List String) (read : String → FileRead) (now : String) : Outcome :=
  match readInvocation args with
  | .error (.inform text) => ⟨0, text, ""⟩
  | .error (.complain text) => ⟨2, "", text⟩
  | .ok invocation =>
    match loadConfig invocation.config read with
    | .error e => failed "" e.message e.cause
    | .ok config =>
      match invocation.command with
      | .replay args => runReplay config args read
      | .createIssue args => runCreateIssue config args read now

/-- A run that reads its command line and loads its configuration goes on with that configuration,
which is valid: the event log is only ever streamed through a channel of positive capacity. -/
theorem run_of_loaded {args : List String} {read : String → FileRead} {now : String}
    {invocation : Invocation} {config : ServiceConfig} (parsed : readInvocation args = .ok invocation)
    (loaded : loadConfig invocation.config read = .ok config) :
    0 < config.consumer.channelCapacity ∧
      run args read now = match invocation.command with
        | .replay replayArgs => runReplay config replayArgs read
        | .createIssue filingArgs => runCreateIssue config filingArgs read now := by
  refine ⟨(load_ok_valid loaded).1, ?_⟩
  simp only [run, parsed, loaded]

end FleetIssues.Cli
