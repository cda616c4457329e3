import FleetIssues.Issue.Controller
import FleetIssues.Fleet.Ingest
import FleetIssues.Config.Basic
/-! The running application: the relationship index fed by the event stream, and the issue table
behind the issue endpoints. -/

namespace FleetIssues

open Fleet Json
open Issue hiding id

/-- The index and the issues. -/
structure App where
  index : Index
  table : IssueTable

namespace App

/-- The application before any event or request. -/
def empty : App := ⟨Index.empty, IssueTable.empty⟩

end App

/-- What can be asked of the application. -/
inductive Request where
  /-- Decode and apply one message. -/
  | consume (message : String)
  /-- Consume a stream of messages, one a line. -/
  | consumeLines (bytes : List UInt8)
  /-- Consume a file of messages, one a line; none when there is no such file. -/
  | replayFile (contents : Option (List UInt8))
  /-- Apply an event. -/
  | handle (event : DomainEvent)
  /-- Count a message that never became an event. -/
  | recordDropped
  | managerOf (carrier : Option Int)
  | vehicleOf (carrier : Option Int)
  | hasVehicle (carrier : Int)
  | stats
  | count
  | create (headers : Headers) (body : String)
  | get (headers : Headers) (id : Int)
  | own (headers : Headers)
  | byCarrier (headers : Headers) (carrier : Int)
  | byManager (headers : Headers) (manager : Int)
  | byType (headers : Headers) (type : String)
  | update (headers : Headers) (id : Int) (body : String)
  | delete (headers : Headers) (id : Int)

/-- What the application answers. -/
inductive Answer where
  /-- What a message did, or none when it was dropped. -/
  | consumed (outcome : Option ApplyOutcome)
  | replayed (summary : Except ServiceError ReplaySummary)
  | applied (outcome : ApplyOutcome)
  | done
  | id (value : Option Int)
  | flag (value : Bool)
  | stats (stats : IndexStats)
  | count (n : Nat)
  /-- An endpoint's response and the outbox lines it published. -/
  | response (response : Response) (outbox : List String)

namespace App

/-- Consumes a stream of lines; a line that is not UTF-8 is an IO error. -/
def consumeLines (app : App) (bytes : List UInt8) : App × Answer :=
  let (index, result) := app.index.consumeLines bytes
  ({ app with index }, .replayed (result.mapError fun _ => .io invalidUtf8Reason))

/-- The answer of an endpoint that changes nothing. -/
def respond (app : App) (response : Response) : App × Answer := (app, .response response [])

/-- The answer of an endpoint that may store something. -/
def settle (app : App) (handled : Handled) : App × Answer :=
  ({ app with table := handled.table }, .response handled.response (handled.events.map IssueEvent.render))

/-- Answers a request, stamping what it stores and refuses with the time given. -/
def step (app : App) (now : String) : Request → App × Answer
  | .consume message =>
    let (index, outcome) := app.index.consume message
    ({ app with index }, .consumed outcome)
  | .consumeLines bytes => app.consumeLines bytes
  | .replayFile (some bytes) => app.consumeLines bytes
  | .replayFile none => (app, .replayed (.error (.io missingFileReason)))
  | .handle event =>
    let (index, outcome) := app.index.apply event
    ({ app with index }, .applied outcome)
  | .recordDropped => ({ app with index := app.index.recordDropped }, .done)
  | .managerOf carrier => (app, .id (app.index.managerFor carrier))
  | .vehicleOf carrier => (app, .id (app.index.vehicleFor carrier))
  | .hasVehicle carrier => (app, .flag (app.index.hasVehicle carrier))
  | .stats => (app, .stats app.index.stats)
  | .count => (app, .count app.table.count)
  | .create headers body => app.settle (handleCreate app.index app.table headers body now)
  | .get headers id => app.respond (handleGet app.table headers id now)
  | .own headers => app.respond (handleOwn app.table headers now)
  | .byCarrier headers carrier => app.respond (handleByCarrier app.table headers carrier now)
  | .byManager headers manager => app.respond (handleByManager app.table headers manager now)
  | .byType headers raw => app.respond (handleByType app.table headers raw now)
  | .update headers id body => app.settle (handleUpdate app.table headers id body now)
  | .delete headers id => app.settle (handleDelete app.table headers id now)

/-- Answers requests in order, each on the application the ones before it left. -/
def run (app : App) (now : String) : List Request → App × List Answer
  | [] => (app, [])
  | request :: rest =>
    let (app₁, answer) := app.step now request
    let (app₂, answers) := app₁.run now rest
    (app₂, answer :: answers)

end App

end FleetIssues
