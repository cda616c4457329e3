import FleetIssues.Caller
import FleetIssues.Text.Basic
import FleetIssues.Json.Value
/-! Issues filed by carriers, and how they leave the service: as answer bodies and outbox events. -/

namespace FleetIssues.Issue

open Text

/-- What an issue is about. -/
inductive IssueType where
  | vehicle
  | route
  | shipment
  | technical
  | other
  deriving DecidableEq, Repr, Inhabited

namespace IssueType

/-- The wire name of an issue type. -/
def name : IssueType → String
  | .vehicle => "VEHICLE"
  | .route => "ROUTE"
  | .shipment => "SHIPMENT"
  | .technical => "TECHNICAL"
  | .other => "OTHER"

/-- The issue types, in wire order. -/
def all : List IssueType := [.vehicle, .route, .shipment, .technical, .other]

/-- Reads an issue type from its name, trimmed, ignoring ASCII case. -/
def parse (raw : String) : Option IssueType :=
  let wanted := trimBlank raw
  all.find? (fun t => equalsIgnoringAsciiCase t.name wanted)

/-- Whether issues of a type name the carrier's vehicle. -/
def requiresVehicle : IssueType → Bool
  | .vehicle => true
  | _ => false

end IssueType

end FleetIssues.Issue

namespace FleetIssues

/-- An issue as stored. -/
structure Issue where
  id : Int
  title : String
  content : String
  type : Issue.IssueType
  reportedAt : String
  carrier : Int
  manager : Int
  vehicle : Option Int
  shipment : Option Int
  deriving DecidableEq, Repr

end FleetIssues

namespace FleetIssues.Issue

/-- An issue before it has an id. -/
structure IssueDraft where
  title : String
  content : String
  type : IssueType
  reportedAt : String
  carrier : Int
  manager : Int
  vehicle : Option Int
  shipment : Option Int
  deriving DecidableEq, Repr

/-- The issue of a draft under an id. -/
def IssueDraft.toIssue (d : IssueDraft) (id : Int) : Issue :=
  ⟨id, d.title, d.content, d.type, d.reportedAt, d.carrier, d.manager, d.vehicle, d.shipment⟩

/-- What the service announces about issues. -/
inductive IssueEvent where
  | created (issue : Issue)
  | updated (id : Int) (title : Option String) (content : Option String) (type : Option IssueType)
  deriving DecidableEq, Repr

end FleetIssues.Issue

namespace FleetIssues.Issue

open Json

/-- The answer body of an issue, keys sorted. -/
def toValue (issue : Issue) : Value :=
  .object [
    ("carrierId", .ofInt issue.carrier),
    ("content", .string issue.content),
    ("id", .ofInt issue.id),
    ("managerId", .ofInt issue.manager),
    ("reportedAt", .string issue.reportedAt),
    ("shipmentId", .ofIntOption issue.shipment),
    ("title", .string issue.title),
    ("type", .string issue.type.name),
    ("vehicleId", .ofIntOption issue.vehicle)]

/-- The wire type of an issue event. -/
def IssueEvent.typeName : IssueEvent → String
  | .created _ => "issueCreatedEvent"
  | .updated .. => "issueUpdatedEvent"

/-- The payload of an issue event, fields in wire order. -/
def IssueEvent.payload : IssueEvent → Value
  | .created issue => .object [
      ("issueId", .ofInt issue.id),
      ("title", .string issue.title),
      ("content", .string issue.content),
      ("issueType", .string issue.type.name),
      ("reportedAt", .string issue.reportedAt),
      ("carrierId", .ofInt issue.carrier),
      ("managerId", .ofInt issue.manager),
      ("vehicleId", .ofIntOption issue.vehicle),
      ("shipmentId", .ofIntOption issue.shipment)]
  | .updated id title content type => .object (
      [("issueId", .ofInt id)] ++
      (title.map fun t => [("title", Value.string t)]).getD [] ++
      (content.map fun c => [("content", Value.string c)]).getD [] ++
      (type.map fun t => [("issueType", Value.string t.name)]).getD [])

/-- The outbox line of an issue event. -/
def IssueEvent.render (event : IssueEvent) : String :=
  (Value.object [("type", .string event.typeName), ("payload", event.payload)]).compact

end FleetIssues.Issue
