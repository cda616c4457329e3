import FleetIssues.Issue.Service
import FleetIssues.Issue.Basic
import FleetIssues.Json.Typed
/-! The issue endpoints: requests as headers and body text, answers as a status and a JSON body. -/

namespace FleetIssues.Issue

open Fleet Json Schema

/-- A status and a JSON body. -/
structure Response where
  status : Nat
  body : Value
  deriving Repr

namespace Response

/-- Whether a response reports success. -/
def isSuccess (r : Response) : Bool := 200 ≤ r.status && r.status < 300

/-- The refusal with a status and a sentence, stamped with the time. -/
def failure (status : Nat) (message now : String) : Response :=
  ⟨status, .object [("error", .string message), ("status", .ofInt status), ("timestamp", .string now)]⟩

/-- The refusal of a service error. -/
def ofError (e : IssueError) (now : String) : Response := failure e.status e.message now

/-- The answer to a list: 204 and null when empty, else 200 and the issues. -/
def ofList (issues : List Issue) : Response :=
  if issues.isEmpty then ⟨204, .null⟩ else ⟨200, .array (issues.map Issue.toValue)⟩

end Response

/-- What an endpoint did: the table after it, its response, and the events it announced. -/
structure Handled where
  table : IssueTable
  response : Response
  events : List IssueEvent

/-- The body of a filing request. -/
def createBodyShape : Shape :=
  .record "CreateIssueBody"
    [Shape.required "title" .text, Shape.required "content" .text, Shape.required "type" .text,
     Shape.optionalField "shipmentId" .int64]

/-- The body of a change request. -/
def updateBodyShape : Shape :=
  .record "UpdateIssueBody"
    [Shape.optionalField "title" .text, Shape.optionalField "content" .text,
     Shape.optionalField "type" .text]

/-- Reads a request body by a shape; a body that does not fit is answered 400. -/
def readBody (shape : Shape) (body now : String) : Except Response Datum :=
  match readTextAs shape body with
  | .ok d => .ok d
  | .error e => .error (.failure 400 ("Invalid request body: " ++ e.message) now)

/-- Reads an issue type name; an unknown one is answered 400. -/
def readType (raw now : String) : Except Response IssueType :=
  match IssueType.parse raw with
  | some t => .ok t
  | none => .error (.failure 400 ("Unknown issue type: " ++ raw) now)

/-- The filing request of a body. -/
def createRequestOf (body now : String) : Except Response CreateRequest := do
  let d ← readBody createBodyShape body now
  let type ← readType (d.field 2).asText now
  return ⟨(d.field 0).asText, (d.field 1).asText, type, (d.field 3).asOption.map Datum.asInt⟩

/-- The change request of a body. -/
def updateRequestOf (body now : String) : Except Response UpdateRequest := do
  let d ← readBody updateBodyShape body now
  let type ← match (d.field 2).asOption with
    | some raw => (readType raw.asText now).map some
    | none => pure none
  return ⟨(d.field 0).asOption.map Datum.asText, (d.field 1).asOption.map Datum.asText, type⟩

/-- The answer of a request that changes nothing. -/
def Handled.unchanged (table : IssueTable) (response : Response) : Handled := ⟨table, response, []⟩

/-- Files an issue. -/
def handleCreate (index : Index) (table : IssueTable) (headers : Headers) (body now : String) :
    Handled :=
  let caller := Caller.ofHeaders headers
  match authorizeCreate caller with
  | .error e => .unchanged table (.ofError e now)
  | .ok _ =>
    match createRequestOf body now with
    | .error r => .unchanged table r
    | .ok request =>
      match create index table caller request now with
      | .error e => .unchanged table (.ofError e now)
      | .ok (table', issue) => ⟨table', ⟨201, issue.toValue⟩, [.created issue]⟩

/-- Reads one issue. -/
def handleGet (table : IssueTable) (headers : Headers) (id : Int) (now : String) : Response :=
  match get table (Caller.ofHeaders headers) id with
  | .ok issue => ⟨200, issue.toValue⟩
  | .error e => .ofError e now

/-- The answer to a list query. -/
def listResponse (result : Except IssueError (List Issue)) (now : String) : Response :=
  match result with
  | .ok issues => .ofList issues
  | .error e => .ofError e now

/-- Lists the calling carrier's issues. -/
def handleOwn (table : IssueTable) (headers : Headers) (now : String) : Response :=
  listResponse (listOwn table (Caller.ofHeaders headers)) now

/-- Lists a carrier's issues. -/
def handleByCarrier (table : IssueTable) (headers : Headers) (carrier : Int) (now : String) :
    Response :=
  listResponse (listByCarrier table (Caller.ofHeaders headers) carrier) now

/-- Lists a manager's issues. -/
def handleByManager (table : IssueTable) (headers : Headers) (manager : Int) (now : String) :
    Response :=
  listResponse (listByManager table (Caller.ofHeaders headers) manager) now

/-- Lists the readable issues of a type; the type name is read first. -/
def handleByType (table : IssueTable) (headers : Headers) (raw now : String) : Response :=
  match readType raw now with
  | .error r => r
  | .ok type => listResponse (listByType table (Caller.ofHeaders headers) type) now

/-- Changes an issue. -/
def handleUpdate (table : IssueTable) (headers : Headers) (id : Int) (body now : String) :
    Handled :=
  match updateRequestOf body now with
  | .error r => .unchanged table r
  | .ok request =>
    match update table (Caller.ofHeaders headers) id request with
    | .error e => .unchanged table (.ofError e now)
    | .ok (table', issue) =>
      ⟨table', ⟨200, issue.toValue⟩, [.updated issue.id request.title request.content request.type]⟩

/-- Removes an issue. -/
def handleDelete (table : IssueTable) (headers : Headers) (id : Int) (now : String) : Handled :=
  match delete table (Caller.ofHeaders headers) id with
  | .error e => .unchanged table (.ofError e now)
  | .ok table' => ⟨table', ⟨204, .null⟩, []⟩

end FleetIssues.Issue
