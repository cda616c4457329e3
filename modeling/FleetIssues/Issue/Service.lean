import FleetIssues.Issue.Table
import FleetIssues.Caller
import FleetIssues.Fleet.Index
/-! The issue service: who may file, read, change and remove issues. -/

namespace FleetIssues.Issue

open Fleet Text

/-- Why the service refuses a request. -/
inductive IssueError where
  | unauthenticated
  | forbidden (reason : String)
  | managerUnresolved (carrier : Int)
  | vehicleUnresolved (carrier : Int)
  | validation (reason : String)
  | notFound (id : Int)
  | table (error : TableError)
  deriving DecidableEq, Repr

namespace IssueError

/-- The sentence of a refusal. -/
def message : IssueError → String
  | .unauthenticated => "User not authenticated"
  | .forbidden reason => "Forbidden: " ++ reason
  | .managerUnresolved carrier =>
    "Manager unresolved for carrier " ++ toString carrier ++
      "; the carrier must be assigned to a vehicle first"
  | .vehicleUnresolved carrier =>
    "Vehicle unresolved for carrier " ++ toString carrier ++ "; VEHICLE issues need an assigned vehicle"
  | .validation reason => "Invalid issue: " ++ reason
  | .notFound id => "Issue " ++ toString id ++ " not found"
  | .table error => error.message

/-- The HTTP status of a refusal. -/
def status : IssueError → Nat
  | .unauthenticated => 401
  | .forbidden _ => 403
  | .managerUnresolved _ | .vehicleUnresolved _ | .validation _ => 400
  | .notFound _ => 404
  | .table _ => 500

end IssueError

/-- The longest title, in characters. -/
def maxTitleLength : Nat := 255

/-- The longest content, in characters. -/
def maxContentLength : Nat := 2000

/-- Checks a text field: not blank, and not longer than its limit in characters. -/
def validateText (field value : String) (limit : Nat) : Except IssueError Unit :=
  if isBlankText value then .error (.validation (field ++ " cannot be blank"))
  else if value.length > limit then
    .error (.validation (field ++ " exceeds " ++ toString limit ++ " characters"))
  else .ok ()

/-- Whether a caller may read an issue. -/
def canAccess (caller : Caller) (issue : Issue) : Bool :=
  match caller.userId with
  | none => false
  | some user =>
    caller.isAdmin || (caller.hasRole managerRole && user == issue.manager) ||
      (caller.hasRole carrierRole && user == issue.carrier)

/-- A request to file an issue. -/
structure CreateRequest where
  title : String
  content : String
  type : IssueType
  shipment : Option Int
  deriving DecidableEq, Repr

/-- A request to change an issue: the fields to replace. -/
structure UpdateRequest where
  title : Option String
  content : Option String
  type : Option IssueType
  deriving DecidableEq, Repr

/-- The carrier a caller files issues as: the caller must be known and hold the carrier role. -/
def authorizeCreate (caller : Caller) : Except IssueError Int :=
  match caller.userId with
  | none => .error .unauthenticated
  | some user => if caller.hasRole carrierRole then .ok user else .error (.forbidden "only carriers can file issues")

/-- The live issue of an id. -/
def findIssue (table : IssueTable) (id : Int) : Except IssueError Issue :=
  match table.findById id with
  | some issue => .ok issue
  | none => .error (.notFound id)

/-- Files an issue: checks the caller, the title and the content, resolves the manager and, for
vehicle issues, the vehicle, and stores it with the time given. -/
def create (index : Index) (table : IssueTable) (caller : Caller) (request : CreateRequest)
    (now : String) : Except IssueError (IssueTable × Issue) := do
  let carrier ← authorizeCreate caller
  validateText "title" request.title maxTitleLength
  validateText "content" request.content maxContentLength
  let manager ← match index.managerFor (some carrier) with
    | some m => pure m
    | none => throw (.managerUnresolved carrier)
  let vehicle ← if request.type.requiresVehicle then
      match index.vehicleFor (some carrier) with
      | some v => pure (some v)
      | none => throw (.vehicleUnresolved carrier)
    else pure none
  return table.insert ⟨request.title, request.content, request.type, now, carrier, manager, vehicle,
    request.shipment⟩

/-- Changes an issue: only its filing carrier may, and given texts are checked first. -/
def update (table : IssueTable) (caller : Caller) (id : Int) (request : UpdateRequest) :
    Except IssueError (IssueTable × Issue) := do
  let issue ← findIssue table id
  if caller.userId != some issue.carrier then
    throw (.forbidden "only the reporting carrier can update an issue")
  if let some title := request.title then validateText "title" title maxTitleLength
  if let some content := request.content then validateText "content" content maxContentLength
  let changed := { issue with
    title := request.title.getD issue.title
    content := request.content.getD issue.content
    type := request.type.getD issue.type }
  match table.save changed with
  | .ok table' => return (table', changed)
  | .error e => throw (.table e)

/-- Removes an issue: administrators and its filing carrier may. -/
def delete (table : IssueTable) (caller : Caller) (id : Int) : Except IssueError IssueTable := do
  let issue ← findIssue table id
  let user ← match caller.userId with
    | some user => pure user
    | none => throw (.forbidden "anonymous callers cannot delete issues")
  if !caller.isAdmin && user != issue.carrier then
    throw (.forbidden "only admins or the reporting carrier can delete an issue")
  match table.delete id with
  | (table', true) => return table'
  | (_, false) => throw (.notFound id)

/-- Reads one issue. -/
def get (table : IssueTable) (caller : Caller) (id : Int) : Except IssueError Issue := do
  let issue ← findIssue table id
  if canAccess caller issue then return issue
  else throw (.forbidden "not allowed to read this issue")

/-- The issues filed by the calling carrier. -/
def listOwn (table : IssueTable) (caller : Caller) : Except IssueError (List Issue) := do
  if caller.userId.isNone then throw .unauthenticated
  match caller.asCarrier with
  | some carrier => return table.findByCarrier carrier
  | none => throw (.forbidden "caller is not a carrier")

/-- The issues filed by a carrier: administrators and that carrier may list them. -/
def listByCarrier (table : IssueTable) (caller : Caller) (carrier : Int) :
    Except IssueError (List Issue) := do
  if caller.userId.isNone then throw .unauthenticated
  if !caller.isAdmin && caller.asCarrier != some carrier then
    throw (.forbidden "not allowed to read this carrier's issues")
  return table.findByCarrier carrier

/-- The issues attributed to a manager: administrators and that manager may list them. -/
def listByManager (table : IssueTable) (caller : Caller) (manager : Int) :
    Except IssueError (List Issue) := do
  if caller.userId.isNone then throw .unauthenticated
  if !caller.isAdmin && caller.asManager != some manager then
    throw (.forbidden "not allowed to read this manager's issues")
  return table.findByManager manager

/-- The issues of a type that the caller may read. -/
def listByType (table : IssueTable) (caller : Caller) (type : IssueType) :
    Except IssueError (List Issue) := do
  if caller.userId.isNone then throw .unauthenticated
  return (table.findByType type).filter (canAccess caller)

end FleetIssues.Issue
