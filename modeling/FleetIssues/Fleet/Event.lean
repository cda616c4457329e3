/-! Events about vehicles and users. -/

namespace FleetIssues.Fleet

/-- The service state of a vehicle. -/
inductive VehicleStatus where
  | active
  | inactive
  | maintenance
  deriving DecidableEq, Repr, Inhabited

/-- The wire name of a vehicle status. -/
def VehicleStatus.name : VehicleStatus → String
  | .active => "ACTIVE"
  | .inactive => "INACTIVE"
  | .maintenance => "MAINTENANCE"

/-- The vehicle statuses, in wire order. -/
def VehicleStatus.all : List VehicleStatus := [.active, .inactive, .maintenance]

/-- A vehicle came into service under a manager. -/
structure VehicleCreated where
  vehicle : Int
  manager : Int
  licensePlate : String
  brand : String
  model : String
  status : VehicleStatus
  deriving DecidableEq, Repr

/-- A vehicle changed: the carrier now on it, or none, and any details that changed. -/
structure VehicleUpdated where
  vehicle : Int
  carrier : Option Int
  licensePlate : Option String
  brand : Option String
  model : Option String
  status : Option VehicleStatus
  deriving DecidableEq, Repr

/-- A user account was created. -/
structure UserCreated where
  user : Int
  email : String
  roles : List String
  deriving DecidableEq, Repr

/-- A user account changed. -/
structure UserUpdated where
  user : Int
  email : Option String
  roles : Option (List String)
  deriving DecidableEq, Repr

/-- An event of the fleet. -/
inductive DomainEvent where
  | vehicleCreated (e : VehicleCreated)
  | vehicleUpdated (e : VehicleUpdated)
  | userCreated (e : UserCreated)
  | userUpdated (e : UserUpdated)
  deriving DecidableEq, Repr

/-- The name of an event's kind. -/
def DomainEvent.kind : DomainEvent → String
  | .vehicleCreated _ => "VehicleCreated"
  | .vehicleUpdated _ => "VehicleUpdated"
  | .userCreated _ => "UserCreated"
  | .userUpdated _ => "UserUpdated"

end FleetIssues.Fleet
