import FleetIssues.Fleet.Event
import FleetIssues.Fleet.Relations
/-! The relationship index: vehicle events applied to the relations, and the answers drawn from
them. -/

namespace FleetIssues.Fleet

/-- What applying one event did. -/
inductive ApplyOutcome where
  | ownershipRecorded (vehicle manager : Int)
  | carrierAssigned (carrier vehicle : Int) (manager : Option Int) (assignment : Assignment)
  | carrierUnassigned (carrier vehicle : Int) (backfilled : Option Int)
  | nothingToUnassign (vehicle : Int)
  | identityIgnored (user : Int)
  deriving DecidableEq, Repr

/-- Whether an outcome shows two carriers on one vehicle. -/
def ApplyOutcome.isInvariantViolation : ApplyOutcome → Bool
  | .carrierAssigned _ _ _ (.shared _) => true
  | _ => false

/-- The counters of an index: 64-bit, and wrapping to zero past the largest value, as an atomic
`fetch_add` does. -/
structure IndexStats where
  eventsApplied : UInt64
  identityEventsIgnored : UInt64
  eventsDropped : UInt64
  invariantViolations : UInt64
  deriving DecidableEq, Repr

/-- All counters at zero. -/
def IndexStats.zero : IndexStats := ⟨0, 0, 0, 0⟩

/-- The counters after an outcome. -/
def IndexStats.count (s : IndexStats) : ApplyOutcome → IndexStats
  | .identityIgnored _ => { s with identityEventsIgnored := s.identityEventsIgnored + 1 }
  | outcome =>
    { s with
      eventsApplied := s.eventsApplied + 1
      invariantViolations := s.invariantViolations + (if outcome.isInvariantViolation then 1 else 0) }

/-- Relations and counters. -/
structure Index where
  relations : Relations
  stats : IndexStats

namespace Index

/-- A fresh index. -/
def empty : Index := ⟨Relations.empty, IndexStats.zero⟩

/-- Applies an event to the relations alone. -/
def applyToRelations (r : Relations) : DomainEvent → Relations × ApplyOutcome
  | .vehicleCreated e => (r.putOwner e.vehicle e.manager, .ownershipRecorded e.vehicle e.manager)
  | .vehicleUpdated e =>
    match e.carrier with
    | some carrier =>
      let (r₁, assignment) := r.putCarrier carrier e.vehicle
      let manager := r₁.owner e.vehicle
      let r₂ := match manager with
        | some m => r₁.putBackfill carrier m
        | none => r₁
      (r₂, .carrierAssigned carrier e.vehicle manager assignment)
    | none =>
      match r.lastOccupant e.vehicle with
      | none => (r, .nothingToUnassign e.vehicle)
      | some carrier =>
        let manager := r.owner e.vehicle
        let r₁ := match manager with
          | some m => r.putBackfill carrier m
          | none => r
        ((r₁.removeCarrier carrier).1, .carrierUnassigned carrier e.vehicle manager)
  | .userCreated e => (r, .identityIgnored e.user)
  | .userUpdated e => (r, .identityIgnored e.user)

/-- Applies an event, answering what it did. -/
def apply (ix : Index) (event : DomainEvent) : Index × ApplyOutcome :=
  let (relations, outcome) := applyToRelations ix.relations event
  (⟨relations, IndexStats.count ix.stats outcome⟩, outcome)

/-- Counts a message that never became an event. -/
def recordDropped (ix : Index) : Index :=
  { ix with stats := { ix.stats with eventsDropped := ix.stats.eventsDropped + 1 } }

/-- The manager a carrier works for: its vehicle's owner, or else the manager kept for it. -/
def managerFor (ix : Index) (carrier : Option Int) : Option Int :=
  carrier.bind fun c =>
    match (ix.relations.vehicleOf c).bind ix.relations.owner with
    | some m => some m
    | none => ix.relations.backfill c

/-- The vehicle a carrier is on. -/
def vehicleFor (ix : Index) (carrier : Option Int) : Option Int :=
  carrier.bind ix.relations.vehicleOf

/-- Whether a carrier is on a vehicle. -/
def hasVehicle (ix : Index) (carrier : Int) : Bool :=
  ix.relations.hasVehicle carrier

end Index

end FleetIssues.Fleet
