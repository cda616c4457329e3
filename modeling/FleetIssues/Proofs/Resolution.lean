import FleetIssues.Fleet.Index
import FleetIssues.Proofs.Occupancy
/-! Resolution against the history of outcomes. -/

namespace FleetIssues.Fleet

namespace Relations

/-- Keeps a manager for a carrier when one is known. -/
def keepManager (r : Relations) (carrier : Int) : Option Int → Relations
  | some manager => r.putBackfill carrier manager
  | none => r

variable {r : Relations}

@[simp] theorem keepManager_owner (r : Relations) (carrier : Int) (manager : Option Int) :
    (r.keepManager carrier manager).owner = r.owner := by
  cases manager <;> rfl

@[simp] theorem keepManager_vehicleOf (r : Relations) (carrier : Int) (manager : Option Int) :
    (r.keepManager carrier manager).vehicleOf = r.vehicleOf := by
  cases manager <;> rfl

@[simp] theorem keepManager_occupants (r : Relations) (carrier : Int) (manager : Option Int) :
    (r.keepManager carrier manager).occupants = r.occupants := by
  cases manager <;> rfl

@[simp] theorem keepManager_carriersOn (r : Relations) (carrier : Int) (manager : Option Int) :
    (r.keepManager carrier manager).carriersOn = r.carriersOn := by
  cases manager <;> rfl

/-- A known manager replaces the one kept; an unknown one keeps it. -/
theorem keepManager_backfill (r : Relations) (carrier : Int) (manager : Option Int) :
    (r.keepManager carrier manager).backfill = r.backfill.set carrier (manager.or (r.backfill carrier)) := by
  cases manager with
  | some manager => rfl
  | none => exact (Table.set_of_eq rfl).symm

theorem Coherent.keepManager (h : r.Coherent) (carrier : Int) (manager : Option Int) :
    (r.keepManager carrier manager).Coherent := by
  cases manager with
  | some manager => exact h.putBackfill carrier manager
  | none => exact h

/-- The most recent occupant of a vehicle is on it. -/
theorem Coherent.vehicleOf_of_lastOccupant (h : r.Coherent) {vehicle carrier : Int}
    (last : r.lastOccupant vehicle = some carrier) : r.vehicleOf carrier = some vehicle := by
  rw [lastOccupant_eq_getLast?] at last
  exact h.mem_carriersOn.mp (List.mem_of_getLast? last)

end Relations

namespace ApplyOutcome

/-- The carrier an outcome puts on a vehicle or takes off one. -/
def carrierOf : ApplyOutcome → Option Int
  | .carrierAssigned carrier _ _ _ => some carrier
  | .carrierUnassigned carrier _ _ => some carrier
  | _ => none

/-- The vehicle an outcome leaves its carrier on: the one it was put on, none when it was taken
off. -/
def vehicleAfter : ApplyOutcome → Option Int
  | .carrierAssigned _ vehicle _ _ => some vehicle
  | _ => none

/-- The manager an outcome keeps for a carrier: the owner of the vehicle the carrier was put on or
taken off, when it was known. -/
def managerKeptFor (carrier : Int) : ApplyOutcome → Option Int
  | .carrierAssigned c _ manager _ => if c = carrier then manager else none
  | .carrierUnassigned c _ manager => if c = carrier then manager else none
  | _ => none

/-- An outcome about a carrier leaves it on a vehicle only by putting it there. -/
theorem vehicleAfter_eq_some_iff {outcome : ApplyOutcome} {carrier vehicle : Int}
    (about : outcome.carrierOf = some carrier) :
    outcome.vehicleAfter = some vehicle ↔
      ∃ manager assignment, outcome = .carrierAssigned carrier vehicle manager assignment := by
  cases outcome <;> simp_all [carrierOf, vehicleAfter]

end ApplyOutcome

/-- A call made on an index: an event to apply, or a message that never became one. -/
inductive IndexCall where
  | apply (event : DomainEvent)
  | recordDropped
  deriving DecidableEq, Repr

namespace Index

open Relations

@[simp] theorem apply_relations (ix : Index) (event : DomainEvent) :
    (ix.apply event).1.relations = (applyToRelations ix.relations event).1 := rfl

@[simp] theorem apply_outcome (ix : Index) (event : DomainEvent) :
    (ix.apply event).2 = (applyToRelations ix.relations event).2 := rfl

@[simp] theorem apply_stats (ix : Index) (event : DomainEvent) :
    (ix.apply event).1.stats = ix.stats.count (applyToRelations ix.relations event).2 := rfl

theorem applyToRelations_assign (r : Relations) {update : VehicleUpdated} {carrier : Int}
    (h : update.carrier = some carrier) :
    applyToRelations r (.vehicleUpdated update) =
      ((r.putCarrier carrier update.vehicle).1.keepManager carrier (r.owner update.vehicle),
        .carrierAssigned carrier update.vehicle (r.owner update.vehicle)
          (r.putCarrier carrier update.vehicle).2) := by
  simp only [applyToRelations, h, putCarrier_owner]
  rfl

theorem applyToRelations_unassign_vacant (r : Relations) {update : VehicleUpdated}
    (h : update.carrier = none) (vacant : r.lastOccupant update.vehicle = none) :
    applyToRelations r (.vehicleUpdated update) = (r, .nothingToUnassign update.vehicle) := by
  simp only [applyToRelations, h, vacant]

theorem applyToRelations_unassign (r : Relations) {update : VehicleUpdated} {carrier : Int}
    (h : update.carrier = none) (last : r.lastOccupant update.vehicle = some carrier) :
    applyToRelations r (.vehicleUpdated update) =
      (((r.keepManager carrier (r.owner update.vehicle)).removeCarrier carrier).1,
        .carrierUnassigned carrier update.vehicle (r.owner update.vehicle)) := by
  simp only [applyToRelations, h, last]
  rfl

/-- What applying one event can do to the relations, with the outcome that reports it. -/
theorem applyToRelations_cases (r : Relations) (event : DomainEvent) :
    (∃ vehicle manager,
      applyToRelations r event = (r.putOwner vehicle manager, .ownershipRecorded vehicle manager)) ∨
    (∃ carrier vehicle,
      applyToRelations r event =
        ((r.putCarrier carrier vehicle).1.keepManager carrier (r.owner vehicle),
          .carrierAssigned carrier vehicle (r.owner vehicle) (r.putCarrier carrier vehicle).2)) ∨
    (∃ vehicle, r.lastOccupant vehicle = none ∧
      applyToRelations r event = (r, .nothingToUnassign vehicle)) ∨
    (∃ carrier vehicle, r.lastOccupant vehicle = some carrier ∧
      applyToRelations r event =
        (((r.keepManager carrier (r.owner vehicle)).removeCarrier carrier).1,
          .carrierUnassigned carrier vehicle (r.owner vehicle))) ∨
    (∃ user, applyToRelations r event = (r, .identityIgnored user)) := by
  cases event with
  | vehicleCreated created => exact .inl ⟨created.vehicle, created.manager, rfl⟩
  | vehicleUpdated update =>
    cases assigned : update.carrier with
    | some carrier =>
      exact .inr (.inl ⟨carrier, update.vehicle, applyToRelations_assign r assigned⟩)
    | none =>
      cases last : r.lastOccupant update.vehicle with
      | none =>
        exact .inr (.inr (.inl ⟨update.vehicle, last, applyToRelations_unassign_vacant r assigned last⟩))
      | some carrier =>
        exact .inr (.inr (.inr (.inl
          ⟨carrier, update.vehicle, last, applyToRelations_unassign r assigned last⟩)))
  | userCreated created => exact .inr (.inr (.inr (.inr ⟨created.user, rfl⟩)))
  | userUpdated updated => exact .inr (.inr (.inr (.inr ⟨updated.user, rfl⟩)))

theorem applyToRelations_coherent {r : Relations} (h : r.Coherent) (event : DomainEvent) :
    (applyToRelations r event).1.Coherent := by
  rcases applyToRelations_cases r event with
    ⟨vehicle, manager, applied⟩ | ⟨carrier, vehicle, applied⟩ | ⟨vehicle, -, applied⟩ |
      ⟨carrier, vehicle, -, applied⟩ | ⟨user, applied⟩
  · rw [applied]
    exact h.putOwner vehicle manager
  · rw [applied]
    exact (h.putCarrier carrier vehicle).keepManager carrier _
  · rw [applied]
    exact h
  · rw [applied]
    exact (h.keepManager carrier _).removeCarrier carrier
  · rw [applied]
    exact h

/-- An event moves only the carrier its outcome names, to the vehicle the outcome names. -/
theorem vehicleOf_applyToRelations (r : Relations) (event : DomainEvent) (carrier : Int) :
    (applyToRelations r event).1.vehicleOf carrier =
      if (applyToRelations r event).2.carrierOf = some carrier then
        (applyToRelations r event).2.vehicleAfter
      else r.vehicleOf carrier := by
  rcases applyToRelations_cases r event with
    ⟨vehicle, manager, applied⟩ | ⟨moved, vehicle, applied⟩ | ⟨vehicle, -, applied⟩ |
      ⟨moved, vehicle, -, applied⟩ | ⟨user, applied⟩
  all_goals rw [applied]
  · simp [ApplyOutcome.carrierOf]
  · by_cases same : moved = carrier
    · simp [ApplyOutcome.carrierOf, ApplyOutcome.vehicleAfter, same]
    · simp [ApplyOutcome.carrierOf, same, Ne.symm same]
  · simp [ApplyOutcome.carrierOf]
  · by_cases same : moved = carrier
    · simp [ApplyOutcome.carrierOf, ApplyOutcome.vehicleAfter, same]
    · simp [ApplyOutcome.carrierOf, same, Ne.symm same]
  · simp [ApplyOutcome.carrierOf]

/-- An event keeps for a carrier exactly the manager its outcome keeps, and nothing else. -/
theorem backfill_applyToRelations (r : Relations) (event : DomainEvent) (carrier : Int) :
    (applyToRelations r event).1.backfill carrier =
      ((applyToRelations r event).2.managerKeptFor carrier).or (r.backfill carrier) := by
  rcases applyToRelations_cases r event with
    ⟨vehicle, manager, applied⟩ | ⟨moved, vehicle, applied⟩ | ⟨vehicle, -, applied⟩ |
      ⟨moved, vehicle, -, applied⟩ | ⟨user, applied⟩
  all_goals rw [applied]
  · simp [ApplyOutcome.managerKeptFor]
  · by_cases same : moved = carrier
    · simp [ApplyOutcome.managerKeptFor, keepManager_backfill, same]
    · simp [ApplyOutcome.managerKeptFor, keepManager_backfill, same, Ne.symm same]
  · simp [ApplyOutcome.managerKeptFor]
  · by_cases same : moved = carrier
    · simp [ApplyOutcome.managerKeptFor, keepManager_backfill, same]
    · simp [ApplyOutcome.managerKeptFor, keepManager_backfill, same, Ne.symm same]
  · simp [ApplyOutcome.managerKeptFor]

/-- A carrier taken off a vehicle was on it just before, and the manager kept for it is that
vehicle's owner. -/
theorem truthful_of_unassigned {r : Relations} (h : r.Coherent) {event : DomainEvent}
    {carrier vehicle : Int} {manager : Option Int}
    (unassigned : (applyToRelations r event).2 = .carrierUnassigned carrier vehicle manager) :
    r.vehicleOf carrier = some vehicle ∧ manager = r.owner vehicle := by
  rcases applyToRelations_cases r event with
    ⟨_, _, applied⟩ | ⟨_, _, applied⟩ | ⟨_, -, applied⟩ | ⟨taken, from_, last, applied⟩ | ⟨_, applied⟩
  all_goals rw [applied] at unassigned
  · cases unassigned
  · cases unassigned
  · cases unassigned
  · -- Only taking the vehicle's most recent occupant off reports an unassignment.
    cases unassigned
    exact ⟨h.vehicleOf_of_lastOccupant last, rfl⟩
  · cases unassigned

/-- A carrier put on a vehicle is on it afterwards, and the manager reported is that vehicle's
owner. -/
theorem truthful_of_assigned {r : Relations} {event : DomainEvent} {carrier vehicle : Int}
    {manager : Option Int} {assignment : Assignment}
    (assigned : (applyToRelations r event).2 = .carrierAssigned carrier vehicle manager assignment) :
    (applyToRelations r event).1.vehicleOf carrier = some vehicle ∧ manager = r.owner vehicle := by
  have placed := vehicleOf_applyToRelations r event carrier
  rw [assigned] at placed
  simp only [ApplyOutcome.carrierOf, ApplyOutcome.vehicleAfter, if_true] at placed
  refine ⟨placed, ?_⟩
  rcases applyToRelations_cases r event with
    ⟨_, _, applied⟩ | ⟨_, _, applied⟩ | ⟨_, -, applied⟩ | ⟨_, _, -, applied⟩ | ⟨_, applied⟩
  all_goals rw [applied] at assigned
  · cases assigned
  · -- Only a put reports an assignment, with the owner it read.
    cases assigned
    rfl
  · cases assigned
  · cases assigned
  · cases assigned

/-- Makes one call, adding the outcome of an applied event to those so far. -/
def call (state : Index × List ApplyOutcome) : IndexCall → Index × List ApplyOutcome
  | .apply event => ((state.1.apply event).1, state.2 ++ [(state.1.apply event).2])
  | .recordDropped => (state.1.recordDropped, state.2)

/-- A fresh index after a run of calls, with the outcomes of its events in order. -/
def session (calls : List IndexCall) : Index × List ApplyOutcome := calls.foldl call (empty, [])

/-- A fresh index after applying events in order, with their outcomes. -/
def replay (events : List DomainEvent) : Index × List ApplyOutcome := session (events.map .apply)

theorem session_append_singleton (calls : List IndexCall) (next : IndexCall) :
    session (calls ++ [next]) = call (session calls) next := by
  simp [session, List.foldl_append]

theorem replay_append_singleton (events : List DomainEvent) (event : DomainEvent) :
    replay (events ++ [event]) =
      (((replay events).1.apply event).1, (replay events).2 ++ [((replay events).1.apply event).2]) := by
  simp only [replay, List.map_append, List.map_cons, List.map_nil, session_append_singleton]
  rfl

/-- Every index a run of calls reaches keeps its occupants table coherent. -/
theorem session_coherent (calls : List IndexCall) : (session calls).1.relations.Coherent := by
  induction calls using List.reverseRecOn with
  | nil => exact coherent_empty
  | append_singleton calls next ih =>
    rw [session_append_singleton]
    cases next with
    | apply event => exact applyToRelations_coherent ih event
    | recordDropped => exact ih

theorem replay_coherent (events : List DomainEvent) : (replay events).1.relations.Coherent :=
  session_coherent _

/-- A run only adds outcomes after those of its beginning. -/
theorem session_outcomes_grow {before calls : List IndexCall} (begins : before <+: calls) :
    (session before).2 <+: (session calls).2 := by
  obtain ⟨more, rfl⟩ := begins
  induction more using List.reverseRecOn with
  | nil => simp
  | append_singleton more next ih =>
    rw [← List.append_assoc, session_append_singleton]
    cases next with
    | apply event => exact ih.trans (List.prefix_append _ _)
    | recordDropped => exact ih

theorem replay_outcomes_grow (events more : List DomainEvent) :
    (replay events).2 <+: (replay (events ++ more)).2 := by
  apply session_outcomes_grow
  rw [List.map_append]
  exact List.prefix_append _ _

/-- A carrier is on the vehicle of the last outcome about it, when that outcome put it there. -/
theorem vehicleOf_replay (events : List DomainEvent) (carrier : Int) :
    (replay events).1.relations.vehicleOf carrier =
      ((replay events).2.filter (·.carrierOf == some carrier)).getLast?.bind ApplyOutcome.vehicleAfter := by
  induction events using List.reverseRecOn with
  | nil => rfl
  | append_singleton events event ih =>
    rw [replay_append_singleton]
    simp only [apply_relations, apply_outcome, vehicleOf_applyToRelations, List.filter_append,
      List.getLast?_append]
    by_cases about : (applyToRelations (replay events).1.relations event).2.carrierOf = some carrier
    · simp [about]
    · simp [about, ih]

/-- The manager kept for a carrier is the one of the last outcome that kept one. -/
theorem backfill_replay (events : List DomainEvent) (carrier : Int) :
    (replay events).1.relations.backfill carrier =
      ((replay events).2.filterMap (·.managerKeptFor carrier)).getLast? := by
  induction events using List.reverseRecOn with
  | nil => rfl
  | append_singleton events event ih =>
    rw [replay_append_singleton]
    simp only [apply_relations, apply_outcome, backfill_applyToRelations, List.filterMap_append,
      List.getLast?_append, ih]
    cases kept : (applyToRelations (replay events).1.relations event).2.managerKeptFor carrier <;>
      simp only [List.filterMap_cons, List.filterMap_nil, kept] <;> rfl

/-- A carrier's manager is its vehicle's owner when both are known, and otherwise the manager kept
for it. -/
theorem managerFor_some (ix : Index) (carrier : Int) :
    ix.managerFor (some carrier) =
      ((ix.relations.vehicleOf carrier).bind ix.relations.owner).or (ix.relations.backfill carrier) := by
  simp only [managerFor, Option.bind_some]
  cases (ix.relations.vehicleOf carrier).bind ix.relations.owner <;> simp

/-- A carrier is on a vehicle exactly when the last outcome about it put it there. -/
theorem vehicleFor_replay_eq_some_iff (events : List DomainEvent) (carrier vehicle : Int) :
    (replay events).1.vehicleFor (some carrier) = some vehicle ↔
      ∃ manager assignment, ((replay events).2.filter (·.carrierOf == some carrier)).getLast? =
        some (.carrierAssigned carrier vehicle manager assignment) := by
  change (replay events).1.relations.vehicleOf carrier = some vehicle ↔ _
  rw [vehicleOf_replay]
  cases last : ((replay events).2.filter (·.carrierOf == some carrier)).getLast? with
  | none => simp
  | some outcome =>
    have about : outcome.carrierOf = some carrier := by
      simpa using (List.mem_filter.mp (List.mem_of_getLast? last)).2
    simp only [Option.bind_some, Option.some.injEq]
    exact ApplyOutcome.vehicleAfter_eq_some_iff about

/-- A carrier's manager is its vehicle's owner when known, and otherwise the manager of the last
outcome that kept one. -/
theorem managerFor_replay (events : List DomainEvent) (carrier : Int) :
    (replay events).1.managerFor (some carrier) =
      (((replay events).1.vehicleFor (some carrier)).bind (replay events).1.relations.owner).or
        ((replay events).2.filterMap (·.managerKeptFor carrier)).getLast? := by
  rw [managerFor_some, backfill_replay]
  rfl

/-- Once an outcome has kept a manager for a carrier, the carrier resolves to a manager after
every continuation of the run. -/
theorem managerFor_replay_isSome_of_kept (events more : List DomainEvent) (carrier : Int)
    (kept : ∃ outcome ∈ (replay events).2, (outcome.managerKeptFor carrier).isSome) :
    ((replay (events ++ more)).1.managerFor (some carrier)).isSome := by
  obtain ⟨outcome, listed, found⟩ := kept
  have later := (replay_outcomes_grow events more).subset listed
  obtain ⟨manager, keeps⟩ := Option.isSome_iff_exists.mp found
  -- The kept manager stays among the managers the longer run kept, so the last of them exists.
  have nonempty : ((replay (events ++ more)).2.filterMap (·.managerKeptFor carrier)) ≠ [] :=
    List.ne_nil_of_mem (List.mem_filterMap.mpr ⟨outcome, later, keeps⟩)
  obtain ⟨last, isLast⟩ := Option.isSome_iff_exists.mp (List.getLast?_isSome.mpr nonempty)
  rw [managerFor_replay, isLast]
  cases ((replay (events ++ more)).1.vehicleFor (some carrier)).bind
    (replay (events ++ more)).1.relations.owner <;> simp

/-- After any run of events, a carrier's vehicle and manager are read off the last outcomes about
it, and a carrier once given a manager keeps resolving to one. -/
theorem resolution_follows_outcome_history (events : List DomainEvent) (carrier : Int) :
    let ix := (replay events).1
    let outcomes := (replay events).2
    (∀ vehicle, ix.vehicleFor (some carrier) = some vehicle ↔
      ∃ manager assignment, (outcomes.filter (·.carrierOf == some carrier)).getLast? =
        some (.carrierAssigned carrier vehicle manager assignment)) ∧
    ix.managerFor (some carrier) =
      ((ix.vehicleFor (some carrier)).bind ix.relations.owner).or
        (outcomes.filterMap (·.managerKeptFor carrier)).getLast? ∧
    (∀ event vehicle manager,
      ((ix.apply event).2 = .carrierUnassigned carrier vehicle manager →
        ix.vehicleFor (some carrier) = some vehicle ∧ manager = ix.relations.owner vehicle) ∧
      (∀ assignment, (ix.apply event).2 = .carrierAssigned carrier vehicle manager assignment →
        (ix.apply event).1.vehicleFor (some carrier) = some vehicle ∧
          manager = ix.relations.owner vehicle)) ∧
    (∀ more, (∃ outcome ∈ outcomes, (outcome.managerKeptFor carrier).isSome) →
      ((replay (events ++ more)).1.managerFor (some carrier)).isSome) := by
  intro ix outcomes
  refine ⟨vehicleFor_replay_eq_some_iff events carrier, managerFor_replay events carrier, ?_,
    fun more => managerFor_replay_isSome_of_kept events more carrier⟩
  intro event vehicle manager
  constructor
  · intro unassigned
    exact truthful_of_unassigned (replay_coherent events) unassigned
  · intro assignment assigned
    exact truthful_of_assigned assigned

end Index

end FleetIssues.Fleet
