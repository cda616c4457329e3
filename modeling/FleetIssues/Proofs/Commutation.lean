import FleetIssues.Proofs.Redelivery
/-! Reordering events. -/

namespace FleetIssues.Fleet

namespace DomainEvent

/-- The vehicle a vehicle event is about; none for a user event. -/
def vehicle? : DomainEvent → Option Int
  | .vehicleCreated created => some created.vehicle
  | .vehicleUpdated update => some update.vehicle
  | _ => none

/-- The carrier an event touches in a state: the one an assignment puts on its vehicle, or the
most recent carrier of the vehicle an unassignment names. -/
def touched (r : Relations) : DomainEvent → Option Int
  | .vehicleUpdated update => update.carrier.or (r.lastOccupant update.vehicle)
  | _ => none

end DomainEvent

namespace ApplyOutcome

/-- The owner an outcome records for a vehicle. -/
def ownerRecordedFor (vehicle : Int) : ApplyOutcome → Option Int
  | .ownershipRecorded v manager => if v = vehicle then some manager else none
  | _ => none

/-- What an outcome writes: the outcome less how an assignment found its vehicle. -/
def writes : ApplyOutcome → ApplyOutcome
  | .carrierAssigned carrier vehicle manager _ => .carrierAssigned carrier vehicle manager .new
  | outcome => outcome

@[simp] theorem carrierOf_writes (o : ApplyOutcome) : o.writes.carrierOf = o.carrierOf := by
  cases o <;> rfl

@[simp] theorem vehicleAfter_writes (o : ApplyOutcome) : o.writes.vehicleAfter = o.vehicleAfter := by
  cases o <;> rfl

@[simp] theorem managerKeptFor_writes (o : ApplyOutcome) (carrier : Int) :
    o.writes.managerKeptFor carrier = o.managerKeptFor carrier := by
  cases o <;> rfl

@[simp] theorem ownerRecordedFor_writes (o : ApplyOutcome) (vehicle : Int) :
    o.writes.ownerRecordedFor vehicle = o.ownerRecordedFor vehicle := by
  cases o <;> rfl

/-- An outcome keeps a manager only for the carrier it reports. -/
theorem managerKeptFor_eq_none {o : ApplyOutcome} {carrier : Int} (other : o.carrierOf ≠ some carrier) :
    o.managerKeptFor carrier = none := by
  cases o <;> simp_all [carrierOf, managerKeptFor]

/-- Outcomes that write the same agree on everything a table takes from them. -/
theorem tables_eq_of_writes {o o' : ApplyOutcome} (same : o.writes = o'.writes) :
    o.carrierOf = o'.carrierOf ∧ o.vehicleAfter = o'.vehicleAfter ∧
      (∀ c, o.managerKeptFor c = o'.managerKeptFor c) ∧ ∀ v, o.ownerRecordedFor v = o'.ownerRecordedFor v := by
  refine ⟨?_, ?_, fun c => ?_, fun v => ?_⟩
  · simpa using congrArg carrierOf same
  · simpa using congrArg vehicleAfter same
  · simpa using congrArg (managerKeptFor c) same
  · simpa using congrArg (ownerRecordedFor v) same

/-- The carriers of a vehicle with an outcome laid over them: the carrier it reports struck out,
and listed last when the outcome leaves it on this vehicle. -/
def layCarriers (o : ApplyOutcome) (vehicle : Int) (carriers : List Int) : List Int :=
  carriers.filter (fun c => o.carrierOf.all (· != c)) ++
    if o.vehicleAfter = some vehicle then o.carrierOf.toList else []

/-- An outcome that reports no carrier leaves every list as it is. -/
theorem layCarriers_of_carrierOf_none {o : ApplyOutcome} (unreported : o.carrierOf = none) (vehicle : Int)
    (carriers : List Int) : o.layCarriers vehicle carriers = carriers := by
  have staying : o.vehicleAfter = none := by
    cases o <;> simp_all [carrierOf, vehicleAfter]
  unfold layCarriers
  rw [unreported, staying]
  simp only [Option.all_none, reduceCtorEq, if_false, List.append_nil]
  exact List.filter_eq_self.mpr fun _ _ => rfl

/-- Two outcomes write apart: they report different carriers, leave no carrier on a common
vehicle, and record no owner for a common vehicle. -/
structure Apart (o₁ o₂ : ApplyOutcome) : Prop where
  carriers : ∀ c, o₁.carrierOf = some c → o₂.carrierOf ≠ some c
  vehicles : ∀ v, o₁.vehicleAfter = some v → o₂.vehicleAfter ≠ some v
  owners : ∀ v, o₁.ownerRecordedFor v = none ∨ o₂.ownerRecordedFor v = none

variable {o₁ o₂ : ApplyOutcome}

theorem Apart.symm (apart : Apart o₁ o₂) : Apart o₂ o₁ where
  carriers c second first := apart.carriers c first second
  vehicles v second first := apart.vehicles v first second
  owners v := (apart.owners v).symm

/-- Outcomes apart keep managers for different carriers. -/
theorem Apart.managerKeptFor (apart : Apart o₁ o₂) (c : Int) :
    o₁.managerKeptFor c = none ∨ o₂.managerKeptFor c = none := by
  by_cases first : o₁.carrierOf = some c
  · exact .inr (managerKeptFor_eq_none (apart.carriers c first))
  · exact .inl (managerKeptFor_eq_none first)

/-- Outcomes apart move different carriers, so where a carrier ends up does not depend on their
order. -/
theorem Apart.vehicle_comm (apart : Apart o₁ o₂) (c : Int) (base : Option Int) :
    (if o₂.carrierOf = some c then o₂.vehicleAfter
      else if o₁.carrierOf = some c then o₁.vehicleAfter else base) =
      if o₁.carrierOf = some c then o₁.vehicleAfter
      else if o₂.carrierOf = some c then o₂.vehicleAfter else base := by
  by_cases first : o₁.carrierOf = some c
  · simp [first, apart.carriers c first]
  · simp [first]

/-- An outcome keeps the carrier that an outcome apart from it lists. -/
theorem Apart.keeps_listed (apart : Apart o₁ o₂) {vehicle c : Int}
    (listed : c ∈ if o₁.vehicleAfter = some vehicle then o₁.carrierOf.toList else []) :
    o₂.carrierOf.all (· != c) = true := by
  split at listed
  · have reported : o₁.carrierOf = some c := by simpa using listed
    cases other : o₂.carrierOf with
    | none => rfl
    | some c' =>
      have differs : c' ≠ c := fun same => apart.carriers c reported (same ▸ other)
      simpa using differs
  · simp at listed

/-- Outcomes apart strike different carriers and list theirs on different vehicles, so the
carriers of a vehicle do not depend on their order. -/
theorem Apart.layCarriers_comm (apart : Apart o₁ o₂) (vehicle : Int) (carriers : List Int) :
    o₂.layCarriers vehicle (o₁.layCarriers vehicle carriers) =
      o₁.layCarriers vehicle (o₂.layCarriers vehicle carriers) := by
  -- At most one of the two lists its carrier on this vehicle.
  have single : (if o₁.vehicleAfter = some vehicle then o₁.carrierOf.toList else []) = [] ∨
      (if o₂.vehicleAfter = some vehicle then o₂.carrierOf.toList else []) = [] := by
    by_cases first : o₁.vehicleAfter = some vehicle
    · simp [apart.vehicles vehicle first]
    · simp [first]
  unfold layCarriers
  rw [List.filter_append, List.filter_append, List.filter_eq_self.mpr fun _ => apart.keeps_listed,
    List.filter_eq_self.mpr fun _ => apart.symm.keeps_listed]
  simp only [List.filter_filter, Bool.and_comm, List.append_assoc]
  rcases single with empty | empty <;> simp [empty]

end ApplyOutcome

/-- Laying either of two entries over a third gives the same when one of them is empty. -/
theorem or_or_comm_of_none {a b : Option Int} (empty : a = none ∨ b = none) (base : Option Int) :
    a.or (b.or base) = b.or (a.or base) := by
  rcases empty with rfl | rfl <;> simp

namespace Relations

variable {r : Relations}

/-- A coherent state holds an entry for a vehicle exactly when some carrier is on it. -/
theorem Coherent.occupants_eq (h : r.Coherent) (vehicle : Int) :
    r.occupants vehicle = if r.carriersOn vehicle = [] then none else some (r.carriersOn vehicle) := by
  cases found : r.occupants vehicle with
  | none => simp [carriersOn, found]
  | some carriers =>
    have listed : carriers ≠ [] := fun empty => h.ne_nil vehicle (empty ▸ found)
    simp [carriersOn, found, listed]

/-- Coherent states with the same carriers on every vehicle have the same occupants. -/
theorem Coherent.occupants_eq_of_carriersOn {s : Relations} (hr : r.Coherent) (hs : s.Coherent)
    (same : ∀ vehicle, r.carriersOn vehicle = s.carriersOn vehicle) : r.occupants = s.occupants := by
  funext vehicle
  rw [hr.occupants_eq, hs.occupants_eq, same]

end Relations

namespace Index

open Relations

variable {r : Relations}

/-- An event records an owner only by its outcome. -/
theorem owner_applyToRelations (r : Relations) (event : DomainEvent) (vehicle : Int) :
    (applyToRelations r event).1.owner vehicle =
      ((applyToRelations r event).2.ownerRecordedFor vehicle).or (r.owner vehicle) := by
  rcases applyToRelations_cases r event with
    ⟨recorded, manager, applied⟩ | ⟨carrier, on, applied⟩ | ⟨on, -, applied⟩ |
      ⟨carrier, on, -, applied⟩ | ⟨user, applied⟩
  all_goals rw [applied]
  · by_cases same : vehicle = recorded
    · simp [ApplyOutcome.ownerRecordedFor, same]
    · simp [ApplyOutcome.ownerRecordedFor, same, Ne.symm same]
  all_goals simp [ApplyOutcome.ownerRecordedFor]

/-- On a coherent state, an event strikes the carrier its outcome reports from every list, and
lists it last on the vehicle its outcome leaves it on. -/
theorem carriersOn_applyToRelations (h : r.Coherent) (event : DomainEvent) (vehicle : Int) :
    (applyToRelations r event).1.carriersOn vehicle =
      (applyToRelations r event).2.layCarriers vehicle (r.carriersOn vehicle) := by
  rcases applyToRelations_cases r event with
    ⟨recorded, manager, applied⟩ | ⟨carrier, on, applied⟩ | ⟨on, -, applied⟩ |
      ⟨carrier, on, -, applied⟩ | ⟨user, applied⟩
  all_goals rw [applied]
  · exact (ApplyOutcome.layCarriers_of_carrierOf_none rfl vehicle _).symm
  · rw [keepManager_carriersOn, h.carriersOn_putCarrier, ApplyOutcome.layCarriers]
    by_cases same : vehicle = on
    · simp [ApplyOutcome.carrierOf, ApplyOutcome.vehicleAfter, same, bne_comm]
    · simp [ApplyOutcome.carrierOf, ApplyOutcome.vehicleAfter, same, Ne.symm same, bne_comm]
  · exact (ApplyOutcome.layCarriers_of_carrierOf_none rfl vehicle _).symm
  · rw [(h.keepManager carrier _).carriersOn_removeCarrier, keepManager_carriersOn, ApplyOutcome.layCarriers]
    simp [ApplyOutcome.carrierOf, ApplyOutcome.vehicleAfter, bne_comm]
  · exact (ApplyOutcome.layCarriers_of_carrierOf_none rfl vehicle _).symm

/-- The carrier an outcome reports is the one its event touches. -/
theorem carrierOf_applyToRelations (r : Relations) (event : DomainEvent) :
    (applyToRelations r event).2.carrierOf = event.touched r := by
  cases event with
  | vehicleUpdated update =>
    cases assigned : update.carrier with
    | some carrier => simp [applyToRelations_assign r assigned, ApplyOutcome.carrierOf,
        DomainEvent.touched, assigned]
    | none =>
      cases last : r.lastOccupant update.vehicle with
      | none => simp [applyToRelations_unassign_vacant r assigned last, ApplyOutcome.carrierOf,
          DomainEvent.touched, assigned, last]
      | some carrier => simp [applyToRelations_unassign r assigned last, ApplyOutcome.carrierOf,
          DomainEvent.touched, assigned, last]
  | _ => rfl

/-- An outcome leaves a carrier only on the vehicle its event names. -/
theorem vehicle?_of_vehicleAfter (r : Relations) (event : DomainEvent) {vehicle : Int}
    (after : (applyToRelations r event).2.vehicleAfter = some vehicle) : event.vehicle? = some vehicle := by
  cases event with
  | vehicleUpdated update =>
    cases assigned : update.carrier with
    | some carrier =>
      simpa [applyToRelations_assign r assigned, ApplyOutcome.vehicleAfter, DomainEvent.vehicle?] using after
    | none =>
      -- An unassignment leaves no carrier on a vehicle.
      cases last : r.lastOccupant update.vehicle with
      | none => simp [applyToRelations_unassign_vacant r assigned last, ApplyOutcome.vehicleAfter] at after
      | some carrier => simp [applyToRelations_unassign r assigned last, ApplyOutcome.vehicleAfter] at after
  | _ => simp [applyToRelations, ApplyOutcome.vehicleAfter] at after

/-- An outcome records an owner only for the vehicle its event names. -/
theorem vehicle?_of_ownerRecordedFor (r : Relations) (event : DomainEvent) {vehicle : Int}
    (recorded : (applyToRelations r event).2.ownerRecordedFor vehicle ≠ none) :
    event.vehicle? = some vehicle := by
  cases event with
  | vehicleCreated created =>
    by_cases same : created.vehicle = vehicle
    · simp [DomainEvent.vehicle?, same]
    · simp [applyToRelations, ApplyOutcome.ownerRecordedFor, same] at recorded
  | vehicleUpdated update =>
    -- An update records no owner.
    cases assigned : update.carrier with
    | some carrier =>
      simp [applyToRelations_assign r assigned, ApplyOutcome.ownerRecordedFor] at recorded
    | none =>
      cases last : r.lastOccupant update.vehicle with
      | none => simp [applyToRelations_unassign_vacant r assigned last, ApplyOutcome.ownerRecordedFor] at recorded
      | some carrier => simp [applyToRelations_unassign r assigned last, ApplyOutcome.ownerRecordedFor] at recorded
  | _ => simp [applyToRelations, ApplyOutcome.ownerRecordedFor] at recorded

/-- What an event writes depends on the state only through the carrier it touches and the owner
of its vehicle. -/
theorem writes_applyToRelations_congr {r s : Relations} {event : DomainEvent}
    (touched : event.touched s = event.touched r) (owner : ∀ v ∈ event.vehicle?, s.owner v = r.owner v) :
    (applyToRelations s event).2.writes = (applyToRelations r event).2.writes := by
  cases event with
  | vehicleCreated created => rfl
  | vehicleUpdated update =>
    have sameOwner : s.owner update.vehicle = r.owner update.vehicle := owner _ rfl
    cases assigned : update.carrier with
    | some carrier =>
      simp [applyToRelations_assign _ assigned, ApplyOutcome.writes, sameOwner]
    | none =>
      have sameLast : s.lastOccupant update.vehicle = r.lastOccupant update.vehicle := by
        simpa [DomainEvent.touched, assigned] using touched
      cases last : r.lastOccupant update.vehicle with
      | none =>
        rw [applyToRelations_unassign_vacant r assigned last,
          applyToRelations_unassign_vacant s assigned (sameLast.trans last)]
      | some carrier =>
        rw [applyToRelations_unassign r assigned last,
          applyToRelations_unassign s assigned (sameLast.trans last), sameOwner]
  | userCreated created => rfl
  | userUpdated updated => rfl

/-- A list less a carrier that is not its last keeps its last. -/
theorem getLast?_filter_of_last {carriers : List Int} {p : Int → Bool}
    (keeps : ∀ c, carriers.getLast? = some c → p c = true) : (carriers.filter p).getLast? = carriers.getLast? := by
  rcases List.eq_nil_or_concat carriers with empty | ⟨front, last, listed⟩
  · simp [empty]
  · rw [List.concat_eq_append] at listed
    subst listed
    have kept := keeps last (by simp)
    simp [List.filter_append, kept]

variable {first second : DomainEvent} {firstVehicle secondVehicle : Int}

/-- An event on one vehicle keeps the owner of another. -/
theorem owner_apply_other (onFirst : first.vehicle? = some firstVehicle) (differ : firstVehicle ≠ secondVehicle) :
    (applyToRelations r first).1.owner secondVehicle = r.owner secondVehicle := by
  rw [owner_applyToRelations]
  have unrecorded : (applyToRelations r first).2.ownerRecordedFor secondVehicle = none := by
    by_contra recorded
    have named := vehicle?_of_ownerRecordedFor r first recorded
    rw [onFirst] at named
    exact differ (Option.some.inj named)
  rw [unrecorded, Option.none_or]

/-- An event on one vehicle leaves alone the carrier another event touches, when it touches a
different carrier. -/
theorem touched_apply_other (h : r.Coherent) (onFirst : first.vehicle? = some firstVehicle)
    (onSecond : second.vehicle? = some secondVehicle) (differ : firstVehicle ≠ secondVehicle)
    (disjoint : ∀ c, first.touched r = some c → second.touched r ≠ some c) :
    second.touched (applyToRelations r first).1 = second.touched r := by
  cases second with
  | vehicleUpdated update =>
    cases assigned : update.carrier with
    | some carrier => simp [DomainEvent.touched, assigned]
    | none =>
      -- The second event reads the most recent carrier of its vehicle, which the first event
      -- neither lists there nor takes off.
      have notAfter : (applyToRelations r first).2.vehicleAfter ≠ some update.vehicle := by
        intro after
        have named := vehicle?_of_vehicleAfter r first after
        rw [onFirst] at named
        simp only [DomainEvent.vehicle?, Option.some.injEq] at onSecond
        exact differ ((Option.some.inj named).trans onSecond)
      have keeps : ∀ c, (r.carriersOn update.vehicle).getLast? = some c →
          (applyToRelations r first).2.carrierOf.all (· != c) = true := by
        intro c last
        rw [carrierOf_applyToRelations]
        have touchedSecond : (DomainEvent.vehicleUpdated update).touched r = some c := by
          simp [DomainEvent.touched, assigned, lastOccupant_eq_getLast?, last]
        cases touchedFirst : first.touched r with
        | none => simp
        | some c' =>
          have differs : c' ≠ c := fun same => disjoint c' touchedFirst (same ▸ touchedSecond)
          simpa using differs
      simp only [DomainEvent.touched, assigned, Option.none_or, lastOccupant_eq_getLast?,
        carriersOn_applyToRelations h, ApplyOutcome.layCarriers, if_neg notAfter, List.append_nil]
      exact getLast?_filter_of_last keeps
  | _ => rfl

/-- After an event on another vehicle that touches another carrier, an event writes what it
writes on the state before. -/
theorem writes_apply_other (h : r.Coherent) (onFirst : first.vehicle? = some firstVehicle)
    (onSecond : second.vehicle? = some secondVehicle) (differ : firstVehicle ≠ secondVehicle)
    (disjoint : ∀ c, first.touched r = some c → second.touched r ≠ some c) :
    (applyToRelations (applyToRelations r first).1 second).2.writes = (applyToRelations r second).2.writes := by
  refine writes_applyToRelations_congr (touched_apply_other h onFirst onSecond differ disjoint) ?_
  intro vehicle named
  have named' : secondVehicle = vehicle := Option.some.inj (onSecond.symm.trans named)
  exact owner_apply_other onFirst (named' ▸ differ)

/-- Events on different vehicles that touch different carriers write apart. -/
theorem apart_of_independent (onFirst : first.vehicle? = some firstVehicle)
    (onSecond : second.vehicle? = some secondVehicle) (differ : firstVehicle ≠ secondVehicle)
    (disjoint : ∀ c, first.touched r = some c → second.touched r ≠ some c) :
    ApplyOutcome.Apart (applyToRelations r first).2 (applyToRelations r second).2 where
  carriers c := by
    rw [carrierOf_applyToRelations, carrierOf_applyToRelations]
    exact disjoint c
  vehicles vehicle leftFirst leftSecond := by
    have firstOn := Option.some.inj (onFirst.symm.trans (vehicle?_of_vehicleAfter r first leftFirst))
    have secondOn := Option.some.inj (onSecond.symm.trans (vehicle?_of_vehicleAfter r second leftSecond))
    exact differ (firstOn.trans secondOn.symm)
  owners vehicle := by
    by_cases recorded : (applyToRelations r first).2.ownerRecordedFor vehicle = none
    · exact .inl recorded
    · right
      by_contra recordedSecond
      have firstOn := Option.some.inj (onFirst.symm.trans (vehicle?_of_ownerRecordedFor r first recorded))
      have secondOn :=
        Option.some.inj (onSecond.symm.trans (vehicle?_of_ownerRecordedFor r second recordedSecond))
      exact differ (firstOn.trans secondOn.symm)

/-- On a coherent state, two events on different vehicles that touch different carriers give the
same relations in either order. -/
theorem applyToRelations_comm (h : r.Coherent) (onFirst : first.vehicle? = some firstVehicle)
    (onSecond : second.vehicle? = some secondVehicle) (differ : firstVehicle ≠ secondVehicle)
    (disjoint : ∀ c, first.touched r = some c → second.touched r ≠ some c) :
    (applyToRelations (applyToRelations r first).1 second).1 =
      (applyToRelations (applyToRelations r second).1 first).1 := by
  have apart := apart_of_independent onFirst onSecond differ disjoint
  -- Each event writes after the other what it writes on r, so every table is r's with the two
  -- outcomes laid over it, in one order or the other.
  obtain ⟨carrier₂, after₂, kept₂, recorded₂⟩ :=
    ApplyOutcome.tables_eq_of_writes (writes_apply_other h onFirst onSecond differ disjoint)
  obtain ⟨carrier₁, after₁, kept₁, recorded₁⟩ :=
    ApplyOutcome.tables_eq_of_writes (writes_apply_other h onSecond onFirst (Ne.symm differ)
      fun c touchedSecond touchedFirst => disjoint c touchedFirst touchedSecond)
  apply Relations.ext
  · funext vehicle
    simp only [owner_applyToRelations, recorded₁, recorded₂]
    exact or_or_comm_of_none (apart.owners vehicle).symm _
  · funext carrier
    simp only [vehicleOf_applyToRelations, carrier₁, carrier₂, after₁, after₂]
    exact apart.vehicle_comm carrier _
  · funext carrier
    simp only [backfill_applyToRelations, kept₁, kept₂]
    exact or_or_comm_of_none (apart.managerKeptFor carrier).symm _
  · -- The occupants follow from the carriers on each vehicle, which coherence keeps in step.
    have firstThen := applyToRelations_coherent (applyToRelations_coherent h first) second
    have secondThen := applyToRelations_coherent (applyToRelations_coherent h second) first
    refine firstThen.occupants_eq_of_carriersOn secondThen fun vehicle => ?_
    simp only [carriersOn_applyToRelations (applyToRelations_coherent h first),
      carriersOn_applyToRelations (applyToRelations_coherent h second), carriersOn_applyToRelations h,
      ApplyOutcome.layCarriers, carrier₁, carrier₂, after₁, after₂]
    exact apart.layCarriers_comm vehicle _

/-- An event about no vehicle leaves the relations alone. -/
theorem applyToRelations_of_vehicle?_none (r : Relations) {event : DomainEvent}
    (unnamed : event.vehicle? = none) : (applyToRelations r event).1 = r := by
  cases event with
  | userCreated created => rfl
  | userUpdated updated => rfl
  | _ => simp [DomainEvent.vehicle?] at unnamed

/-- A creation and an assignment of the same vehicle, either way round, differ only in the manager
kept for the carrier: with the creation first, the new owner is kept. Either way the carrier is on
a vehicle whose owner is known. -/
theorem creation_assignment_swap (r : Relations) {created : VehicleCreated} {update : VehicleUpdated}
    {carrier : Int} (same : update.vehicle = created.vehicle) (assigned : update.carrier = some carrier) :
    let createdFirst :=
      (applyToRelations (applyToRelations r (.vehicleCreated created)).1 (.vehicleUpdated update)).1
    let assignedFirst :=
      (applyToRelations (applyToRelations r (.vehicleUpdated update)).1 (.vehicleCreated created)).1
    createdFirst = { assignedFirst with backfill := assignedFirst.backfill.set carrier (some created.manager) } ∧
      (assignedFirst.vehicleOf carrier).bind assignedFirst.owner = some created.manager := by
  dsimp only
  rw [applyToRelations_assign _ assigned, applyToRelations_assign _ assigned, same]
  simp only [applyToRelations]
  -- Putting a carrier on a vehicle reads no owner, so it commutes with recording one.
  have reordered : (r.putOwner created.vehicle created.manager).putCarrier carrier created.vehicle =
      ((r.putCarrier carrier created.vehicle).1.putOwner created.vehicle created.manager,
        (r.putCarrier carrier created.vehicle).2) := rfl
  constructor
  · apply Relations.ext <;> simp [reordered, keepManager_backfill]
  · simp

/-- Keeping another manager for a carrier on a vehicle with a known owner changes no carrier's
manager: the owner is the answer for that carrier. -/
theorem managerFor_of_backfill_set {ix ix' : Index} {carrier owner : Int} {manager : Option Int}
    (tables : ix.relations = { ix'.relations with backfill := ix'.relations.backfill.set carrier manager })
    (owned : (ix'.relations.vehicleOf carrier).bind ix'.relations.owner = some owner) (other : Int) :
    ix.managerFor (some other) = ix'.managerFor (some other) := by
  rw [managerFor_some, managerFor_some, tables]
  by_cases same : other = carrier
  · subst same
    simp [owned]
  · simp [same]

/-- Events the relations cannot order commute on every reachable state, up to the manager kept for
the carrier of a creation and an assignment of one vehicle. -/
theorem reordering_independent_events_is_invisible (events : List DomainEvent) :
    let ix := (replay events).1
    let both := fun first second : DomainEvent => ((ix.apply first).1.apply second).1
    (∀ (created : VehicleCreated) (update : VehicleUpdated) (carrier : Int),
      update.vehicle = created.vehicle → update.carrier = some carrier →
      let createdFirst := both (.vehicleCreated created) (.vehicleUpdated update)
      let assignedFirst := both (.vehicleUpdated update) (.vehicleCreated created)
      createdFirst.relations = { assignedFirst.relations with
          backfill := assignedFirst.relations.backfill.set carrier (some created.manager) } ∧
        ∀ other, createdFirst.managerFor (some other) = assignedFirst.managerFor (some other) ∧
          createdFirst.vehicleFor (some other) = assignedFirst.vehicleFor (some other) ∧
          createdFirst.hasVehicle other = assignedFirst.hasVehicle other) ∧
    (∀ (first second : DomainEvent) (firstVehicle secondVehicle : Int),
      first.vehicle? = some firstVehicle → second.vehicle? = some secondVehicle →
      firstVehicle ≠ secondVehicle →
      (∀ c, first.touched ix.relations = some c → second.touched ix.relations ≠ some c) →
      (both first second).relations = (both second first).relations) ∧
    ∀ user event : DomainEvent, user.vehicle? = none →
      (both user event).relations = (both event user).relations := by
  intro ix both
  have h : ix.relations.Coherent := replay_coherent events
  refine ⟨fun created update carrier same assigned => ?_,
    fun first second firstVehicle secondVehicle onFirst onSecond differ disjoint =>
      applyToRelations_comm h onFirst onSecond differ disjoint,
    fun user event unnamed => ?_⟩
  · obtain ⟨tables, owned⟩ := creation_assignment_swap ix.relations same assigned
    refine ⟨tables, fun other => ⟨managerFor_of_backfill_set tables owned other, ?_, ?_⟩⟩
    · simp only [vehicleFor, both, apply_relations, tables]
    · simp only [hasVehicle, Relations.hasVehicle, both, apply_relations, tables]
  · simp only [both, apply_relations, applyToRelations_of_vehicle?_none _ unnamed]

/-- Taking carrier 1 off vehicle 5 and putting carrier 2 on vehicle 6 commute. -/
theorem unassignment_assignment_commute :
    let ix := (replay [.vehicleCreated ⟨5, 10, "", "", "", .active⟩,
      .vehicleUpdated ⟨5, some 1, none, none, none, none⟩]).1
    let unassign := DomainEvent.vehicleUpdated ⟨5, none, none, none, none, none⟩
    let assign := DomainEvent.vehicleUpdated ⟨6, some 2, none, none, none, none⟩
    ((ix.apply unassign).1.apply assign).1.relations = ((ix.apply assign).1.apply unassign).1.relations :=
  (reordering_independent_events_is_invisible _).2.1 _ _ 5 6 rfl rfl (by decide) fun c touchedFirst => by
    have last : DomainEvent.touched (replay [.vehicleCreated ⟨5, 10, "", "", "", .active⟩,
        .vehicleUpdated ⟨5, some 1, none, none, none, none⟩]).1.relations
          (.vehicleUpdated ⟨5, none, none, none, none, none⟩) = some 1 := by decide
    rw [last, Option.some.injEq] at touchedFirst
    subst touchedFirst
    decide

end Index

end FleetIssues.Fleet
