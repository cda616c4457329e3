import FleetIssues.Proofs.Resolution
/-! Redelivery of an event. -/

namespace FleetIssues.Fleet

namespace Relations

/-- Two relations are equal when their four tables are. -/
theorem ext {r s : Relations} (owner : r.owner = s.owner) (vehicleOf : r.vehicleOf = s.vehicleOf)
    (backfill : r.backfill = s.backfill) (occupants : r.occupants = s.occupants) : r = s := by
  cases r
  cases s
  simp only at owner vehicleOf backfill occupants
  subst owner vehicleOf backfill occupants
  rfl

/-- Two different carriers are on a vehicle. -/
def Shared (r : Relations) (vehicle : Int) : Prop :=
  ∃ first second, first ≠ second ∧ r.vehicleOf first = some vehicle ∧ r.vehicleOf second = some vehicle

variable {r : Relations}

/-- A vehicle with a carrier on it is shared exactly when another carrier is on it too. -/
theorem shared_iff {vehicle carrier : Int} (on : r.vehicleOf carrier = some vehicle) :
    r.Shared vehicle ↔ ∃ other, other ≠ carrier ∧ r.vehicleOf other = some vehicle := by
  constructor
  · rintro ⟨first, second, distinct, onFirst, onSecond⟩
    by_cases same : first = carrier
    · exact ⟨second, fun eq => distinct (same.trans eq.symm), onSecond⟩
    · exact ⟨first, same, onFirst⟩
  · rintro ⟨other, distinct, onOther⟩
    exact ⟨other, carrier, distinct, onOther, on⟩

theorem keepManager_keepManager (r : Relations) (carrier : Int) (manager : Option Int) :
    (r.keepManager carrier manager).keepManager carrier manager = r.keepManager carrier manager := by
  cases manager with
  | some manager => simp [keepManager, putBackfill]
  | none => rfl

/-- Putting a carrier again on the vehicle that lists it last changes nothing. -/
theorem putCarrier_of_listed_last {carrier vehicle : Int} {others : List Int}
    (on : r.vehicleOf carrier = some vehicle)
    (listed : r.occupants vehicle = some (others ++ [carrier])) (once : carrier ∉ others) :
    (r.putCarrier carrier vehicle).1 = r := by
  have kept : others.filter (· != carrier) = others := by
    rw [List.filter_eq_self]
    intro other member
    have different : other ≠ carrier := fun same => once (same ▸ member)
    simpa using different
  apply ext (putCarrier_owner r carrier vehicle) _ (putCarrier_backfill r carrier vehicle)
  · funext k
    by_cases same : k = vehicle
    · subst same
      rw [putCarrier_occupants_self, listed]
      simp [List.filter_append, kept]
    · have away : r.vehicleOf carrier ≠ some k := by
        rw [on]
        simpa using Ne.symm same
      rw [putCarrier_occupants_other r same]
      simp [away]
  · rw [putCarrier_vehicleOf]
    exact Table.set_of_eq on

/-- Taking a vehicle's most recent carrier off leaves it without one exactly when it was not
shared. -/
theorem Coherent.lastOccupant_unassigned_eq_none_iff (h : r.Coherent) {vehicle carrier : Int}
    (last : r.lastOccupant vehicle = some carrier) (manager : Option Int) :
    ((r.keepManager carrier manager).removeCarrier carrier).1.lastOccupant vehicle = none ↔
      ¬ r.Shared vehicle := by
  have left := (h.keepManager carrier manager).removeCarrier carrier
  rw [left.lastOccupant_eq_none_iff, shared_iff (h.vehicleOf_of_lastOccupant last)]
  simp only [removeCarrier_vehicleOf, keepManager_vehicleOf, not_exists, not_and]
  constructor
  · intro vacant other distinct
    simpa [distinct] using vacant other
  · intro vacant other
    by_cases same : other = carrier
    · simp [same]
    · simpa [same] using vacant other same

end Relations

namespace Index

open Relations

/-- Putting a carrier on a vehicle a second time changes nothing. -/
theorem applyToRelations_assign_twice (r : Relations) {update : VehicleUpdated} {carrier : Int}
    (assigned : update.carrier = some carrier) :
    (applyToRelations (applyToRelations r (.vehicleUpdated update)).1 (.vehicleUpdated update)).1 =
      (applyToRelations r (.vehicleUpdated update)).1 := by
  have listed := putCarrier_occupants_self r carrier update.vehicle
  have again :
      (((r.putCarrier carrier update.vehicle).1.keepManager carrier (r.owner update.vehicle)).putCarrier
        carrier update.vehicle).1 =
      (r.putCarrier carrier update.vehicle).1.keepManager carrier (r.owner update.vehicle) :=
    putCarrier_of_listed_last (by simp) (by simpa using listed) (by simp)
  rw [applyToRelations_assign r assigned, applyToRelations_assign _ assigned, again]
  simp [keepManager_keepManager]

/-- Taking a vehicle's most recent carrier off a second time changes nothing exactly when no
other carrier was on the vehicle; otherwise the second delivery takes off another one. -/
theorem applyToRelations_unassign_twice {r : Relations} (h : r.Coherent) {update : VehicleUpdated}
    {carrier : Int} (assigned : update.carrier = none)
    (last : r.lastOccupant update.vehicle = some carrier) :
    let once := applyToRelations r (.vehicleUpdated update)
    ((applyToRelations once.1 (.vehicleUpdated update)).1 = once.1 ↔ ¬ r.Shared update.vehicle) ∧
    (r.Shared update.vehicle → ∃ other, other ≠ carrier ∧
      (applyToRelations once.1 (.vehicleUpdated update)).2 =
        .carrierUnassigned other update.vehicle (r.owner update.vehicle)) := by
  intro once
  have left := (h.keepManager carrier (r.owner update.vehicle)).removeCarrier carrier
  have leftEq := h.lastOccupant_unassigned_eq_none_iff last (r.owner update.vehicle)
  have first := applyToRelations_unassign r assigned last
  simp only [once, first]
  cases next : ((r.keepManager carrier (r.owner update.vehicle)).removeCarrier carrier).1.lastOccupant
      update.vehicle with
  | none =>
    -- The first delivery took off the vehicle's only carrier, so the second finds nobody.
    have alone := leftEq.mp next
    rw [applyToRelations_unassign_vacant _ assigned next]
    exact ⟨iff_of_true rfl alone, fun shared => absurd shared alone⟩
  | some other =>
    -- The first delivery left another carrier on the vehicle, which the second takes off.
    have shared : r.Shared update.vehicle := by
      by_contra alone
      rw [← leftEq, next] at alone
      cases alone
    have stays := left.vehicleOf_of_lastOccupant next
    simp only [removeCarrier_vehicleOf, keepManager_vehicleOf] at stays
    have distinct : other ≠ carrier := by
      rintro rfl
      simp at stays
    rw [applyToRelations_unassign _ assigned next]
    refine ⟨iff_of_false ?_ (not_not.mpr shared), fun _ => ⟨other, distinct, by simp⟩⟩
    intro same
    have gone := congrArg (fun s : Relations => s.vehicleOf other) same
    simp only [removeCarrier_vehicleOf, keepManager_vehicleOf, Table.set_same] at gone
    rw [← gone] at stays
    cases stays

/-- On a coherent state a second delivery of an event changes nothing, unless the event takes a
carrier off a shared vehicle; then it takes off another carrier of that vehicle. -/
theorem applyToRelations_twice {r : Relations} (h : r.Coherent) (event : DomainEvent) :
    ((applyToRelations (applyToRelations r event).1 event).1 = (applyToRelations r event).1 ↔
      ¬ ∃ update, event = .vehicleUpdated update ∧ update.carrier = none ∧ r.Shared update.vehicle) ∧
    ∀ update, event = .vehicleUpdated update → update.carrier = none → r.Shared update.vehicle →
      ∃ first second, first ≠ second ∧
        (applyToRelations r event).2 = .carrierUnassigned first update.vehicle (r.owner update.vehicle) ∧
        (applyToRelations (applyToRelations r event).1 event).2 =
          .carrierUnassigned second update.vehicle (r.owner update.vehicle) := by
  cases event with
  | vehicleCreated created => simp [applyToRelations, putOwner]
  | userCreated created => simp [applyToRelations]
  | userUpdated updated => simp [applyToRelations]
  | vehicleUpdated update =>
    simp only [DomainEvent.vehicleUpdated.injEq, exists_eq_left', forall_eq']
    cases assigned : update.carrier with
    | some carrier =>
      simp [applyToRelations_assign_twice r assigned]
    | none =>
      simp only [true_and, forall_const]
      cases last : r.lastOccupant update.vehicle with
      | none =>
        -- Nobody is on the vehicle, so neither delivery changes anything.
        have alone : ¬ r.Shared update.vehicle := by
          rintro ⟨first, -, -, onFirst, -⟩
          exact (h.lastOccupant_eq_none_iff update.vehicle).mp last first onFirst
        simp [applyToRelations_unassign_vacant r assigned last, alone]
      | some carrier =>
        obtain ⟨unchanged, further⟩ := applyToRelations_unassign_twice h assigned last
        refine ⟨unchanged, fun shared => ?_⟩
        obtain ⟨other, distinct, second⟩ := further shared
        exact ⟨carrier, other, Ne.symm distinct, by rw [applyToRelations_unassign r assigned last],
          second⟩

/-- Delivering an event twice leaves the tables as once, unless it unassigns a vehicle with two
carriers. -/
theorem redelivery_safe_except_shared_unassignment (events : List DomainEvent) (event : DomainEvent) :
    let ix := (replay events).1
    let once := (ix.apply event).1
    ((once.apply event).1.relations = once.relations ↔
      ¬ ∃ update, event = .vehicleUpdated update ∧ update.carrier = none ∧
        ∃ first second, first ≠ second ∧ ix.relations.vehicleOf first = some update.vehicle ∧
          ix.relations.vehicleOf second = some update.vehicle) ∧
    ∀ update, event = .vehicleUpdated update → update.carrier = none →
      (∃ first second, first ≠ second ∧ ix.relations.vehicleOf first = some update.vehicle ∧
        ix.relations.vehicleOf second = some update.vehicle) →
      ∃ first second, first ≠ second ∧
        (ix.apply event).2 =
          .carrierUnassigned first update.vehicle (ix.relations.owner update.vehicle) ∧
        (once.apply event).2 =
          .carrierUnassigned second update.vehicle (ix.relations.owner update.vehicle) := by
  intro ix once
  exact applyToRelations_twice (replay_coherent events) event

end Index

end FleetIssues.Fleet
