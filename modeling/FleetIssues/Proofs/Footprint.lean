import FleetIssues.Proofs.Resolution
/-! What one event changes. -/

namespace FleetIssues.Fleet

namespace Relations

/-- `s` differs from `r` at most in the owners of `owners`, the vehicle and kept manager of
`carriers`, and the occupants of `vehicles`. -/
structure Frame (owners carriers vehicles : List Int) (r s : Relations) : Prop where
  owner : ∀ vehicle ∉ owners, s.owner vehicle = r.owner vehicle
  vehicleOf : ∀ carrier ∉ carriers, s.vehicleOf carrier = r.vehicleOf carrier
  backfill : ∀ carrier ∉ carriers, s.backfill carrier = r.backfill carrier
  occupants : ∀ vehicle ∉ vehicles, s.occupants vehicle = r.occupants vehicle

variable {r : Relations}

/-- Recording an owner writes only that owner. -/
theorem frame_putOwner (r : Relations) (vehicle manager : Int) :
    Frame [vehicle] [] [] r (r.putOwner vehicle manager) where
  owner _ other := Table.set_other _ _ (List.ne_of_not_mem_cons other)
  vehicleOf _ _ := rfl
  backfill _ _ := rfl
  occupants _ _ := rfl

/-- Putting a carrier on a vehicle and keeping a manager for it writes the carrier's own entries
and the occupants of the vehicle and of the vehicle the carrier left, and no owner. -/
theorem frame_assign (r : Relations) (carrier vehicle : Int) (manager : Option Int) :
    Frame [] [carrier] (vehicle :: (r.vehicleOf carrier).toList) r
      ((r.putCarrier carrier vehicle).1.keepManager carrier manager) where
  owner _ _ := by simp
  vehicleOf k other := by
    have differs : k ≠ carrier := List.ne_of_not_mem_cons other
    simp [differs]
  backfill k other := by
    have differs : k ≠ carrier := List.ne_of_not_mem_cons other
    simp [keepManager_backfill, differs]
  occupants k other := by
    have elsewhere : k ≠ vehicle := List.ne_of_not_mem_cons other
    have notLeft : r.vehicleOf carrier ≠ some k := by
      intro left
      exact other (List.mem_cons_of_mem _ (by simp [left]))
    rw [keepManager_occupants, putCarrier_occupants_other r elsewhere, if_neg notLeft]

/-- Taking a vehicle's most recent carrier off, after keeping a manager for it, writes the
carrier's own entries and the occupants of that vehicle alone: the carrier was on no other. -/
theorem Coherent.frame_unassign (h : r.Coherent) {vehicle carrier : Int}
    (last : r.lastOccupant vehicle = some carrier) (manager : Option Int) :
    Frame [] [carrier] [vehicle] r ((r.keepManager carrier manager).removeCarrier carrier).1 where
  owner _ _ := by simp
  vehicleOf k other := by
    have differs : k ≠ carrier := List.ne_of_not_mem_cons other
    simp [differs]
  backfill k other := by
    have differs : k ≠ carrier := List.ne_of_not_mem_cons other
    simp [keepManager_backfill, differs]
  occupants k other := by
    have elsewhere : k ≠ vehicle := List.ne_of_not_mem_cons other
    have notOn : r.vehicleOf carrier ≠ some k := by
      rw [h.vehicleOf_of_lastOccupant last]
      simpa using Ne.symm elsewhere
    rw [removeCarrier_occupants, keepManager_vehicleOf, keepManager_occupants, if_neg notOn]

end Relations

namespace Index

open Relations

variable {ix next : Index} {owners carriers vehicles : List Int}

/-- A carrier outside a frame stays on its vehicle. -/
theorem vehicleFor_of_frame (frame : Frame owners carriers vehicles ix.relations next.relations)
    {carrier : Int} (untouched : carrier ∉ carriers) :
    next.vehicleFor (some carrier) = ix.vehicleFor (some carrier) :=
  frame.vehicleOf carrier untouched

/-- A carrier outside a frame, and on no vehicle whose owner the frame lets change, keeps its
manager. -/
theorem managerFor_of_frame (frame : Frame owners carriers vehicles ix.relations next.relations)
    {carrier : Int} (untouched : carrier ∉ carriers)
    (offOwners : ∀ vehicle ∈ owners, ix.relations.vehicleOf carrier ≠ some vehicle) :
    next.managerFor (some carrier) = ix.managerFor (some carrier) := by
  rw [managerFor_some, managerFor_some, frame.vehicleOf carrier untouched, frame.backfill carrier untouched]
  cases on : ix.relations.vehicleOf carrier with
  | none => rfl
  | some vehicle =>
    have kept : vehicle ∉ owners := fun listed => offOwners vehicle listed on
    simp only [Option.bind_some, frame.owner vehicle kept]

/-- What one event may write, by kind: the entries of its vehicle and of the carrier it reports. -/
def Footprint (ix : Index) (event : DomainEvent) : Prop :=
  let r := ix.relations
  let s := (ix.apply event).1.relations
  (∀ created, event = .vehicleCreated created → Frame [created.vehicle] [] [] r s) ∧
  (∀ update carrier, event = .vehicleUpdated update → update.carrier = some carrier →
    Frame [] [carrier] (update.vehicle :: (r.vehicleOf carrier).toList) r s) ∧
  (∀ update, event = .vehicleUpdated update → update.carrier = none →
    ((∀ carrier, r.vehicleOf carrier ≠ some update.vehicle) → s = r) ∧
    ((∃ carrier, r.vehicleOf carrier = some update.vehicle) →
      ∃ carrier, (ix.apply event).2 = .carrierUnassigned carrier update.vehicle (r.owner update.vehicle) ∧
        r.vehicleOf carrier = some update.vehicle ∧ Frame [] [carrier] [update.vehicle] r s)) ∧
  (∀ created, event = .userCreated created → s = r) ∧
  (∀ updated, event = .userUpdated updated → s = r)

/-- On a coherent state every event keeps to its footprint. -/
theorem footprint_of_coherent {ix : Index} (h : ix.relations.Coherent) (event : DomainEvent) :
    Footprint ix event := by
  refine ⟨?_, ?_, ?_, ?_, ?_⟩
  · rintro created rfl
    exact frame_putOwner _ created.vehicle created.manager
  · rintro update carrier rfl assigned
    show Frame _ _ _ _ (applyToRelations ix.relations (.vehicleUpdated update)).1
    rw [applyToRelations_assign _ assigned]
    exact frame_assign _ carrier update.vehicle _
  · rintro update rfl unassigned
    refine ⟨fun vacant => ?_, fun occupied => ?_⟩
    · -- With nobody on the vehicle there is no most recent occupant to take off.
      have none : ix.relations.lastOccupant update.vehicle = none :=
        (h.lastOccupant_eq_none_iff _).mpr vacant
      show (applyToRelations ix.relations (.vehicleUpdated update)).1 = ix.relations
      rw [applyToRelations_unassign_vacant _ unassigned none]
    · cases last : ix.relations.lastOccupant update.vehicle with
      | none =>
        obtain ⟨carrier, on⟩ := occupied
        exact absurd on ((h.lastOccupant_eq_none_iff _).mp last carrier)
      | some carrier =>
        have applied := applyToRelations_unassign ix.relations unassigned last
        refine ⟨carrier, ?_, h.vehicleOf_of_lastOccupant last, ?_⟩
        · show (applyToRelations ix.relations (.vehicleUpdated update)).2 = _
          rw [applied]
        · show Frame _ _ _ _ (applyToRelations ix.relations (.vehicleUpdated update)).1
          rw [applied]
          exact h.frame_unassign last _
  · rintro created rfl
    rfl
  · rintro updated rfl
    rfl

/-- Relations left as they were resolve every carrier as before. -/
theorem resolution_of_relations_eq (same : next.relations = ix.relations) (carrier : Option Int) :
    next.managerFor carrier = ix.managerFor carrier ∧ next.vehicleFor carrier = ix.vehicleFor carrier := by
  simp only [managerFor, vehicleFor, same, and_self]

/-- An event that keeps to its footprint resolves as before every carrier it does not report that
is not on the vehicle of a creation. -/
theorem Footprint.resolution_unchanged {event : DomainEvent} (fp : Footprint ix event) {carrier : Int}
    (unreported : (ix.apply event).2.carrierOf ≠ some carrier)
    (offCreated : ∀ created, event = .vehicleCreated created →
      ix.relations.vehicleOf carrier ≠ some created.vehicle) :
    let next := (ix.apply event).1
    next.managerFor (some carrier) = ix.managerFor (some carrier) ∧
      next.vehicleFor (some carrier) = ix.vehicleFor (some carrier) := by
  intro next
  -- Outside a frame whose carriers the event reports, and whose owners only a creation writes.
  have framed : ∀ {owners carriers vehicles}, Frame owners carriers vehicles ix.relations next.relations →
      carrier ∉ carriers → (∀ vehicle ∈ owners, ix.relations.vehicleOf carrier ≠ some vehicle) →
      next.managerFor (some carrier) = ix.managerFor (some carrier) ∧
        next.vehicleFor (some carrier) = ix.vehicleFor (some carrier) :=
    fun frame untouched offOwners => ⟨managerFor_of_frame frame untouched offOwners,
      vehicleFor_of_frame frame untouched⟩
  obtain ⟨created, assigned, unassigned, userCreated, userUpdated⟩ := fp
  cases event with
  | vehicleCreated c =>
    exact framed (created c rfl) (by simp) (by simpa using offCreated c rfl)
  | vehicleUpdated update =>
    cases given : update.carrier with
    | some moved =>
      have reported : moved ≠ carrier := by
        intro same
        apply unreported
        rw [Index.apply_outcome, applyToRelations_assign _ given, same]
        rfl
      exact framed (assigned update moved rfl given) (by simpa using Ne.symm reported) (by simp)
    | none =>
      obtain ⟨vacant, occupied⟩ := unassigned update rfl given
      by_cases someone : ∃ c, ix.relations.vehicleOf c = some update.vehicle
      · obtain ⟨taken, outcome, -, frame⟩ := occupied someone
        have reported : taken ≠ carrier := by
          intro same
          apply unreported
          rw [outcome, same]
          rfl
        exact framed frame (by simpa using Ne.symm reported) (by simp)
      · exact resolution_of_relations_eq (vacant fun c on => someone ⟨c, on⟩) _
  | userCreated c => exact resolution_of_relations_eq (userCreated c rfl) _
  | userUpdated u => exact resolution_of_relations_eq (userUpdated u rfl) _

/-- On every reachable state an event writes only the entries it names, so every carrier it does not
report resolves as before. -/
theorem event_changes_only_named_entries (events : List DomainEvent) (event : DomainEvent) :
    let ix := (replay events).1
    let next := (ix.apply event).1
    Footprint ix event ∧
    ∀ carrier, (ix.apply event).2.carrierOf ≠ some carrier →
      (∀ created, event = .vehicleCreated created → ix.relations.vehicleOf carrier ≠ some created.vehicle) →
      next.managerFor (some carrier) = ix.managerFor (some carrier) ∧
        next.vehicleFor (some carrier) = ix.vehicleFor (some carrier) := by
  intro ix next
  have fp := footprint_of_coherent (replay_coherent events) event
  exact ⟨fp, fun carrier unreported offCreated => fp.resolution_unchanged unreported offCreated⟩

end Index

end FleetIssues.Fleet
