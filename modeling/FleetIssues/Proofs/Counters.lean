import FleetIssues.Proofs.Redelivery
/-! The counters of an index against the run of calls that produced them. -/

namespace FleetIssues.Fleet

/-- Whether a call applies an event. -/
def IndexCall.isApply : IndexCall → Bool
  | .apply _ => true
  | .recordDropped => false

/-- Whether an outcome is a user event the index ignored. -/
def ApplyOutcome.isIdentityIgnored : ApplyOutcome → Bool
  | .identityIgnored _ => true
  | _ => false

namespace IndexStats

/-- Counting an outcome adds one to applied or ignored events, and one to violations when it
reports one. -/
theorem count_eq (stats : IndexStats) (outcome : ApplyOutcome) :
    stats.count outcome =
      { eventsApplied := stats.eventsApplied + if outcome.isIdentityIgnored then 0 else 1
        identityEventsIgnored := stats.identityEventsIgnored + if outcome.isIdentityIgnored then 1 else 0
        eventsDropped := stats.eventsDropped
        invariantViolations := stats.invariantViolations + if outcome.isInvariantViolation then 1 else 0 } := by
  cases outcome <;> simp [count, ApplyOutcome.isIdentityIgnored, ApplyOutcome.isInvariantViolation]

end IndexStats

namespace Relations

/-- Each vehicle lists at most one carrier. -/
def SingleOccupancy (r : Relations) : Prop :=
  ∀ vehicle, (r.carriersOn vehicle).length ≤ 1

variable {r : Relations}

/-- While each vehicle lists at most one carrier, no two carriers are on one vehicle. -/
theorem Coherent.eq_of_vehicleOf (h : r.Coherent) (single : r.SingleOccupancy)
    {first second vehicle : Int} (onFirst : r.vehicleOf first = some vehicle)
    (onSecond : r.vehicleOf second = some vehicle) : first = second := by
  have listedFirst := h.mem_carriersOn.mpr onFirst
  have listedSecond := h.mem_carriersOn.mpr onSecond
  have short := single vehicle
  generalize r.carriersOn vehicle = carriers at listedFirst listedSecond short
  cases carriers with
  | nil => simp at listedFirst
  | cons only rest =>
    cases rest with
    | nil =>
      rw [List.mem_singleton] at listedFirst listedSecond
      rw [listedFirst, listedSecond]
    | cons next more => simp at short

/-- A put that reports no other carrier on the vehicle finds the vehicle's list holding at most
the carrier itself. -/
theorem others_eq_nil_of_not_shared {carrier vehicle : Int}
    (alone : ∀ other, (r.putCarrier carrier vehicle).2 ≠ .shared other) :
    (r.carriersOn vehicle).filter (· != carrier) = [] := by
  cases last : ((r.carriersOn vehicle).filter (· != carrier)).getLast? with
  | none => exact List.getLast?_eq_none_iff.mp last
  | some other =>
    have reported := putCarrier_assignment r carrier vehicle
    rw [show (r.occupants vehicle).getD [] = r.carriersOn vehicle from rfl, last] at reported
    exact absurd reported (alone other)

end Relations

namespace Index

open Relations

/-- An event that reports no sharing keeps each vehicle to at most one carrier. -/
theorem singleOccupancy_applyToRelations {r : Relations} (h : r.Coherent) (single : r.SingleOccupancy)
    (event : DomainEvent) (quiet : (applyToRelations r event).2.isInvariantViolation = false) :
    (applyToRelations r event).1.SingleOccupancy := by
  rcases applyToRelations_cases r event with
    ⟨vehicle, manager, applied⟩ | ⟨carrier, vehicle, applied⟩ | ⟨vehicle, -, applied⟩ |
      ⟨carrier, vehicle, -, applied⟩ | ⟨user, applied⟩
  all_goals rw [applied] at quiet ⊢
  · exact single
  · -- The put found nobody else on the vehicle, so the vehicle lists the carrier alone and every
    -- other list only lost it.
    have alone : ∀ other, (r.putCarrier carrier vehicle).2 ≠ .shared other := by
      intro other shared
      simp [shared, ApplyOutcome.isInvariantViolation] at quiet
    have empty := others_eq_nil_of_not_shared alone
    intro k
    rw [keepManager_carriersOn, h.carriersOn_putCarrier]
    split
    · rename_i same
      subst same
      simp [empty]
    · exact Nat.le_trans (List.length_filter_le _ _) (single k)
  · exact single
  · intro k
    rw [(h.keepManager carrier _).carriersOn_removeCarrier, keepManager_carriersOn]
    exact Nat.le_trans (List.length_filter_le _ _) (single k)
  · exact single

/-- The counters of a run are its counts taken as 64-bit words. -/
theorem session_stats (calls : List IndexCall) :
    (session calls).1.stats =
      { eventsApplied := .ofNat ((session calls).2.countP fun outcome => !outcome.isIdentityIgnored)
        identityEventsIgnored := .ofNat ((session calls).2.countP ApplyOutcome.isIdentityIgnored)
        eventsDropped := .ofNat (calls.countP fun call => !call.isApply)
        invariantViolations := .ofNat ((session calls).2.countP ApplyOutcome.isInvariantViolation) } := by
  induction calls using List.reverseRecOn with
  | nil => rfl
  | append_singleton calls next ih =>
    rw [session_append_singleton]
    cases next with
    | apply event =>
      simp only [call, apply_stats, ih, IndexStats.count_eq, List.countP_append, List.countP_singleton,
        UInt64.ofNat_add]
      cases ignored : (applyToRelations (session calls).1.relations event).2.isIdentityIgnored <;>
        cases violation : (applyToRelations (session calls).1.relations event).2.isInvariantViolation <;>
        simp [ignored, violation, IndexCall.isApply]
    | recordDropped =>
      simp only [call, recordDropped, ih, List.countP_append, List.countP_singleton, UInt64.ofNat_add]
      simp [IndexCall.isApply]

/-- Each applied event adds one outcome. -/
theorem session_outcomes_length (calls : List IndexCall) :
    (session calls).2.length = calls.countP IndexCall.isApply := by
  induction calls using List.reverseRecOn with
  | nil => rfl
  | append_singleton calls next ih =>
    rw [session_append_singleton]
    cases next with
    | apply event => simp [call, ih, IndexCall.isApply]
    | recordDropped => simp [call, ih, recordDropped, IndexCall.isApply]

/-- While a run has reported no violation, each vehicle lists at most one carrier. -/
theorem session_singleOccupancy (calls : List IndexCall)
    (quiet : (session calls).2.countP ApplyOutcome.isInvariantViolation = 0) :
    (session calls).1.relations.SingleOccupancy := by
  induction calls using List.reverseRecOn with
  | nil => exact fun _ => Nat.zero_le _
  | append_singleton calls next ih =>
    rw [session_append_singleton] at quiet ⊢
    cases next with
    | apply event =>
      simp only [call, apply_outcome, List.countP_append, List.countP_singleton] at quiet
      have before : (session calls).2.countP ApplyOutcome.isInvariantViolation = 0 := by omega
      have now : (applyToRelations (session calls).1.relations event).2.isInvariantViolation = false := by
        cases reported : (applyToRelations (session calls).1.relations event).2.isInvariantViolation
        · rfl
        · simp [reported] at quiet
      exact singleOccupancy_applyToRelations (session_coherent calls) (ih before) event now
    | recordDropped => exact ih quiet

/-- A run of fewer than `2^64` calls whose violation counter reads zero reported no violation. -/
theorem session_violations_eq_zero {calls : List IndexCall} (short : calls.length < UInt64.size)
    (quiet : (session calls).1.stats.invariantViolations = 0) :
    (session calls).2.countP ApplyOutcome.isInvariantViolation = 0 := by
  -- The count is below the word size, so the word reading zero is the count being zero.
  have fewer : (session calls).2.countP ApplyOutcome.isInvariantViolation < UInt64.size :=
    calc (session calls).2.countP ApplyOutcome.isInvariantViolation
        ≤ (session calls).2.length := List.countP_le_length
      _ = calls.countP IndexCall.isApply := session_outcomes_length calls
      _ ≤ calls.length := List.countP_le_length
      _ < UInt64.size := short
  rw [session_stats] at quiet
  have read := congrArg UInt64.toNat quiet
  rwa [UInt64.toNat_ofNat', Nat.mod_eq_of_lt fewer] at read

/-- The counters account for a run, each modulo `2^64`; below `2^64` calls a violation counter at
zero means no state had two carriers on one vehicle. -/
theorem counters_account_for_run (calls : List IndexCall) :
    let ix := (session calls).1
    let outcomes := (session calls).2
    (ix.stats.eventsApplied + ix.stats.identityEventsIgnored).toNat =
      calls.countP IndexCall.isApply % UInt64.size ∧
    ix.stats.identityEventsIgnored.toNat = outcomes.countP ApplyOutcome.isIdentityIgnored % UInt64.size ∧
    ix.stats.eventsDropped.toNat = calls.countP (· == .recordDropped) % UInt64.size ∧
    ix.stats.invariantViolations.toNat =
      outcomes.countP ApplyOutcome.isInvariantViolation % UInt64.size ∧
    (ix.stats.invariantViolations = 0 → calls.length < UInt64.size →
      ∀ before, before <+: calls → ∀ first second vehicle,
        (session before).1.relations.vehicleOf first = some vehicle →
        (session before).1.relations.vehicleOf second = some vehicle → first = second) := by
  dsimp only
  have stats := session_stats calls
  refine ⟨?_, by rw [stats, UInt64.toNat_ofNat'], ?_, by rw [stats, UInt64.toNat_ofNat'], ?_⟩
  · rw [stats, ← UInt64.ofNat_add, UInt64.toNat_ofNat', ← session_outcomes_length,
      List.length_eq_countP_add_countP ApplyOutcome.isIdentityIgnored, Nat.add_comm]
    congr 2
    exact List.countP_congr fun outcome _ => by simp
  · rw [stats, UInt64.toNat_ofNat']
    congr 1
    exact List.countP_congr fun call _ => by cases call <;> simp [IndexCall.isApply]
  · intro quiet short before begins first second vehicle onFirst onSecond
    -- The violations of a beginning of the run are among those of the whole run.
    have fewer : (session before).2.countP ApplyOutcome.isInvariantViolation ≤
        (session calls).2.countP ApplyOutcome.isInvariantViolation :=
      (session_outcomes_grow begins).sublist.countP_le
    have none := session_violations_eq_zero short quiet
    have single := session_singleOccupancy before (by omega)
    exact (session_coherent before).eq_of_vehicleOf single onFirst onSecond

/-- A run goes on from the index and outcomes its beginning reached. -/
theorem session_append (calls more : List IndexCall) :
    session (calls ++ more) = more.foldl call (session calls) := by
  rw [session, List.foldl_append]
  rfl

/-- An event that leaves the relations as they are, applied again and again, keeps them and
repeats its outcome. -/
theorem foldl_call_replicate_of_fixed {event : DomainEvent} {outcome : ApplyOutcome} (k : Nat)
    (state : Index × List ApplyOutcome)
    (fixed : applyToRelations state.1.relations event = (state.1.relations, outcome)) :
    ((List.replicate k (IndexCall.apply event)).foldl call state).1.relations = state.1.relations ∧
    ((List.replicate k (IndexCall.apply event)).foldl call state).2 =
      state.2 ++ List.replicate k outcome := by
  induction k generalizing state with
  | zero => simp
  | succ k ih =>
    rw [List.replicate_succ, List.foldl_cons]
    have next := ih (call state (.apply event)) (by simp [call, fixed])
    simp only [call, apply_relations, apply_outcome, fixed] at next ⊢
    rw [next.1, next.2, List.append_assoc, List.singleton_append, ← List.replicate_succ]
    exact ⟨rfl, rfl⟩

/-- Carrier 200 put on vehicle 1, where carrier 100 is, and then put there again `k` times: every
put is counted as a violation and both carriers stay on the vehicle. -/
theorem repeated_shared_put_counts_each (k : Nat) :
    let first := IndexCall.apply (.vehicleUpdated ⟨1, some 100, none, none, none, none⟩)
    let again := IndexCall.apply (.vehicleUpdated ⟨1, some 200, none, none, none, none⟩)
    let ix := (session (first :: List.replicate (k + 1) again)).1
    ix.stats.invariantViolations = .ofNat (k + 1) ∧
      ix.relations.vehicleOf 100 = some 1 ∧ ix.relations.vehicleOf 200 = some 1 := by
  intro first again ix
  have second : (session [first, again]).1.relations =
      (applyToRelations (session [first]).1.relations
        (.vehicleUpdated ⟨1, some 200, none, none, none, none⟩)).1 := rfl
  -- After the first put of carrier 200 every further one leaves the relations as they are.
  have fixed : applyToRelations (session [first, again]).1.relations
      (.vehicleUpdated ⟨1, some 200, none, none, none, none⟩) =
      ((session [first, again]).1.relations, .carrierAssigned 200 1 none (.shared 100)) := by
    refine Prod.ext ?_ ?_
    · rw [second]
      exact applyToRelations_assign_twice _ rfl
    · simp only [first, again]
      decide
  obtain ⟨same, outcomes⟩ := foldl_call_replicate_of_fixed k _ fixed
  have run : session (first :: List.replicate (k + 1) again) =
      (List.replicate k again).foldl call (session [first, again]) := by
    rw [List.replicate_succ]
    exact session_append [first, again] _
  have reported : (session [first, again]).2 =
      [.carrierAssigned 100 1 none .new, .carrierAssigned 200 1 none (.shared 100)] := by
    simp only [first, again]
    decide
  have relations : ix.relations = (session [first, again]).1.relations := by
    show (session (first :: List.replicate (k + 1) again)).1.relations = _
    rw [run, same]
  refine ⟨?_, ?_⟩
  · show (session (first :: List.replicate (k + 1) again)).1.stats.invariantViolations = .ofNat (k + 1)
    have once : [ApplyOutcome.carrierAssigned 100 1 none .new,
        .carrierAssigned 200 1 none (.shared 100)].countP ApplyOutcome.isInvariantViolation = 1 := rfl
    rw [session_stats]
    dsimp only
    rw [run, outcomes, reported, List.countP_append, List.countP_replicate, once]
    simp only [ApplyOutcome.isInvariantViolation, if_true, Nat.add_comm]
  · rw [relations]
    simp only [first, again]
    decide

/-- After `2^64` puts of carrier 200 on vehicle 1, where carrier 100 is, the violation counter has
wrapped back to zero while both carriers are on the vehicle. -/
example :
    let first := IndexCall.apply (.vehicleUpdated ⟨1, some 100, none, none, none, none⟩)
    let again := IndexCall.apply (.vehicleUpdated ⟨1, some 200, none, none, none, none⟩)
    let ix := (session (first :: List.replicate UInt64.size again)).1
    ix.stats.invariantViolations = 0 ∧
      ix.relations.vehicleOf 100 = some 1 ∧ ix.relations.vehicleOf 200 = some 1 := by
  have repeated := repeated_shared_put_counts_each (UInt64.size - 1)
  rw [Nat.sub_add_cancel (by decide : 1 ≤ UInt64.size), UInt64.ofNat_size] at repeated
  exact repeated

end Index

end FleetIssues.Fleet
