import FleetIssues.Proofs.Resolution
/-! Unassigning a shared vehicle, again and again. -/

namespace FleetIssues.Fleet

/-- Whether an event puts a carrier on a vehicle. -/
def DomainEvent.assigns (carrier : Int) : DomainEvent → Bool
  | .vehicleUpdated update => update.carrier == some carrier
  | _ => false

namespace Index

open Relations

/-- When a run of events last put a carrier on a vehicle, counting its events from one; zero when
it never did. -/
def lastAssigned (events : List DomainEvent) (carrier : Int) : Nat :=
  events.zipIdx.foldl (fun time (event, i) => if event.assigns carrier then i + 1 else time) 0

theorem lastAssigned_append_singleton (events : List DomainEvent) (event : DomainEvent) (carrier : Int) :
    lastAssigned (events ++ [event]) carrier =
      if event.assigns carrier then events.length + 1 else lastAssigned events carrier := by
  simp [lastAssigned, List.zipIdx_append, List.foldl_append]

theorem lastAssigned_le_length (events : List DomainEvent) (carrier : Int) :
    lastAssigned events carrier ≤ events.length := by
  induction events using List.reverseRecOn with
  | nil => simp [lastAssigned]
  | append_singleton events event ih =>
    rw [lastAssigned_append_singleton]
    split <;> simp only [List.length_append, List.length_singleton] <;> omega

/-- An event that assigns no carrier keeps the time of every carrier. -/
theorem lastAssigned_append_of_not_assigns {events : List DomainEvent} {event : DomainEvent}
    (none : ∀ carrier, event.assigns carrier = false) (carrier : Int) :
    lastAssigned (events ++ [event]) carrier = lastAssigned events carrier := by
  rw [lastAssigned_append_singleton, none carrier, if_neg Bool.false_ne_true]

/-- Each list of occupants is ordered by when the run last assigned its carriers, oldest first. -/
def RecencyOrdered (r : Relations) (events : List DomainEvent) : Prop :=
  ∀ vehicle, (r.carriersOn vehicle).Pairwise fun a b => lastAssigned events a < lastAssigned events b

/-- One more event keeps the occupants ordered by latest assignment: an assignment lists its
carrier last, as the newest, and keeps the time of every other carrier; every other event
assigns no carrier and only takes carriers off. -/
theorem RecencyOrdered.applyToRelations {r : Relations} {events : List DomainEvent}
    (order : RecencyOrdered r events) (h : r.Coherent) (event : DomainEvent) :
    RecencyOrdered (applyToRelations r event).1 (events ++ [event]) := by
  have unchanged : (∀ carrier, event.assigns carrier = false) → RecencyOrdered r (events ++ [event]) :=
    fun none k => (order k).imp fun {a b} earlier => by
      rwa [lastAssigned_append_of_not_assigns none, lastAssigned_append_of_not_assigns none]
  cases event with
  | vehicleCreated created =>
    exact unchanged (fun _ => rfl)
  | userCreated created => exact unchanged (fun _ => rfl)
  | userUpdated updated => exact unchanged (fun _ => rfl)
  | vehicleUpdated update =>
    cases given : update.carrier with
    | some carrier =>
      rw [applyToRelations_assign r given]
      intro k
      rw [keepManager_carriersOn]
      refine h.pairwise_putCarrier order (fun other differs => ?_) (fun other _ _ => ?_) k
      · rw [lastAssigned_append_singleton, if_neg]
        simpa [DomainEvent.assigns, given] using Ne.symm differs
      · have earlier := lastAssigned_le_length events other
        rw [lastAssigned_append_singleton, if_pos (by simp [DomainEvent.assigns, given])]
        omega
    | none =>
      have none : ∀ carrier, (DomainEvent.vehicleUpdated update).assigns carrier = false := by
        simp [DomainEvent.assigns, given]
      cases last : r.lastOccupant update.vehicle with
      | none =>
        rw [applyToRelations_unassign_vacant r given last]
        exact unchanged none
      | some carrier =>
        rw [applyToRelations_unassign r given last]
        have order' : ∀ k, ((r.keepManager carrier (r.owner update.vehicle)).carriersOn k).Pairwise
            fun a b => lastAssigned events a < lastAssigned events b := by
          rw [keepManager_carriersOn]
          exact order
        exact (h.keepManager carrier _).pairwise_removeCarrier order'
          (fun other _ => lastAssigned_append_of_not_assigns none other)

/-- After any run of events, each vehicle lists its carriers by latest assignment, oldest first. -/
theorem recencyOrdered_replay (events : List DomainEvent) :
    RecencyOrdered (replay events).1.relations events := by
  induction events using List.reverseRecOn with
  | nil => exact fun _ => List.Pairwise.nil
  | append_singleton events event ih =>
    rw [replay_append_singleton]
    exact ih.applyToRelations (replay_coherent events) event

/-- Two lists ordered by one strictly increasing key, with the same members, are equal. -/
theorem eq_of_pairwise_key {key : Int → Nat} {first second : List Int}
    (ordered : first.Pairwise fun a b => key a < key b) (ordered' : second.Pairwise fun a b => key a < key b)
    (same : ∀ c, c ∈ first ↔ c ∈ second) : first = second := by
  have nodup : ∀ {l : List Int}, (l.Pairwise fun a b => key a < key b) → l.Nodup :=
    fun order => order.imp fun {a b} lt same => by subst same; omega
  have perm : first.Perm second := (List.perm_ext_iff_of_nodup (nodup ordered) (nodup ordered')).mpr same
  exact perm.eq_of_pairwise (fun a b _ _ ab ba => by omega) ordered ordered'

/-- The newest carrier of a vehicle is listed once. -/
theorem not_mem_front {r : Relations} (h : r.Coherent) {vehicle : Int} {front : List Int} {last : Int}
    (listed : r.carriersOn vehicle = front ++ [last]) : last ∉ front := by
  have once := h.nodup vehicle
  rw [listed, List.nodup_append] at once
  exact fun member => once.2.2 last member last (List.mem_singleton_self _) rfl

/-- Taking the most recent carrier off a vehicle leaves its other carriers listed in order. -/
theorem carriersOn_unassign {r : Relations} (h : r.Coherent) {vehicle : Int} {front : List Int}
    {last : Int} (listed : r.carriersOn vehicle = front ++ [last]) (manager : Option Int) :
    ((r.keepManager last manager).removeCarrier last).1.carriersOn vehicle = front := by
  rw [(h.keepManager last manager).carriersOn_removeCarrier, keepManager_carriersOn, listed,
    List.filter_append, List.filter_eq_self.mpr]
  · simp
  · intro other member
    have differs : other ≠ last := fun same => not_mem_front h listed (same ▸ member)
    simpa using differs

/-- One unassignment after a run takes the vehicle's newest carrier off: it answers that carrier
with the vehicle's owner, leaves the others listed in order, and writes only the carrier's vehicle
and, when the owner is known, its kept manager. -/
theorem unassign_newest (events : List DomainEvent) {u : VehicleUpdated} (unassigned : u.carrier = none)
    {front : List Int} {last : Int} (listed : (replay events).1.relations.carriersOn u.vehicle = front ++ [last]) :
    let r := (replay events).1.relations
    let next := replay (events ++ [.vehicleUpdated u])
    next.2 = (replay events).2 ++ [.carrierUnassigned last u.vehicle (r.owner u.vehicle)] ∧
      next.1.relations.carriersOn u.vehicle = front ∧ next.1.relations.owner = r.owner ∧
      next.1.relations.vehicleOf = r.vehicleOf.set last none ∧
      next.1.relations.backfill = r.backfill.set last ((r.owner u.vehicle).or (r.backfill last)) := by
  dsimp only
  set r := (replay events).1.relations with hr
  have newest : r.lastOccupant u.vehicle = some last := by
    rw [lastOccupant_eq_getLast?, listed]
    simp
  have first := applyToRelations_unassign r unassigned newest
  have relations : (replay (events ++ [.vehicleUpdated u])).1.relations =
      ((r.keepManager last (r.owner u.vehicle)).removeCarrier last).1 := by
    rw [replay_append_singleton, apply_relations, ← hr, first]
  refine ⟨by rw [replay_append_singleton, apply_outcome, ← hr, first], ?_, ?_, ?_, ?_⟩ <;> rw [relations]
  · exact carriersOn_unassign (replay_coherent events) listed _
  · simp
  · simp
  · simp [keepManager_backfill]

variable {vehicle : Int}

/-- Unassigning a vehicle once per carrier and once more takes them off newest first, then finds
nothing; the induction is on the number of carriers on the vehicle. -/
theorem unassign_each (n : Nat) : ∀ (events : List DomainEvent) (unassigns : List VehicleUpdated),
    ((replay events).1.relations.carriersOn vehicle).length = n →
    unassigns.length = n + 1 → (∀ u ∈ unassigns, u.vehicle = vehicle ∧ u.carrier = none) →
    let r := (replay events).1.relations
    let final := replay (events ++ unassigns.map .vehicleUpdated)
    final.2 = (replay events).2 ++
        (r.carriersOn vehicle).reverse.map (fun c => .carrierUnassigned c vehicle (r.owner vehicle)) ++
        [.nothingToUnassign vehicle] ∧
      (∀ c, final.1.relations.vehicleOf c = if c ∈ r.carriersOn vehicle then none else r.vehicleOf c) ∧
      (∀ c, final.1.relations.backfill c =
        if c ∈ r.carriersOn vehicle then (r.owner vehicle).or (r.backfill c) else r.backfill c) := by
  induction n with
  | zero =>
    intro events unassigns empty count each
    obtain ⟨u, rfl⟩ := List.length_eq_one_iff.mp count
    obtain ⟨rfl, unassigned⟩ := each u (by simp)
    dsimp only
    set r := (replay events).1.relations with hr
    have nobody : r.carriersOn u.vehicle = [] := List.length_eq_zero_iff.mp empty
    have vacant : r.lastOccupant u.vehicle = none := by
      rw [lastOccupant_eq_getLast?, nobody]
      rfl
    have applied := applyToRelations_unassign_vacant r unassigned vacant
    simp only [List.map_cons, List.map_nil, replay_append_singleton, apply_relations, apply_outcome, ← hr,
      applied, nobody]
    simp
  | succ n ih =>
    intro events unassigns occupied count each
    obtain ⟨u, rest, rfl⟩ := List.exists_cons_of_length_eq_add_one count
    obtain ⟨rfl, unassigned⟩ := each u (by simp)
    dsimp only
    set r := (replay events).1.relations with hr
    -- The newest carrier is the last one listed, and the others stay listed in order.
    obtain ⟨front, last, listed⟩ : ∃ front last, r.carriersOn u.vehicle = front ++ [last] := by
      rcases List.eq_nil_or_concat (r.carriersOn u.vehicle) with empty | ⟨front, last, listed⟩
      · rw [empty] at occupied
        cases occupied
      · exact ⟨front, last, by simpa using listed⟩
    have once := not_mem_front (replay_coherent events) listed
    obtain ⟨outcomes, left, owner, vehicleOf, backfill⟩ := unassign_newest events unassigned listed
    rw [← hr] at outcomes owner vehicleOf backfill
    have fewer : ((replay (events ++ [.vehicleUpdated u])).1.relations.carriersOn u.vehicle).length = n := by
      rw [left]
      rw [listed] at occupied
      simpa using occupied
    -- The event is named in full: left to its expected type, elaborating the hypotheses against it
    -- unfolds the run.
    obtain ⟨later, vehicles, kept⟩ := ih (events ++ [DomainEvent.vehicleUpdated u]) rest fewer
      (by simpa using count) (fun u' member => each u' (List.mem_cons_of_mem _ member))
    simp only [outcomes, left, owner, vehicleOf, backfill] at later vehicles kept
    have split : events ++ (u :: rest).map DomainEvent.vehicleUpdated =
        (events ++ [.vehicleUpdated u]) ++ rest.map DomainEvent.vehicleUpdated := by simp
    rw [split]
    refine ⟨by rw [later, listed]; simp, fun c => ?_, fun c => ?_⟩
    · rw [vehicles c, listed]
      by_cases newest : c = last
      · subst newest
        simp [once]
      · simp [newest]
    · rw [kept c, listed]
      by_cases newest : c = last
      · subst newest
        simp [once]
      · simp [newest]

/-- On every reachable state, unassigning a shared vehicle takes its carriers off newest first, each
keeping the vehicle's owner as manager, and then finds nothing. -/
theorem unassignment_pops_newest_first (events : List DomainEvent) (vehicle : Int) (carriers : List Int)
    (onVehicle : ∀ c, c ∈ carriers ↔ (replay events).1.vehicleFor (some c) = some vehicle)
    (byRecency : carriers.Pairwise fun a b => lastAssigned events a < lastAssigned events b)
    (unassigns : List VehicleUpdated) (count : unassigns.length = carriers.length + 1)
    (each : ∀ u ∈ unassigns, u.vehicle = vehicle ∧ u.carrier = none) :
    let ix := (replay events).1
    let run := replay (events ++ unassigns.map .vehicleUpdated)
    run.2 = (replay events).2 ++
        carriers.reverse.map (fun c => .carrierUnassigned c vehicle (ix.relations.owner vehicle)) ++
        [.nothingToUnassign vehicle] ∧
      (∀ c, run.1.vehicleFor (some c) ≠ some vehicle) ∧
      (∀ c ∈ carriers, run.1.vehicleFor (some c) = none ∧
        ∀ manager, ix.relations.owner vehicle = some manager → run.1.managerFor (some c) = some manager) ∧
      (∀ c ∉ carriers, run.1.vehicleFor (some c) = ix.vehicleFor (some c)) := by
  intro ix run
  have h := replay_coherent events
  -- The carriers on the vehicle by latest assignment are exactly its occupants list.
  have listed : ix.relations.carriersOn vehicle = carriers :=
    eq_of_pairwise_key (recencyOrdered_replay events vehicle) byRecency
      fun c => h.mem_carriersOn.trans (onVehicle c).symm
  obtain ⟨outcomes, vehicles, kept⟩ :=
    unassign_each _ events unassigns rfl (by rw [count, listed]) each
  rw [listed] at outcomes vehicles kept
  have gone : ∀ c ∈ carriers, run.1.vehicleFor (some c) = none := fun c member => by
    change run.1.relations.vehicleOf c = none
    rw [vehicles c, if_pos member]
  have stays : ∀ c ∉ carriers, run.1.vehicleFor (some c) = ix.vehicleFor (some c) := fun c absent => by
    change run.1.relations.vehicleOf c = ix.relations.vehicleOf c
    rw [vehicles c, if_neg absent]
  refine ⟨outcomes, fun c => ?_, fun c member => ⟨gone c member, fun manager known => ?_⟩, stays⟩
  · by_cases member : c ∈ carriers
    · simp [gone c member]
    · rw [stays c member]
      exact fun on => member ((onVehicle c).mpr on)
  · rw [managerFor_some, show run.1.relations.vehicleOf c = none from gone c member, kept c, if_pos member,
      known]
    rfl

/-- Carrier 1 is put on vehicle 5, then carrier 2, then carrier 1 again. -/
def reputRun : List DomainEvent :=
  [.vehicleCreated ⟨5, 10, "AB-123", "Volvo", "FH16", .active⟩,
   .vehicleUpdated ⟨5, some 1, none, none, none, none⟩,
   .vehicleUpdated ⟨5, some 2, none, none, none, none⟩,
   .vehicleUpdated ⟨5, some 1, none, none, none, none⟩]

/-- Carrier 1, put back on vehicle 5 after carrier 2, is the newest there although it came first:
three unassignments of the vehicle take off carrier 1, then carrier 2, then find nothing. -/
theorem reput_carrier_unassigned_first :
    let unassign : VehicleUpdated := ⟨5, none, none, none, none, none⟩
    let carriers : List Int := [2, 1]
    (∀ c, c ∈ carriers ↔ (replay reputRun).1.vehicleFor (some c) = some 5) ∧
    (carriers.Pairwise fun a b => lastAssigned reputRun a < lastAssigned reputRun b) ∧
    [unassign, unassign, unassign].length = carriers.length + 1 ∧
    (∀ u ∈ [unassign, unassign, unassign], u.vehicle = 5 ∧ u.carrier = none) ∧
    let ix := (replay reputRun).1
    let run := replay (reputRun ++ [unassign, unassign, unassign].map .vehicleUpdated)
    run.2 = (replay reputRun).2 ++
        carriers.reverse.map (fun c => .carrierUnassigned c 5 (ix.relations.owner 5)) ++
        [.nothingToUnassign 5] ∧
      (∀ c, run.1.vehicleFor (some c) ≠ some 5) ∧
      (∀ c ∈ carriers, run.1.vehicleFor (some c) = none ∧
        ∀ manager, ix.relations.owner 5 = some manager → run.1.managerFor (some c) = some manager) ∧
      (∀ c ∉ carriers, run.1.vehicleFor (some c) = ix.vehicleFor (some c)) := by
  intro unassign carriers
  have onVehicle : ∀ c, c ∈ carriers ↔ (replay reputRun).1.vehicleFor (some c) = some 5 := by
    have listed : (replay reputRun).1.relations.carriersOn 5 = carriers := by rfl
    intro c
    rw [← listed]
    exact (replay_coherent reputRun).mem_carriersOn
  have byRecency : carriers.Pairwise fun a b => lastAssigned reputRun a < lastAssigned reputRun b := by
    decide
  have each : ∀ u ∈ [unassign, unassign, unassign], u.vehicle = 5 ∧ u.carrier = none := by decide
  exact ⟨onVehicle, byRecency, rfl, each,
    unassignment_pops_newest_first reputRun 5 carriers onVehicle byRecency _ rfl each⟩

end Index

end FleetIssues.Fleet
