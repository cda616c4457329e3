import FleetIssues.Fleet.Relations
import Mathlib.Data.List.Induction
/-! The occupants table against the history of writes to the relations. -/

namespace FleetIssues.Fleet

/-- A write to the relations. -/
inductive StoreOp where
  | putOwner (vehicle manager : Int)
  | putCarrier (carrier vehicle : Int)
  | removeCarrier (carrier : Int)
  | putBackfill (carrier manager : Int)
  deriving DecidableEq, Repr

namespace StoreOp

/-- Whether a write puts the given carrier on a vehicle. -/
def puts (carrier : Int) : StoreOp → Bool
  | .putCarrier c _ => c == carrier
  | _ => false

/-- When a run last put a carrier on a vehicle, counting its writes from one; zero when it never
did. -/
def lastPut (ops : List StoreOp) (carrier : Int) : Nat :=
  ops.zipIdx.foldl (fun time (op, i) => if op.puts carrier then i + 1 else time) 0

@[simp] theorem lastPut_nil (carrier : Int) : lastPut [] carrier = 0 := rfl

theorem lastPut_append_singleton (ops : List StoreOp) (op : StoreOp) (carrier : Int) :
    lastPut (ops ++ [op]) carrier = if op.puts carrier then ops.length + 1 else lastPut ops carrier := by
  simp [lastPut, List.zipIdx_append, List.foldl_append]

/-- A write that puts no carrier leaves every time as it was. -/
theorem lastPut_append_of_not_puts {ops : List StoreOp} {op : StoreOp} {carrier : Int}
    (h : op.puts carrier = false) : lastPut (ops ++ [op]) carrier = lastPut ops carrier := by
  simp [lastPut_append_singleton, h]

theorem lastPut_le_length (ops : List StoreOp) (carrier : Int) : lastPut ops carrier ≤ ops.length := by
  induction ops using List.reverseRecOn with
  | nil => simp
  | append_singleton ops op ih =>
    rw [lastPut_append_singleton]
    split <;> simp only [List.length_append, List.length_singleton] <;> omega

end StoreOp

namespace Relations

/-- Performs one write. -/
def exec (r : Relations) : StoreOp → Relations
  | .putOwner vehicle manager => r.putOwner vehicle manager
  | .putCarrier carrier vehicle => (r.putCarrier carrier vehicle).1
  | .removeCarrier carrier => (r.removeCarrier carrier).1
  | .putBackfill carrier manager => r.putBackfill carrier manager

/-- The relations after a run of writes from the empty store. -/
def replay (ops : List StoreOp) : Relations := ops.foldl exec empty

@[simp] theorem replay_nil : replay [] = empty := rfl

theorem replay_append_singleton (ops : List StoreOp) (op : StoreOp) :
    replay (ops ++ [op]) = (replay ops).exec op := by
  simp [replay, List.foldl_append]

/-- The carriers listed under a vehicle. -/
def carriersOn (r : Relations) (vehicle : Int) : List Int := (r.occupants vehicle).getD []

theorem carriersOn_of_occupants {r : Relations} {vehicle : Int} {carriers : List Int}
    (h : r.occupants vehicle = some carriers) : r.carriersOn vehicle = carriers := by
  simp [carriersOn, h]

theorem lastOccupant_eq_getLast? (r : Relations) (vehicle : Int) :
    r.lastOccupant vehicle = (r.carriersOn vehicle).getLast? := by
  unfold lastOccupant carriersOn
  cases r.occupants vehicle <;> rfl

/-- The occupants table mirrors where each carrier is: a carrier is listed under exactly the
vehicle it is on, at most once, and no vehicle keeps an empty list. -/
structure Coherent (r : Relations) : Prop where
  mem_carriersOn : ∀ {vehicle carrier : Int},
    carrier ∈ r.carriersOn vehicle ↔ r.vehicleOf carrier = some vehicle
  nodup : ∀ vehicle, (r.carriersOn vehicle).Nodup
  ne_nil : ∀ vehicle, r.occupants vehicle ≠ some []

variable {r : Relations}

/-- A vehicle that a carrier leaves, if it was on it, keeps its other carriers in order. -/
theorem Coherent.getD_leaving (h : r.Coherent) (carrier vehicle : Int) :
    (if r.vehicleOf carrier = some vehicle then vacate r.occupants vehicle carrier vehicle
      else r.occupants vehicle).getD [] = (r.carriersOn vehicle).filter (· != carrier) := by
  split
  · exact getD_vacate_self _ _ _
  · rename_i away
    have absent : carrier ∉ r.carriersOn vehicle := fun listed => away (h.mem_carriersOn.mp listed)
    change r.carriersOn vehicle = _
    rw [eq_comm, List.filter_eq_self]
    intro other listed
    have different : other ≠ carrier := fun same => absent (same ▸ listed)
    simpa using different

theorem Coherent.leaving_ne_nil (h : r.Coherent) (carrier vehicle : Int) :
    (if r.vehicleOf carrier = some vehicle then vacate r.occupants vehicle carrier vehicle
      else r.occupants vehicle) ≠ some [] := by
  split
  · exact vacate_self_ne_nil _ _ _
  · exact h.ne_nil vehicle

theorem Coherent.carriersOn_putCarrier (h : r.Coherent) (carrier vehicle k : Int) :
    (r.putCarrier carrier vehicle).1.carriersOn k =
      if k = vehicle then (r.carriersOn vehicle).filter (· != carrier) ++ [carrier]
      else (r.carriersOn k).filter (· != carrier) := by
  by_cases same : k = vehicle
  · subst same
    simp [carriersOn, putCarrier_occupants_self]
  · simp only [carriersOn, putCarrier_occupants_other r same, same, if_false]
    exact h.getD_leaving carrier k

theorem Coherent.carriersOn_removeCarrier (h : r.Coherent) (carrier k : Int) :
    (r.removeCarrier carrier).1.carriersOn k = (r.carriersOn k).filter (· != carrier) := by
  simp only [carriersOn, removeCarrier_occupants]
  exact h.getD_leaving carrier k

theorem coherent_empty : empty.Coherent where
  mem_carriersOn := by simp [carriersOn, empty, Table.empty]
  nodup := by simp [carriersOn, empty, Table.empty]
  ne_nil := by simp [empty, Table.empty]

theorem Coherent.putCarrier (h : r.Coherent) (carrier vehicle : Int) :
    (r.putCarrier carrier vehicle).1.Coherent where
  mem_carriersOn := by
    intro k other
    rw [h.carriersOn_putCarrier]
    by_cases same : k = vehicle
    · subst same
      by_cases moved : other = carrier
      · simp [moved]
      · simp [moved, h.mem_carriersOn]
    · by_cases moved : other = carrier
      · simp [moved, same, Ne.symm same]
      · simp [moved, same, h.mem_carriersOn]
  nodup := by
    intro k
    rw [h.carriersOn_putCarrier]
    split
    · refine List.nodup_append.mpr ⟨(h.nodup vehicle).filter _, by simp, ?_⟩
      simp
    · exact (h.nodup k).filter _
  ne_nil := by
    intro k
    by_cases same : k = vehicle
    · subst same
      simp [putCarrier_occupants_self]
    · rw [putCarrier_occupants_other r same]
      exact h.leaving_ne_nil carrier k

theorem Coherent.removeCarrier (h : r.Coherent) (carrier : Int) :
    (r.removeCarrier carrier).1.Coherent where
  mem_carriersOn := by
    intro k other
    rw [h.carriersOn_removeCarrier]
    by_cases moved : other = carrier
    · simp [moved]
    · simp [moved, h.mem_carriersOn]
  nodup := by
    intro k
    rw [h.carriersOn_removeCarrier]
    exact (h.nodup k).filter _
  ne_nil := by
    intro k
    rw [removeCarrier_occupants]
    exact h.leaving_ne_nil carrier k

theorem Coherent.putOwner (h : r.Coherent) (vehicle manager : Int) :
    (r.putOwner vehicle manager).Coherent :=
  ⟨h.mem_carriersOn, h.nodup, h.ne_nil⟩

theorem Coherent.putBackfill (h : r.Coherent) (carrier manager : Int) :
    (r.putBackfill carrier manager).Coherent :=
  ⟨h.mem_carriersOn, h.nodup, h.ne_nil⟩

theorem Coherent.exec (h : r.Coherent) : ∀ op, (r.exec op).Coherent
  | .putOwner vehicle manager => h.putOwner vehicle manager
  | .putCarrier carrier vehicle => h.putCarrier carrier vehicle
  | .removeCarrier carrier => h.removeCarrier carrier
  | .putBackfill carrier manager => h.putBackfill carrier manager

theorem coherent_replay (ops : List StoreOp) : (replay ops).Coherent := by
  induction ops using List.reverseRecOn with
  | nil => exact coherent_empty
  | append_singleton ops op ih =>
    rw [replay_append_singleton]
    exact ih.exec op

/-- A vehicle has a most recent occupant exactly when some carrier is on it. -/
theorem Coherent.lastOccupant_eq_none_iff (h : r.Coherent) (vehicle : Int) :
    r.lastOccupant vehicle = none ↔ ∀ carrier, r.vehicleOf carrier ≠ some vehicle := by
  rw [lastOccupant_eq_getLast?, List.getLast?_eq_none_iff, List.eq_nil_iff_forall_not_mem]
  simp only [h.mem_carriersOn]

/-- Every list of a store is ordered by when a run last put its carriers, oldest first. -/
def RecencyOrdered (r : Relations) (ops : List StoreOp) : Prop :=
  ∀ vehicle, (r.carriersOn vehicle).Pairwise fun a b => StoreOp.lastPut ops a < StoreOp.lastPut ops b

/-- A list ordered by one key, less one carrier, is ordered by another key that agrees with the
first on every other carrier. -/
theorem pairwise_filter_of_kept {before after : Int → Nat} {carriers : List Int} {carrier : Int}
    (order : carriers.Pairwise fun a b => before a < before b)
    (kept : ∀ other, other ≠ carrier → after other = before other) :
    (carriers.filter (· != carrier)).Pairwise fun a b => after a < after b := by
  refine (order.filter _).imp_of_mem ?_
  intro a b listedA listedB earlier
  have differsA : a ≠ carrier := by simpa using (List.mem_filter.mp listedA).2
  have differsB : b ≠ carrier := by simpa using (List.mem_filter.mp listedB).2
  rw [kept a differsA, kept b differsB]
  exact earlier

/-- Putting a carrier on a vehicle keeps every list ordered by a key, when the key of every other
carrier stays and the carrier put gets a key above those of the others left on the vehicle. -/
theorem Coherent.pairwise_putCarrier (h : r.Coherent) {carrier vehicle : Int} {before after : Int → Nat}
    (order : ∀ k, (r.carriersOn k).Pairwise fun a b => before a < before b)
    (kept : ∀ other, other ≠ carrier → after other = before other)
    (newest : ∀ other ∈ r.carriersOn vehicle, other ≠ carrier → before other < after carrier) (k : Int) :
    ((r.putCarrier carrier vehicle).1.carriersOn k).Pairwise fun a b => after a < after b := by
  rw [h.carriersOn_putCarrier]
  split
  · refine List.pairwise_append.mpr ⟨pairwise_filter_of_kept (order vehicle) kept, by simp, ?_⟩
    intro other listed last put
    have differs : other ≠ carrier := by simpa using (List.mem_filter.mp listed).2
    rw [List.mem_singleton.mp put, kept other differs]
    exact newest other (List.mem_filter.mp listed).1 differs
  · exact pairwise_filter_of_kept (order k) kept

/-- Taking a carrier off keeps every list ordered by a key that stays on every other carrier. -/
theorem Coherent.pairwise_removeCarrier (h : r.Coherent) {carrier : Int} {before after : Int → Nat}
    (order : ∀ k, (r.carriersOn k).Pairwise fun a b => before a < before b)
    (kept : ∀ other, other ≠ carrier → after other = before other) (k : Int) :
    ((r.removeCarrier carrier).1.carriersOn k).Pairwise fun a b => after a < after b := by
  rw [h.carriersOn_removeCarrier]
  exact pairwise_filter_of_kept (order k) kept

/-- Putting a carrier keeps the time of every other carrier. -/
theorem StoreOp.lastPut_append_of_ne {ops : List StoreOp} {carrier : Int} (vehicle : Int) {other : Int}
    (differs : other ≠ carrier) :
    StoreOp.lastPut (ops ++ [.putCarrier carrier vehicle]) other = StoreOp.lastPut ops other :=
  StoreOp.lastPut_append_of_not_puts (by simpa [StoreOp.puts] using Ne.symm differs)

theorem RecencyOrdered.exec {ops : List StoreOp} (order : r.RecencyOrdered ops) (h : r.Coherent) :
    ∀ op, (r.exec op).RecencyOrdered (ops ++ [op])
  | .putOwner vehicle manager => fun k =>
    (order k).imp fun {a b} earlier => by
      simpa [StoreOp.lastPut_append_singleton, StoreOp.puts] using earlier
  | .putBackfill carrier manager => fun k =>
    (order k).imp fun {a b} earlier => by
      simpa [StoreOp.lastPut_append_singleton, StoreOp.puts] using earlier
  | .removeCarrier carrier =>
    h.pairwise_removeCarrier order fun other _ =>
      StoreOp.lastPut_append_of_not_puts (by simp [StoreOp.puts])
  | .putCarrier carrier vehicle =>
    -- The carriers left on a list keep their times; the one put is newest of all.
    h.pairwise_putCarrier order (fun other differs => StoreOp.lastPut_append_of_ne vehicle differs)
      fun other _ _ => by
        have earlier := StoreOp.lastPut_le_length ops other
        rw [StoreOp.lastPut_append_singleton]
        simp only [StoreOp.puts, beq_self_eq_true, if_true]
        omega

theorem recencyOrdered_replay (ops : List StoreOp) : (replay ops).RecencyOrdered ops := by
  induction ops using List.reverseRecOn with
  | nil => simp [RecencyOrdered, carriersOn, empty, Table.empty]
  | append_singleton ops op ih =>
    rw [replay_append_singleton]
    exact ih.exec (coherent_replay ops) op

/-- The last of a list ordered by a strictly increasing key is its member of greatest key. -/
theorem getLast?_eq_some_iff_of_pairwise {key : Int → Nat} {carriers : List Int} {carrier : Int}
    (order : carriers.Pairwise fun a b => key a < key b) :
    carriers.getLast? = some carrier ↔ carrier ∈ carriers ∧ ∀ other ∈ carriers, key other ≤ key carrier := by
  constructor
  · intro last
    obtain ⟨front, rfl⟩ := List.getLast?_eq_some_iff.mp last
    have before := (List.pairwise_append.mp order).2.2
    refine ⟨by simp, ?_⟩
    intro other listed
    rcases List.mem_append.mp listed with early | final
    · exact Nat.le_of_lt (before other early carrier (by simp))
    · simp [List.mem_singleton.mp final]
  · rintro ⟨listed, greatest⟩
    rcases List.eq_nil_or_concat carriers with empty | ⟨front, final, split⟩
    · simp [empty] at listed
    · rw [List.concat_eq_append] at split
      subst split
      have before := (List.pairwise_append.mp order).2.2
      rcases List.mem_append.mp listed with early | last
      · have newer := before carrier early final (by simp)
        have older := greatest final (by simp)
        omega
      · simp [List.mem_singleton.mp last]

/-- The most recent occupant of a vehicle is the carrier on it that the run put there last. -/
theorem Coherent.lastOccupant_eq_some_iff {ops : List StoreOp} (h : r.Coherent)
    (order : r.RecencyOrdered ops) (vehicle carrier : Int) :
    r.lastOccupant vehicle = some carrier ↔
      r.vehicleOf carrier = some vehicle ∧
        ∀ other, r.vehicleOf other = some vehicle → StoreOp.lastPut ops other ≤ StoreOp.lastPut ops carrier := by
  rw [lastOccupant_eq_getLast?, getLast?_eq_some_iff_of_pairwise (order vehicle)]
  simp only [h.mem_carriersOn]

/-- After any run of writes, each vehicle lists the carriers on it once each, in the order they were
last put there, and no list is empty. -/
theorem occupants_follow_write_history (ops : List StoreOp) :
    let r := replay ops
    (∀ vehicle carrier,
      carrier ∈ (r.occupants vehicle).getD [] ↔ r.vehicleOf carrier = some vehicle) ∧
    (∀ vehicle carriers, r.occupants vehicle = some carriers → carriers.Nodup ∧ carriers ≠ []) ∧
    (∀ vehicle carriers, r.occupants vehicle = some carriers →
      carriers.Pairwise fun a b => StoreOp.lastPut ops a < StoreOp.lastPut ops b) ∧
    (∀ vehicle carrier, r.lastOccupant vehicle = some carrier ↔
      r.vehicleOf carrier = some vehicle ∧
        ∀ other, r.vehicleOf other = some vehicle →
          StoreOp.lastPut ops other ≤ StoreOp.lastPut ops carrier) ∧
    (∀ vehicle, r.lastOccupant vehicle = none ↔ ∀ carrier, r.vehicleOf carrier ≠ some vehicle) ∧
    (∀ carrier, (r.removeCarrier carrier).2 = r.vehicleOf carrier) := by
  intro r
  have h := coherent_replay ops
  have order := recencyOrdered_replay ops
  refine ⟨fun _ _ => h.mem_carriersOn, ?_, ?_, h.lastOccupant_eq_some_iff order,
    h.lastOccupant_eq_none_iff, removeCarrier_found r⟩
  · intro vehicle carriers found
    refine ⟨carriersOn_of_occupants found ▸ h.nodup vehicle, ?_⟩
    rintro rfl
    exact h.ne_nil vehicle found
  · intro vehicle carriers found
    rw [← carriersOn_of_occupants found]
    exact order vehicle

example :
    (replay [.putCarrier 1 5, .putCarrier 2 5, .putCarrier 3 5, .putCarrier 1 5,
      .removeCarrier 3]).occupants 5 = some [2, 1] := by
  decide

end Relations

end FleetIssues.Fleet
