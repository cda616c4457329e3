import FleetIssues.Proofs.Occupancy
/-! What putting a carrier on a vehicle reports. -/

namespace FleetIssues.Fleet.Relations

/-- The carriers on a vehicle besides a given one, in the order they were last put there. -/
def othersOn (r : Relations) (vehicle carrier : Int) : List Int :=
  (r.carriersOn vehicle).filter (· != carrier)

/-- The answer of a put, read off the carriers already on the vehicle and the carrier's place. -/
theorem putCarrier_report (r : Relations) (carrier vehicle : Int) :
    (r.putCarrier carrier vehicle).2 =
      match (r.othersOn vehicle carrier).getLast?, r.vehicleOf carrier with
      | some other, _ => .shared other
      | none, none => .new
      | none, some previous => if previous == vehicle then .unchanged else .moved previous :=
  putCarrier_assignment r carrier vehicle

section Report

variable (r : Relations) (carrier vehicle : Int)

/-- The four answers of a put and when each is given. -/
theorem putCarrier_report_cases :
    let report := (r.putCarrier carrier vehicle).2
    let last := (r.othersOn vehicle carrier).getLast?
    (∃ w, last = some w ∧ report = .shared w) ∨
    (last = none ∧ r.vehicleOf carrier = none ∧ report = .new) ∨
    (last = none ∧ r.vehicleOf carrier = some vehicle ∧ report = .unchanged) ∨
    (∃ u, last = none ∧ r.vehicleOf carrier = some u ∧ u ≠ vehicle ∧ report = .moved u) := by
  intro report last
  have answer := putCarrier_report r carrier vehicle
  cases found : last with
  | some other => exact .inl ⟨other, rfl, by simpa [last, found] using answer⟩
  | none =>
    cases place : r.vehicleOf carrier with
    | none => exact .inr (.inl ⟨rfl, rfl, by simpa [last, found, place] using answer⟩)
    | some previous =>
      by_cases same : previous = vehicle
      · subst same
        exact .inr (.inr (.inl ⟨rfl, rfl, by simpa [last, found, place] using answer⟩))
      · exact .inr (.inr (.inr ⟨previous, rfl, rfl, same, by simpa [last, found, place, same] using answer⟩))

theorem putCarrier_shared_iff (w : Int) :
    (r.putCarrier carrier vehicle).2 = .shared w ↔ (r.othersOn vehicle carrier).getLast? = some w := by
  rcases putCarrier_report_cases r carrier vehicle with
    ⟨other, last, report⟩ | ⟨last, -, report⟩ | ⟨last, -, report⟩ | ⟨u, last, -, -, report⟩ <;>
    simp [report, last, eq_comm]

theorem putCarrier_new_iff :
    (r.putCarrier carrier vehicle).2 = .new ↔
      (r.othersOn vehicle carrier).getLast? = none ∧ r.vehicleOf carrier = none := by
  rcases putCarrier_report_cases r carrier vehicle with
    ⟨other, last, report⟩ | ⟨last, place, report⟩ | ⟨last, place, report⟩ | ⟨u, last, place, -, report⟩
  · simp [report, last]
  all_goals simp [report, last, place]

theorem putCarrier_unchanged_iff :
    (r.putCarrier carrier vehicle).2 = .unchanged ↔
      (r.othersOn vehicle carrier).getLast? = none ∧ r.vehicleOf carrier = some vehicle := by
  rcases putCarrier_report_cases r carrier vehicle with
    ⟨other, last, report⟩ | ⟨last, place, report⟩ | ⟨last, place, report⟩ | ⟨u, last, place, away, report⟩
  · simp [report, last]
  · simp [report, place]
  · simp [report, last, place]
  · simp [report, place, away]

theorem putCarrier_moved_iff (u : Int) :
    (r.putCarrier carrier vehicle).2 = .moved u ↔
      (r.othersOn vehicle carrier).getLast? = none ∧ r.vehicleOf carrier = some u ∧ u ≠ vehicle := by
  rcases putCarrier_report_cases r carrier vehicle with
    ⟨other, last, report⟩ | ⟨last, place, report⟩ | ⟨last, place, report⟩ | ⟨from_, last, place, away, report⟩
  · simp [report, last]
  · simp [report, place]
  · simp only [report, place, reduceCtorEq, Option.some.injEq, false_iff]
    rintro ⟨-, back, ahead⟩
    exact ahead back.symm
  · simp only [report, last, place, Assignment.moved.injEq, Option.some.injEq, true_and]
    exact ⟨fun moved => ⟨moved, moved ▸ away⟩, And.left⟩

end Report

variable {r : Relations} {ops : List StoreOp}

/-- The other carriers on a vehicle are those whose place is the vehicle. -/
theorem Coherent.mem_othersOn (h : r.Coherent) {vehicle carrier other : Int} :
    other ∈ r.othersOn vehicle carrier ↔ other ≠ carrier ∧ r.vehicleOf other = some vehicle := by
  rw [othersOn, List.mem_filter, h.mem_carriersOn, bne_iff_ne, and_comm]

/-- The other carriers on a vehicle stay ordered by when the run last put them there. -/
theorem RecencyOrdered.othersOn (order : r.RecencyOrdered ops) (vehicle carrier : Int) :
    (r.othersOn vehicle carrier).Pairwise fun a b => StoreOp.lastPut ops a < StoreOp.lastPut ops b :=
  (order vehicle).filter _

/-- The last of the other carriers on a vehicle is the one the run put there most recently. -/
theorem Coherent.getLast?_othersOn_eq_some (h : r.Coherent) (order : r.RecencyOrdered ops)
    (vehicle carrier w : Int) :
    (r.othersOn vehicle carrier).getLast? = some w ↔
      w ≠ carrier ∧ r.vehicleOf w = some vehicle ∧
        ∀ other, other ≠ carrier → r.vehicleOf other = some vehicle →
          StoreOp.lastPut ops other ≤ StoreOp.lastPut ops w := by
  rw [getLast?_eq_some_iff_of_pairwise (order.othersOn vehicle carrier), h.mem_othersOn]
  simp only [h.mem_othersOn, and_imp, and_assoc]

/-- A vehicle has no other carrier exactly when no carrier but the given one is on it. -/
theorem Coherent.getLast?_othersOn_eq_none (h : r.Coherent) (vehicle carrier : Int) :
    (r.othersOn vehicle carrier).getLast? = none ↔
      ∀ other, other ≠ carrier → r.vehicleOf other ≠ some vehicle := by
  rw [List.getLast?_eq_none_iff, List.eq_nil_iff_forall_not_mem]
  simp only [h.mem_othersOn, not_and]

/-- On every reachable state, a put reports the newest other carrier on the vehicle, or else how
the carrier's own place changed; the vehicle it leaves loses it. -/
theorem putCarrier_reports_displaced (ops : List StoreOp) (carrier vehicle : Int) :
    let r := replay ops
    let put := r.putCarrier carrier vehicle
    let alone := ∀ other, other ≠ carrier → r.vehicleOf other ≠ some vehicle
    ((∃ w, put.2 = .shared w) ↔ ∃ other, other ≠ carrier ∧ r.vehicleOf other = some vehicle) ∧
    (∀ w, put.2 = .shared w ↔ w ≠ carrier ∧ r.vehicleOf w = some vehicle ∧
      ∀ other, other ≠ carrier → r.vehicleOf other = some vehicle →
        StoreOp.lastPut ops other ≤ StoreOp.lastPut ops w) ∧
    (put.2 = .new ↔ alone ∧ r.vehicleOf carrier = none) ∧
    (put.2 = .unchanged ↔ alone ∧ r.vehicleOf carrier = some vehicle) ∧
    (∀ u, put.2 = .moved u ↔ alone ∧ r.vehicleOf carrier = some u ∧ u ≠ vehicle) ∧
    (∀ u, r.vehicleOf carrier = some u → u ≠ vehicle →
      put.1.carriersOn u = (r.carriersOn u).filter (· != carrier)) := by
  intro r put alone
  have h := coherent_replay ops
  have order := recencyOrdered_replay ops
  have lonely : (r.othersOn vehicle carrier).getLast? = none ↔ alone :=
    h.getLast?_othersOn_eq_none vehicle carrier
  refine ⟨?_, fun w => ?_, ?_, ?_, fun u => ?_, fun u _ left => ?_⟩
  · constructor
    · rintro ⟨w, shared⟩
      obtain ⟨differs, on, -⟩ :=
        (h.getLast?_othersOn_eq_some order vehicle carrier w).mp ((putCarrier_shared_iff r carrier vehicle w).mp shared)
      exact ⟨w, differs, on⟩
    · rintro ⟨other, differs, on⟩
      obtain ⟨w, last⟩ := Option.ne_none_iff_exists'.mp fun none => lonely.mp none other differs on
      exact ⟨w, (putCarrier_shared_iff r carrier vehicle w).mpr last⟩
  · rw [putCarrier_shared_iff, h.getLast?_othersOn_eq_some order]
  · rw [putCarrier_new_iff, lonely]
  · rw [putCarrier_unchanged_iff, lonely]
  · rw [putCarrier_moved_iff, lonely]
  · rw [h.carriersOn_putCarrier, if_neg left]

/-- Carrier 1 leaves vehicle 5 for vehicle 6, where carrier 2 already is: the put reports carrier 2,
and vehicle 5 is vacated all the same. -/
example :
    let put := (replay [.putCarrier 1 5, .putCarrier 2 6]).putCarrier 1 6
    put.2 = .shared 2 ∧ put.1.carriersOn 5 = [] := by
  decide

end FleetIssues.Fleet.Relations
