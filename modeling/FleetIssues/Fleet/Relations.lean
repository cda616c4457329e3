/-! The relations between vehicles, managers and carriers. -/

namespace FleetIssues.Fleet

/-- A table from integer keys to optional entries. -/
abbrev Table (α : Type) := Int → Option α

/-- The table with no entry. -/
def Table.empty {α : Type} : Table α := fun _ => none

/-- The table with the entry at one key replaced. -/
def Table.set {α : Type} (t : Table α) (key : Int) (entry : Option α) : Table α :=
  fun k => if k = key then entry else t k

@[simp]
theorem Table.set_same {α : Type} (t : Table α) (key : Int) (entry : Option α) :
    t.set key entry key = entry := by
  simp [Table.set]

@[simp]
theorem Table.set_other {α : Type} (t : Table α) {key k : Int} (entry : Option α) (h : k ≠ key) :
    t.set key entry k = t k := by
  simp [Table.set, h]

@[simp]
theorem Table.set_set {α : Type} (t : Table α) (key : Int) (first second : Option α) :
    (t.set key first).set key second = t.set key second := by
  funext k
  by_cases same : k = key <;> simp [Table.set, same]

/-- Writing back the entry a table already holds changes nothing. -/
theorem Table.set_of_eq {α : Type} {t : Table α} {key : Int} {entry : Option α} (h : t key = entry) :
    t.set key entry = t := by
  funext k
  by_cases same : k = key
  · subst same
    simp [h]
  · simp [same]

/-- How putting a carrier on a vehicle changed its place. -/
inductive Assignment where
  | new
  | unchanged
  | moved (previous : Int)
  | shared (other : Int)
  deriving DecidableEq, Repr

/-- The relations between vehicles, managers and carriers. -/
structure Relations where
  owner : Table Int
  vehicleOf : Table Int
  backfill : Table Int
  occupants : Table (List Int)

namespace Relations

/-- No relations yet. -/
def empty : Relations := ⟨Table.empty, Table.empty, Table.empty, Table.empty⟩

/-- The occupants of a vehicle without one carrier; a vehicle left with none loses its entry. -/
def vacate (occupants : Table (List Int)) (vehicle carrier : Int) : Table (List Int) :=
  match occupants vehicle with
  | some carriers =>
    let left := carriers.filter (· != carrier)
    occupants.set vehicle (if left.isEmpty then none else some left)
  | none => occupants

/-- Records the manager who owns a vehicle. -/
def putOwner (r : Relations) (vehicle manager : Int) : Relations :=
  { r with owner := r.owner.set vehicle (some manager) }

/-- Puts a carrier on a vehicle, as its most recent occupant, taking it off any other vehicle.
Reports another carrier still on the vehicle, the most recent one, before anything else. -/
def putCarrier (r : Relations) (carrier vehicle : Int) : Relations × Assignment :=
  let previous := r.vehicleOf carrier
  let occupants :=
    match previous with
    | some from_ => if from_ != vehicle then vacate r.occupants from_ carrier else r.occupants
    | none => r.occupants
  let others := ((occupants vehicle).getD []).filter (· != carrier)
  let assignment :=
    match others.getLast?, previous with
    | some other, _ => .shared other
    | none, none => .new
    | none, some from_ => if from_ == vehicle then .unchanged else .moved from_
  ({ r with
      vehicleOf := r.vehicleOf.set carrier (some vehicle)
      occupants := occupants.set vehicle (some (others ++ [carrier])) },
    assignment)

/-- Takes a carrier off its vehicle; answers the vehicle it was on. -/
def removeCarrier (r : Relations) (carrier : Int) : Relations × Option Int :=
  match r.vehicleOf carrier with
  | some vehicle =>
    ({ r with
        vehicleOf := r.vehicleOf.set carrier none
        occupants := vacate r.occupants vehicle carrier }, some vehicle)
  | none => (r, none)

/-- Keeps a manager for a carrier. -/
def putBackfill (r : Relations) (carrier manager : Int) : Relations :=
  { r with backfill := r.backfill.set carrier (some manager) }

/-- The most recent carrier still on a vehicle. -/
def lastOccupant (r : Relations) (vehicle : Int) : Option Int :=
  (r.occupants vehicle).bind List.getLast?

/-- Whether a carrier is on a vehicle. -/
def hasVehicle (r : Relations) (carrier : Int) : Bool :=
  (r.vehicleOf carrier).isSome

/-- Vacating touches only the vehicle left. -/
theorem vacate_other {occupants : Table (List Int)} {vehicle carrier k : Int} (h : k ≠ vehicle) :
    vacate occupants vehicle carrier k = occupants k := by
  cases found : occupants vehicle <;> simp [vacate, found, h]

/-- The vehicle left keeps its other carriers, in order. -/
theorem getD_vacate_self (occupants : Table (List Int)) (vehicle carrier : Int) :
    (vacate occupants vehicle carrier vehicle).getD [] =
      ((occupants vehicle).getD []).filter (· != carrier) := by
  cases found : occupants vehicle with
  | none => simp [vacate, found]
  | some carriers =>
    by_cases empty : (carriers.filter (· != carrier)).isEmpty
    · simp only [vacate, found, Table.set_same, empty, if_true, Option.getD_some, Option.getD_none]
      exact (List.isEmpty_iff.mp empty).symm
    · simp [vacate, found, empty]

/-- Vacating never leaves an empty list behind. -/
theorem vacate_self_ne_nil (occupants : Table (List Int)) (vehicle carrier : Int) :
    vacate occupants vehicle carrier vehicle ≠ some [] := by
  cases found : occupants vehicle with
  | none => simp [vacate, found]
  | some carriers =>
    by_cases empty : (carriers.filter (· != carrier)).isEmpty
    · simp [vacate, found, empty]
    · simp only [vacate, found, Table.set_same, empty, Bool.false_eq_true, if_false, ne_eq,
        Option.some.injEq]
      exact fun nil => empty (List.isEmpty_iff.mpr nil)

@[simp] theorem putOwner_owner (r : Relations) (vehicle manager : Int) :
    (r.putOwner vehicle manager).owner = r.owner.set vehicle (some manager) := rfl

@[simp] theorem putOwner_vehicleOf (r : Relations) (vehicle manager : Int) :
    (r.putOwner vehicle manager).vehicleOf = r.vehicleOf := rfl

@[simp] theorem putOwner_backfill (r : Relations) (vehicle manager : Int) :
    (r.putOwner vehicle manager).backfill = r.backfill := rfl

@[simp] theorem putOwner_occupants (r : Relations) (vehicle manager : Int) :
    (r.putOwner vehicle manager).occupants = r.occupants := rfl

@[simp] theorem putCarrier_owner (r : Relations) (carrier vehicle : Int) :
    (r.putCarrier carrier vehicle).1.owner = r.owner := rfl

@[simp] theorem putCarrier_vehicleOf (r : Relations) (carrier vehicle : Int) :
    (r.putCarrier carrier vehicle).1.vehicleOf = r.vehicleOf.set carrier (some vehicle) := rfl

@[simp] theorem putCarrier_backfill (r : Relations) (carrier vehicle : Int) :
    (r.putCarrier carrier vehicle).1.backfill = r.backfill := rfl

/-- The vehicle a carrier is put on lists it last, after the others still there. -/
theorem putCarrier_occupants_self (r : Relations) (carrier vehicle : Int) :
    (r.putCarrier carrier vehicle).1.occupants vehicle =
      some (((r.occupants vehicle).getD []).filter (· != carrier) ++ [carrier]) := by
  cases found : r.vehicleOf carrier with
  | none => simp [putCarrier, found]
  | some previous =>
    by_cases same : previous = vehicle
    · simp [putCarrier, found, same]
    · simp [putCarrier, found, same, vacate_other (Ne.symm same)]

/-- Putting a carrier on a vehicle answers another carrier still there, the most recent, before
anything else; otherwise whether the carrier was new, already there, or moved. -/
theorem putCarrier_assignment (r : Relations) (carrier vehicle : Int) :
    (r.putCarrier carrier vehicle).2 =
      match (((r.occupants vehicle).getD []).filter (· != carrier)).getLast?, r.vehicleOf carrier with
      | some other, _ => .shared other
      | none, none => .new
      | none, some previous => if previous == vehicle then .unchanged else .moved previous := by
  cases found : r.vehicleOf carrier with
  | none => simp [putCarrier, found]
  | some previous =>
    by_cases same : previous = vehicle
    · simp [putCarrier, found, same]
    · simp [putCarrier, found, same, vacate_other (Ne.symm same)]

/-- Any other vehicle loses the carrier only if the carrier was on it. -/
theorem putCarrier_occupants_other (r : Relations) {carrier vehicle k : Int} (h : k ≠ vehicle) :
    (r.putCarrier carrier vehicle).1.occupants k =
      if r.vehicleOf carrier = some k then vacate r.occupants k carrier k else r.occupants k := by
  cases found : r.vehicleOf carrier with
  | none => simp [putCarrier, found, h]
  | some previous =>
    by_cases same : previous = k
    · subst same
      simp [putCarrier, found, h]
    · by_cases moved : previous = vehicle
      · simp [putCarrier, found, h, moved, Ne.symm h]
      · simp [putCarrier, found, h, same, moved, vacate_other (Ne.symm same)]

@[simp] theorem removeCarrier_found (r : Relations) (carrier : Int) :
    (r.removeCarrier carrier).2 = r.vehicleOf carrier := by
  unfold removeCarrier
  split <;> simp_all

@[simp] theorem removeCarrier_owner (r : Relations) (carrier : Int) :
    (r.removeCarrier carrier).1.owner = r.owner := by
  unfold removeCarrier
  split <;> rfl

@[simp] theorem removeCarrier_backfill (r : Relations) (carrier : Int) :
    (r.removeCarrier carrier).1.backfill = r.backfill := by
  unfold removeCarrier
  split <;> rfl

@[simp] theorem removeCarrier_vehicleOf (r : Relations) (carrier : Int) :
    (r.removeCarrier carrier).1.vehicleOf = r.vehicleOf.set carrier none := by
  unfold removeCarrier
  split
  · rfl
  · rename_i missing
    funext k
    by_cases same : k = carrier
    · simp [same, missing]
    · simp [same]

/-- Taking a carrier off vacates the vehicle it was on and no other. -/
theorem removeCarrier_occupants (r : Relations) (carrier k : Int) :
    (r.removeCarrier carrier).1.occupants k =
      if r.vehicleOf carrier = some k then vacate r.occupants k carrier k else r.occupants k := by
  unfold removeCarrier
  split
  · rename_i vehicle found
    by_cases same : vehicle = k
    · subst same
      simp [found]
    · simp [found, same, vacate_other (Ne.symm same)]
  · rename_i missing
    simp [missing]

@[simp] theorem putBackfill_owner (r : Relations) (carrier manager : Int) :
    (r.putBackfill carrier manager).owner = r.owner := rfl

@[simp] theorem putBackfill_vehicleOf (r : Relations) (carrier manager : Int) :
    (r.putBackfill carrier manager).vehicleOf = r.vehicleOf := rfl

@[simp] theorem putBackfill_backfill (r : Relations) (carrier manager : Int) :
    (r.putBackfill carrier manager).backfill = r.backfill.set carrier (some manager) := rfl

@[simp] theorem putBackfill_occupants (r : Relations) (carrier manager : Int) :
    (r.putBackfill carrier manager).occupants = r.occupants := rfl

end Relations

end FleetIssues.Fleet
