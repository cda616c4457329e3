import FleetIssues.Issue.Basic
/-! The table of issues: rows kept in id order under ids handed out from a counter. -/

namespace FleetIssues.Issue

/-- Why the table refuses a write. -/
inductive TableError where
  | notFound (id : Int)
  deriving DecidableEq, Repr

/-- The sentence of a table error. -/
def TableError.message : TableError → String
  | .notFound id => "Issue not found: " ++ toString id

/-- The issues, and the last id handed out: a 64-bit signed word, which wraps from the largest
value to the smallest as a release build's `+=` does. -/
structure IssueTable where
  lastId : Int64
  rows : List Issue
  deriving DecidableEq, Repr

/-- Puts a row in its place among rows in id order, replacing the row of the same id. -/
def insertRow (issue : Issue) : List Issue → List Issue
  | [] => [issue]
  | row :: rows =>
    if issue.id < row.id then issue :: row :: rows
    else if issue.id = row.id then issue :: rows
    else row :: insertRow issue rows

namespace IssueTable

/-- The table with no issue. -/
def empty : IssueTable := ⟨0, []⟩

/-- Stores a draft under the next id. -/
def insert (t : IssueTable) (draft : IssueDraft) : IssueTable × Issue :=
  let issue := draft.toIssue (t.lastId + 1).toInt
  (⟨t.lastId + 1, insertRow issue t.rows⟩, issue)

/-- Below the largest value, the next id is one more than the last. -/
theorem lastId_add_one_toInt {lastId : Int64} (room : lastId ≠ Int64.maxValue) :
    (lastId + 1).toInt = lastId.toInt + 1 := by
  rw [Int64.toInt_add]
  have low := Int64.le_toInt lastId
  have high := Int64.toInt_le lastId
  have below : lastId.toInt ≠ Int64.maxValue.toInt := fun same => room (Int64.toInt_inj.mp same)
  have top : Int64.maxValue.toInt = 9223372036854775807 := by decide
  have one : (1 : Int64).toInt = 1 := by decide
  rw [top] at below high
  rw [one]
  apply Int.bmod_eq_of_le <;> omega

/-- Replaces the row of a live issue. -/
def save (t : IssueTable) (issue : Issue) : Except TableError IssueTable :=
  if t.rows.any (·.id == issue.id) then
    .ok { t with rows := t.rows.map (fun row => if row.id == issue.id then issue else row) }
  else .error (.notFound issue.id)

/-- The live issue of an id. -/
def findById (t : IssueTable) (id : Int) : Option Issue :=
  t.rows.find? (·.id == id)

/-- The live issues filed by a carrier. -/
def findByCarrier (t : IssueTable) (carrier : Int) : List Issue :=
  t.rows.filter (·.carrier == carrier)

/-- The live issues attributed to a manager. -/
def findByManager (t : IssueTable) (manager : Int) : List Issue :=
  t.rows.filter (·.manager == manager)

/-- The live issues of a type. -/
def findByType (t : IssueTable) (type : IssueType) : List Issue :=
  t.rows.filter (·.type == type)

/-- Removes an issue; answers whether it was live. -/
def delete (t : IssueTable) (id : Int) : IssueTable × Bool :=
  (⟨t.lastId, t.rows.filter (·.id != id)⟩, t.rows.any (·.id == id))

/-- The number of live issues. -/
def count (t : IssueTable) : Nat := t.rows.length

section Lookup

variable {table saved : IssueTable} {issue : Issue} {id : Int}

/-- The issue found under an id carries that id. -/
theorem id_of_findById (found : table.findById id = some issue) : issue.id = id := by
  simpa using List.find?_some found

/-- After a save, the issue is found under its id, and every other id finds what it found
before. -/
theorem findById_of_save (ok : table.save issue = .ok saved) (other : Int) :
    saved.findById other = if other = issue.id then some issue else table.findById other := by
  unfold save at ok
  split at ok
  · rename_i live
    cases ok
    have keep : (fun r : Issue => r.id == other) ∘ (fun r => if r.id == issue.id then issue else r) =
        (·.id == other) := by
      funext r
      by_cases same : r.id = issue.id <;> simp [same]
    simp only [findById, List.find?_map, keep]
    split
    · -- The first row under the issue's id is the one replaced.
      rename_i same
      subst same
      have listed : (table.rows.find? (·.id == issue.id)).isSome := by
        rw [List.isSome_find?]
        exact live
      obtain ⟨row, found⟩ := Option.isSome_iff_exists.mp listed
      have rowId : row.id = issue.id := by simpa using List.find?_some found
      simp [found, rowId]
    · rename_i differs
      cases found : table.rows.find? (·.id == other) with
      | none => rfl
      | some row =>
        have rowId : row.id = other := by simpa using List.find?_some found
        simp [rowId, differs]
  · cases ok

/-- A removal leaves no issue under its id, and every other id finds what it found before. -/
theorem findById_delete (table : IssueTable) (id other : Int) :
    (table.delete id).1.findById other = if other = id then none else table.findById other := by
  simp only [delete, findById, List.find?_filter]
  split
  · rename_i same
    subst same
    simp
  · rename_i differs
    have kept : (fun row : Issue => decide ((row.id != id) = true ∧ (row.id == other) = true)) =
        (·.id == other) := by
      funext row
      by_cases at_other : row.id = other
      · simp [at_other, differs]
      · simp [at_other]
    rw [kept]

end Lookup

end IssueTable

end FleetIssues.Issue
