import FleetIssues.Json.Value
/-! Objects kept sorted by key. -/

namespace FleetIssues.Json

namespace Value

variable {key : String} {v : Value} {acc : List (String × Value)}

theorem mem_insertSorted {m : String × Value} (mem : m ∈ insertSorted key v acc) :
    m = (key, v) ∨ m ∈ acc := by
  induction acc with
  | nil => simpa [insertSorted] using mem
  | cons n rest ih =>
    obtain ⟨k, w⟩ := n
    simp only [insertSorted] at mem
    split at mem
    · simp at mem; rcases mem with rfl | mem <;> simp [*]
    · split at mem
      · simp at mem; rcases mem with rfl | rfl | mem <;> simp [*]
      · simp at mem
        rcases mem with rfl | mem
        · simp
        · rcases ih mem with rfl | mem <;> simp [*]

theorem insertSorted_sorted (sorted : (acc.map Prod.fst).Pairwise (· < ·)) :
    ((insertSorted key v acc).map Prod.fst).Pairwise (· < ·) := by
  induction acc with
  | nil => simp [insertSorted]
  | cons n rest ih =>
    obtain ⟨k, w⟩ := n
    simp only [List.map_cons, List.pairwise_cons] at sorted
    obtain ⟨below, sortedRest⟩ := sorted
    simp only [insertSorted]
    split
    next same =>
      simp only [beq_iff_eq] at same
      subst same
      simp only [List.map_cons, List.pairwise_cons]
      exact ⟨below, sortedRest⟩
    next differ =>
      simp only [beq_iff_eq] at differ
      split
      next less =>
        simp only [List.map_cons, List.pairwise_cons, List.mem_cons, forall_eq_or_imp]
        exact ⟨⟨less, fun k' mem => String.lt_trans less (below k' mem)⟩, below, sortedRest⟩
      next notLess =>
        -- the key goes after `k`, which stays below everything after it
        have above : k < key := String.not_le.mp fun le =>
          differ (String.le_antisymm le (String.not_lt.mp notLess))
        simp only [List.map_cons, List.pairwise_cons]
        refine ⟨fun k' mem => ?_, ih sortedRest⟩
        obtain ⟨m, inserted, rfl⟩ := List.mem_map.mp mem
        rcases mem_insertSorted inserted with rfl | old
        · exact above
        · exact below m.1 (List.mem_map_of_mem old)

theorem insertSorted_of_lt (above : ∀ m ∈ acc, m.1 < key) :
    insertSorted key v acc = acc ++ [(key, v)] := by
  induction acc with
  | nil => rfl
  | cons m rest ih =>
    obtain ⟨k, w⟩ := m
    have below : k < key := above (k, w) List.mem_cons_self
    have differ : (key == k) = false := by
      simp only [beq_eq_false_iff_ne]; rintro rfl; exact String.lt_irrefl _ below
    rw [insertSorted, differ, if_neg Bool.false_ne_true, if_neg (String.lt_asymm below),
      ih (fun m mem => above m (.tail _ mem))]
    rfl

/-- A sorted object holds some of the members it was given, sorted by strictly increasing key. -/
theorem sortedObject_members (members : List (String × Value)) :
    ∃ sorted, sortedObject members = .object sorted ∧
      (sorted.map Prod.fst).Pairwise (· < ·) ∧ ∀ m ∈ sorted, m ∈ members := by
  suffices fold : ∀ acc : List (String × Value), (acc.map Prod.fst).Pairwise (· < ·) →
      let result := members.foldl (fun acc m => insertSorted m.1 m.2 acc) acc
      (result.map Prod.fst).Pairwise (· < ·) ∧ ∀ m ∈ result, m ∈ acc ∨ m ∈ members by
    obtain ⟨sorted, given⟩ := fold [] List.Pairwise.nil
    exact ⟨_, rfl, sorted, fun m mem => (given m mem).resolve_left List.not_mem_nil⟩
  induction members with
  | nil => intro acc sorted; exact ⟨sorted, fun m mem => .inl mem⟩
  | cons n rest ih =>
    intro acc sorted
    obtain ⟨sortedAll, given⟩ := ih (insertSorted n.1 n.2 acc) (insertSorted_sorted sorted)
    refine ⟨sortedAll, fun m mem => ?_⟩
    rcases given m mem with inserted | later
    · rcases mem_insertSorted inserted with rfl | old
      · exact .inr List.mem_cons_self
      · exact .inl old
    · exact .inr (.tail _ later)

/-- Members already sorted by strictly increasing key are kept as they are. -/
theorem sortedObject_of_sorted {members : List (String × Value)}
    (sorted : (members.map Prod.fst).Pairwise (· < ·)) :
    sortedObject members = .object members := by
  -- each member is inserted above all members before it, so it goes last
  suffices keep : ∀ acc : List (String × Value), ((acc ++ members).map Prod.fst).Pairwise (· < ·) →
      members.foldl (fun acc m => insertSorted m.1 m.2 acc) acc = acc ++ members by
    rw [sortedObject, keep [] (by simpa using sorted), List.nil_append]
  clear sorted
  induction members with
  | nil => simp
  | cons m rest ih =>
    intro acc sorted
    have above : ∀ n ∈ acc, n.1 < m.1 := by
      intro n mem
      simp only [List.map_append, List.map_cons, List.pairwise_append, List.pairwise_cons] at sorted
      exact sorted.2.2 n.1 (List.mem_map_of_mem mem) m.1 List.mem_cons_self
    rw [List.foldl_cons, insertSorted_of_lt above, ih (acc ++ [m]) (by simpa using sorted)]
    simp

end Value

end FleetIssues.Json
