import FleetIssues.Proofs.Forwarding
/-! When normalising a role again changes it. -/

namespace FleetIssues

open Text

/-- A role that normalising again leaves as it is: it starts with neither a blank character nor
the `ROLE_` prefix. -/
def StableRole (r : String) : Prop :=
  (∀ c ∈ r.toList.head?, isBlank c = false) ∧ r.startsWith rolePrefix = false

namespace Text

/-- Trimming drops blank characters from the front, then from the back of what is left. -/
theorem trimBlankList_eq_rdropWhile (cs : List Char) :
    trimBlankList cs = (cs.dropWhile isBlank).rdropWhile isBlank := rfl

theorem trimBlankList_sublist (cs : List Char) : (trimBlankList cs).Sublist cs := by
  rw [trimBlankList_eq_rdropWhile]
  exact (List.rdropWhile_prefix _ _).sublist.trans (List.dropWhile_sublist _)

/-- A trimmed text does not start with a blank character. -/
theorem head?_trimBlankList (cs : List Char) : ∀ c ∈ (trimBlankList cs).head?, isBlank c = false := by
  intro c first
  -- Trimming the back keeps a front of what trimming the front left.
  have front : trimBlankList cs <+: cs.dropWhile isBlank := by
    rw [trimBlankList_eq_rdropWhile]
    exact List.rdropWhile_prefix _ _
  have nonnil : trimBlankList cs ≠ [] := by
    rintro empty
    simp [empty] at first
  obtain ⟨rest, split⟩ := front
  apply head?_dropWhile_isBlank cs c
  rw [← split, List.head?_append_of_ne_nil _ nonnil]
  exact first

end Text

/-- A text is its own normal form exactly when it has no blank character at either end, its ASCII
letters are upper-case and it does not start with `ROLE_`. -/
theorem normalizeRole_eq_self_iff (r : String) :
    normalizeRole r = r ↔ trimBlank r = r ∧ asciiUpper r = r ∧ r.startsWith rolePrefix = false := by
  have trimmedShorter := (trimBlankList_sublist r.toList).length_le
  constructor
  · intro fixed
    have listed := normalizeRole_toList r
    dsimp only at listed
    rw [fixed] at listed
    -- Removing the prefix would shorten the text, so the normal form is the trimmed, upper-cased
    -- text, as long as the text itself.
    by_cases prefixed : rolePrefix.toList <+: (trimBlankList r.toList).map Char.toUpper
    · rw [if_pos prefixed] at listed
      have shorter := congrArg List.length listed
      have long := prefixed.length_le
      simp only [List.length_drop, List.length_map] at shorter long
      have five : rolePrefix.toList.length = 5 := rfl
      omega
    · rw [if_neg prefixed] at listed
      have sameLength : (trimBlankList r.toList).length = r.toList.length := by
        simpa using (congrArg List.length listed).symm
      have trimmed : trimBlankList r.toList = r.toList :=
        (trimBlankList_sublist r.toList).eq_of_length sameLength
      rw [trimmed] at listed prefixed
      have trimmedText : trimBlank r = r := by
        rw [← String.toList_inj, trimBlank_toList, trimmed]
      have upperText : asciiUpper r = r := by
        rw [← String.toList_inj, asciiUpper_toList]
        exact listed.symm
      rw [← listed] at prefixed
      exact ⟨trimmedText, upperText, by simpa [String.startsWith_string_iff] using prefixed⟩
  · rintro ⟨trimmed, upper, unprefixed⟩
    simp only [normalizeRole, trimmed, upper, unprefixed, Bool.false_eq_true, if_false]

/-- A normal form is trimmed exactly when it does not start with a blank character: it never ends
with one. -/
theorem trimBlank_normalizeRole_eq_self_iff (role : String) :
    trimBlank (normalizeRole role) = normalizeRole role ↔
      ∀ c ∈ (normalizeRole role).toList.head?, isBlank c = false := by
  rw [← String.toList_inj, trimBlank_toList]
  constructor
  · intro trimmed
    rw [← trimmed]
    exact head?_trimBlankList _
  · intro front
    exact trimBlankList_eq_self front (getLast?_normalizeRole role)

/-- Normalising twice agrees with normalising once exactly when the first normal form is stable. -/
theorem normalizeRole_normalizeRole_eq_iff (role : String) :
    normalizeRole (normalizeRole role) = normalizeRole role ↔ StableRole (normalizeRole role) := by
  rw [normalizeRole_eq_self_iff, trimBlank_normalizeRole_eq_self_iff, StableRole]
  simp only [asciiUpper_normalizeRole, true_and]

namespace RoleSet

/-- Every role of a header's role set is the normal form of one of its entries. -/
theorem exists_normalizeRole_of_mem_parse {header r : String} (held : r ∈ (parse header).roles) :
    ∃ role, normalizeRole role = r := by
  simp only [parse, ofNames, collapseRuns_eq_destutter] at held
  obtain ⟨named, -⟩ := List.mem_filter.mp ((List.destutter_sublist _ _).subset held)
  obtain ⟨role, -, normal⟩ := List.mem_map.mp named
  exact ⟨role, normal⟩

/-- A role of a header's role set is its own normal form exactly when it is stable. -/
theorem normalizeRole_eq_self_iff_of_mem_parse {header r : String} (held : r ∈ (parse header).roles) :
    normalizeRole r = r ↔ StableRole r := by
  obtain ⟨role, rfl⟩ := exists_normalizeRole_of_mem_parse held
  exact normalizeRole_normalizeRole_eq_iff role

/-- A stable role of a header's role set is held under its own name. -/
theorem has_of_stable {header r : String} (held : r ∈ (parse header).roles) (stable : StableRole r) :
    (parse header).has r = true := by
  rw [has, (normalizeRole_eq_self_iff_of_mem_parse held).mpr stable, List.any_eq_true]
  exact ⟨r, held, beq_self_eq_true r⟩

/-- Rebuilding a header's role set from its own roles gives it back exactly when all of them are
stable. Normalising, dropping empty names and collapsing runs each keep or shorten the list, so
the rebuilt set has the same roles only if every role is its own normal form. -/
theorem ofNames_roles_parse_iff (header : String) :
    ofNames (parse header).roles = parse header ↔ ∀ r ∈ (parse header).roles, StableRole r := by
  obtain ⟨names, runs⟩ := parse_roles header
  set roles := (parse header).roles
  have nonempty : roles.filter (fun r => !r.isEmpty) = roles :=
    List.filter_eq_self.mpr fun r held => by simpa using (names r held).nonempty
  constructor
  · intro rebuilt
    have same : collapseRuns ((roles.map normalizeRole).filter fun r => !r.isEmpty) = roles :=
      congrArg RoleSet.roles rebuilt
    rw [collapseRuns_eq_destutter] at same
    -- Neither collapsing runs nor dropping empty names can have shortened the list, so both kept
    -- it whole and normalising changed no role.
    have collapsedLength :=
      (List.destutter_sublist (· ≠ ·) ((roles.map normalizeRole).filter fun r => !r.isEmpty)).length_le
    have filteredLength := List.length_filter_le (fun r : String => !r.isEmpty) (roles.map normalizeRole)
    rw [same] at collapsedLength
    rw [List.length_map] at filteredLength
    have kept : (roles.map normalizeRole).filter (fun r => !r.isEmpty) = roles.map normalizeRole :=
      (List.filter_sublist).eq_of_length (by rw [List.length_map]; omega)
    rw [kept] at same
    have unchanged : roles.map normalizeRole = roles :=
      ((List.destutter_sublist _ _).eq_of_length (by rw [same, List.length_map])).symm.trans same
    have each := List.map_inj_left.mp (unchanged.trans (List.map_id roles).symm)
    exact fun r held => (normalizeRole_eq_self_iff_of_mem_parse held).mp (each r held)
  · intro stable
    have fixed : roles.map normalizeRole = roles := by
      conv => rhs; rw [← List.map_id roles]
      exact List.map_congr_left fun r held => (normalizeRole_eq_self_iff_of_mem_parse held).mpr (stable r held)
    change (⟨collapseRuns ((roles.map normalizeRole).filter fun r => !r.isEmpty)⟩ : RoleSet) = parse header
    rw [fixed, nonempty, collapseRuns_eq_destutter, List.destutter_of_isChain _ _ runs]

end RoleSet

/-- Normalising a role again changes it exactly when its normal form is not stable, and a parsed
role set is rebuilt from its roles exactly when all of them are stable. -/
theorem role_normalisation_settles_on_stable_roles (role header : String) :
    (normalizeRole (normalizeRole role) = normalizeRole role ↔ StableRole (normalizeRole role)) ∧
    (∀ r ∈ (RoleSet.parse header).roles, StableRole r → (RoleSet.parse header).has r = true) ∧
    (RoleSet.ofNames (RoleSet.parse header).roles = RoleSet.parse header ↔
      ∀ r ∈ (RoleSet.parse header).roles, StableRole r) :=
  ⟨normalizeRole_normalizeRole_eq_iff role, fun _ held stable => RoleSet.has_of_stable held stable,
    RoleSet.ofNames_roles_parse_iff header⟩

/-- `ROLE_ROLE_ADMIN` normalises to `ROLE_ADMIN`, which normalises again to `ADMIN`: the role set
of that header lists `ROLE_ADMIN` but does not hold it by that name, and rebuilding the set from
its roles gives `ADMIN`. -/
theorem doubled_prefix_role_renormalises :
    normalizeRole "ROLE_ROLE_ADMIN" = "ROLE_ADMIN" ∧
    normalizeRole (normalizeRole "ROLE_ROLE_ADMIN") = "ADMIN" ∧
    normalizeRole (normalizeRole "ROLE_ROLE_ADMIN") ≠ normalizeRole "ROLE_ROLE_ADMIN" ∧
    (RoleSet.parse "ROLE_ROLE_ADMIN").roles = ["ROLE_ADMIN"] ∧
    (RoleSet.parse "ROLE_ROLE_ADMIN").has "ROLE_ADMIN" = false ∧
    RoleSet.ofNames (RoleSet.parse "ROLE_ROLE_ADMIN").roles = ⟨["ADMIN"]⟩ := by
  cbv

end FleetIssues
