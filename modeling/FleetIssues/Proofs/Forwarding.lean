import FleetIssues.Auth.Gateway
import FleetIssues.Caller
import FleetIssues.Proofs.CompactText
import FleetIssues.Proofs.Access
import Mathlib
/-! The identity the gateway forwards, read back by the service. -/

namespace FleetIssues.Text

/-- A printable ASCII character other than space is not blank. -/
theorem isBlank_eq_false_of_graphic {c : Char} (low : 33 ≤ c.toNat) (high : c.toNat ≤ 126) :
    isBlank c = false := by
  simp only [isBlank, Bool.or_eq_false_iff, Bool.and_eq_false_iff, decide_eq_false_iff_not,
    beq_eq_false_iff_ne]
  omega

/-- The code of an ASCII lower-case letter after upper-casing. -/
theorem toNat_toUpper_of_isLower {c : Char} (lower : c.isLower = true) :
    97 ≤ c.toNat ∧ c.toNat ≤ 122 ∧ c.toUpper.toNat = c.toNat - 32 := by
  have range : 97 ≤ c.toNat ∧ c.toNat ≤ 122 := by
    simpa [Char.isLower, UInt32.le_iff_toNat_le] using lower
  have valid : (c.toNat - 32).isValidChar := by
    simp [Nat.isValidChar]; omega
  exact ⟨range.1, range.2, by rw [Char.toUpper_eq_of_isLower lower, Char.toNat_ofNat, if_pos valid]⟩

/-- Upper-casing ASCII letters keeps a character blank or not. -/
theorem isBlank_toUpper (c : Char) : isBlank c.toUpper = isBlank c := by
  by_cases lower : c.isLower
  · obtain ⟨low, high, upper⟩ := toNat_toUpper_of_isLower lower
    rw [isBlank_eq_false_of_graphic (by omega) (by omega),
      isBlank_eq_false_of_graphic (by omega) (by omega)]
  · rw [Char.toUpper_eq_of_not_isLower lower]

/-- Only a comma upper-cases to a comma. -/
theorem eq_comma_of_toUpper {c : Char} (comma : c.toUpper = ',') : c = ',' := by
  by_cases lower : c.isLower
  · obtain ⟨low, high, upper⟩ := toNat_toUpper_of_isLower lower
    rw [comma] at upper
    simp at upper
    omega
  · rwa [Char.toUpper_eq_of_not_isLower lower] at comma

@[simp] theorem asciiUpper_toList (s : String) : (asciiUpper s).toList = s.toList.map Char.toUpper := by
  simp [asciiUpper]

theorem asciiUpper_append (a b : String) : asciiUpper (a ++ b) = asciiUpper a ++ asciiUpper b := by
  simp [asciiUpper, String.ofList_append]

/-- Dropping blank characters from the front of a text that starts with none keeps it whole. -/
theorem dropWhile_isBlank_of_head {cs : List Char} (solid : ∀ c ∈ cs.head?, isBlank c = false) :
    cs.dropWhile isBlank = cs := by
  cases cs with
  | nil => rfl
  | cons c rest => simp [solid c rfl]

/-- What is left after dropping blank characters from the front starts with none. -/
theorem head?_dropWhile_isBlank (cs : List Char) : ∀ c ∈ (cs.dropWhile isBlank).head?, isBlank c = false := by
  intro c first
  cases kept : cs.dropWhile isBlank with
  | nil => simp [kept] at first
  | cons d rest =>
    have solid := @List.head_dropWhile_not _ isBlank cs (by simp [kept])
    simp only [kept, List.head?_cons, Option.mem_def, Option.some.injEq] at first
    simpa [kept, first] using solid

/-- A text that neither starts nor ends with a blank character is its own trimming. -/
theorem trimBlankList_eq_self {cs : List Char} (front : ∀ c ∈ cs.head?, isBlank c = false)
    (back : ∀ c ∈ cs.getLast?, isBlank c = false) : trimBlankList cs = cs := by
  rw [trimBlankList, dropWhile_isBlank_of_head front,
    dropWhile_isBlank_of_head (by simpa [List.head?_reverse] using back), List.reverse_reverse]

/-- A trimmed text does not end with a blank character. -/
theorem getLast?_trimBlankList (cs : List Char) :
    ∀ c ∈ (trimBlankList cs).getLast?, isBlank c = false := by
  rw [trimBlankList, List.getLast?_reverse]
  exact head?_dropWhile_isBlank _

theorem mem_of_mem_trimBlankList {cs : List Char} {c : Char} (kept : c ∈ trimBlankList cs) : c ∈ cs := by
  rw [trimBlankList, List.mem_reverse] at kept
  exact (List.dropWhile_sublist _).subset (List.mem_reverse.mp ((List.dropWhile_sublist _).subset kept))

/-- Reading digits away from zero from a partial value reaches the value of all the digits when
that value fits: every partial value lies between zero and it. -/
theorem readDigits_ofDigitChars {sign : Int} (unit : sign = 1 ∨ sign = -1) (ds : List Char)
    (acc : Nat) (digits : ∀ c ∈ ds, c.isDigit = true)
    (fits : fitsInt64 (sign * Nat.ofDigitChars 10 ds acc) = true) :
    readDigits sign (sign * acc) ds = .ok (sign * Nat.ofDigitChars 10 ds acc) := by
  induction ds generalizing acc with
  | nil => simp [readDigits]
  | cons c ds ih =>
    have digit := digits c List.mem_cons_self
    rw [Nat.ofDigitChars_cons] at fits ⊢
    have grows := Json.le_ofDigitChars ds (10 * acc + (c.toNat - '0'.toNat))
    have step : sign * acc * 10 + sign * ((c.toNat - '0'.toNat : Nat) : Int) =
        sign * ((10 * acc + (c.toNat - '0'.toNat) : Nat) : Int) := by
      push_cast; ring
    have bounds := fits
    have range : int64Min ≤ 0 ∧ 0 ≤ int64Max := by decide
    simp only [fitsInt64, Bool.and_eq_true, decide_eq_true_eq] at bounds
    simp only [readDigits, digit, if_true, step]
    rw [if_neg, if_neg]
    · exact ih _ (fun d mem => digits d (List.mem_cons_of_mem c mem)) fits
    · rcases unit with rfl | rfl <;> omega
    · rcases unit with rfl | rfl <;> omega

/-- The decimal digits of a number are ASCII digits. -/
theorem isDigit_of_mem_toDigits {n : Nat} {c : Char} (mem : c ∈ Nat.toDigits 10 n) : c.isDigit = true :=
  Nat.isDigit_of_mem_toDigits (by decide) (by decide) mem

/-- A 64-bit integer written in decimal reads back as itself. -/
theorem parseInt64_toString {i : Int} (fits : fitsInt64 i = true) : parseInt64 (toString i) = .ok i := by
  rcases Int.lt_or_le i 0 with negative | nonnegative
  · have magnitude : -1 * (i.natAbs : Int) = i := by omega
    obtain ⟨d, ds, digitsEq⟩ := List.exists_cons_of_ne_nil (@Nat.toDigits_ne_nil i.natAbs 10)
    have value := readDigits_ofDigitChars (Or.inr rfl : (-1 : Int) = 1 ∨ (-1 : Int) = -1)
      (Nat.toDigits 10 i.natAbs) 0 (fun c mem => isDigit_of_mem_toDigits mem)
      (by rw [Nat.ofDigitChars_ten_toDigits, magnitude]; exact fits)
    rw [Nat.ofDigitChars_ten_toDigits, magnitude, digitsEq] at value
    rw [parseInt64, Json.toList_toString_of_neg negative, digitsEq]
    simpa only [Nat.cast_zero, Int.mul_zero] using value
  · obtain ⟨n, rfl⟩ := Int.eq_ofNat_of_zero_le nonnegative
    obtain ⟨d, ds, digitsEq⟩ := List.exists_cons_of_ne_nil (@Nat.toDigits_ne_nil n 10)
    have digit := isDigit_of_mem_toDigits (digitsEq ▸ List.mem_cons_self : d ∈ Nat.toDigits 10 n)
    have value := readDigits_ofDigitChars (Or.inl rfl : (1 : Int) = 1 ∨ (1 : Int) = -1) (Nat.toDigits 10 n) 0
      (fun c mem => isDigit_of_mem_toDigits mem) (by simpa using fits)
    rw [Nat.ofDigitChars_ten_toDigits, digitsEq] at value
    have written : (toString (n : Int)).toList = d :: ds := by
      simp [Int.toString_eq_repr, Int.repr, Nat.repr_eq_ofList_toDigits, digitsEq]
    have unsigned : d ≠ '+' ∧ d ≠ '-' := by
      constructor <;> rintro rfl <;> simp at digit
    rw [parseInt64, written]
    simpa [unsigned.1, unsigned.2] using value

/-- A digit is not blank. -/
theorem isBlank_of_isDigit {c : Char} (digit : c.isDigit = true) : isBlank c = false := by
  have range : 48 ≤ c.toNat ∧ c.toNat ≤ 57 := by simpa using Char.isDigit_iff_toNat.mp digit
  exact isBlank_eq_false_of_graphic (by omega) (by omega)

/-- An integer written in decimal is its own trimming: no digit and no minus sign is blank. -/
theorem trimBlank_toString (i : Int) : trimBlank (toString i) = toString i := by
  have solid : ∀ c ∈ (toString i).toList, isBlank c = false := by
    intro c written
    rcases Int.lt_or_le i 0 with negative | nonnegative
    · rw [Json.toList_toString_of_neg negative] at written
      rcases List.mem_cons.mp written with rfl | digit
      · decide
      · exact isBlank_of_isDigit (isDigit_of_mem_toDigits digit)
    · obtain ⟨n, rfl⟩ := Int.eq_ofNat_of_zero_le nonnegative
      have digits : (toString (n : Int)).toList = Nat.toDigits 10 n := by
        simp [Int.toString_eq_repr, Int.repr, Nat.repr_eq_ofList_toDigits]
      rw [digits] at written
      exact isBlank_of_isDigit (isDigit_of_mem_toDigits written)
  rw [← String.toList_inj, trimBlank_toList]
  exact trimBlankList_eq_self (fun c first => solid c (List.mem_of_mem_head? first))
    (fun c last => solid c (List.mem_of_getLast? last))

end FleetIssues.Text

namespace FleetIssues

open Text

/-- A role name as a role set holds it: not empty, its ASCII letters upper-cased, no blank at its
end and no comma in it. -/
structure RoleName (r : String) : Prop where
  nonempty : r ≠ ""
  upper : asciiUpper r = r
  lastSolid : ∀ c ∈ r.toList.getLast?, isBlank c = false
  noComma : ',' ∉ r.toList

/-- A suffix that is not empty ends where the whole list ends. -/
theorem getLast?_of_suffix {xs ys : List Char} (tail : xs <:+ ys) (nonnil : xs ≠ []) :
    xs.getLast? = ys.getLast? := by
  obtain ⟨front, rfl⟩ := tail
  exact (List.getLast?_append_of_ne_nil front nonnil).symm

/-- The characters of a canonical role: the trimmed, upper-cased name, less a leading `ROLE_`. -/
theorem normalizeRole_toList (role : String) :
    let upper := (trimBlankList role.toList).map Char.toUpper
    (normalizeRole role).toList = if rolePrefix.toList <+: upper then upper.drop 5 else upper := by
  intro upper
  have starts : (asciiUpper (trimBlank role)).startsWith rolePrefix = decide (rolePrefix.toList <+: upper) := by
    rw [Bool.eq_iff_iff, String.startsWith_string_iff]
    simp [upper]
  simp only [normalizeRole, starts, decide_eq_true_eq]
  split <;> simp [upper]

/-- A canonical role is the tail of the trimmed, upper-cased name. -/
theorem normalizeRole_suffix (role : String) :
    (normalizeRole role).toList <:+ (trimBlankList role.toList).map Char.toUpper := by
  rw [normalizeRole_toList]
  split
  · exact List.drop_suffix 5 _
  · exact List.suffix_refl _

/-- The ASCII letters of a canonical role are upper-case already. -/
theorem asciiUpper_normalizeRole (role : String) : asciiUpper (normalizeRole role) = normalizeRole role := by
  rw [← String.toList_inj, asciiUpper_toList]
  refine (List.map_congr_left fun c mem => ?_).trans (List.map_id _)
  obtain ⟨d, -, rfl⟩ := List.mem_map.mp ((normalizeRole_suffix role).subset mem)
  exact Char.toUpper_toUpper_eq_toUpper d

/-- A canonical role does not end with a blank character. -/
theorem getLast?_normalizeRole (role : String) :
    ∀ c ∈ (normalizeRole role).toList.getLast?, isBlank c = false := by
  intro c last
  have nonnil : (normalizeRole role).toList ≠ [] := by
    rintro empty
    simp [empty] at last
  rw [getLast?_of_suffix (normalizeRole_suffix role) nonnil, List.getLast?_map] at last
  obtain ⟨d, trimmedLast, rfl⟩ := Option.map_eq_some_iff.mp last
  rw [isBlank_toUpper]
  exact getLast?_trimBlankList _ d trimmedLast

/-- A canonical role that is not empty, read from a name with no comma, is a role name. -/
theorem roleName_normalizeRole {role : String} (nonempty : normalizeRole role ≠ "")
    (noComma : ',' ∉ role.toList) : RoleName (normalizeRole role) := by
  refine ⟨nonempty, asciiUpper_normalizeRole role, getLast?_normalizeRole role, ?_⟩
  intro comma
  obtain ⟨d, kept, upperComma⟩ := List.mem_map.mp ((normalizeRole_suffix role).subset comma)
  exact noComma (eq_comma_of_toUpper upperComma ▸ mem_of_mem_trimBlankList kept)

/-- A role name written with the `ROLE_` prefix reads back as itself. -/
theorem normalizeRole_prefixed {r : String} (name : RoleName r) : normalizeRole (rolePrefix ++ r) = r := by
  have nonnil : r.toList ≠ [] := by simpa using name.nonempty
  -- The written name starts with `R` and ends where the role name ends, so trimming keeps it.
  have trimmed : trimBlank (rolePrefix ++ r) = rolePrefix ++ r := by
    rw [← String.toList_inj, trimBlank_toList]
    refine trimBlankList_eq_self (by simp [rolePrefix]; decide) ?_
    rw [String.toList_append, List.getLast?_append_of_ne_nil _ nonnil]
    exact name.lastSolid
  have upper : asciiUpper (rolePrefix ++ r) = rolePrefix ++ r := by
    rw [asciiUpper_append, name.upper]
    rfl
  have starts : (rolePrefix ++ r).startsWith rolePrefix = true := by
    rw [String.startsWith_string_iff, String.toList_append]
    exact List.prefix_append _ _
  simp only [normalizeRole, trimmed, upper, starts, if_true]
  rw [String.toList_append, List.drop_left' (by rfl), String.ofList_toList]

/-- No piece of a list cut at a separator holds the separator. -/
theorem not_mem_of_mem_splitOn {sep : Char} {xs piece : List Char} (cut : piece ∈ xs.splitOn sep) :
    sep ∉ piece := by
  induction xs generalizing piece with
  | nil =>
    rw [List.splitOn_nil, List.mem_singleton] at cut
    simp [cut]
  | cons x xs ih =>
    rw [List.splitOn_cons_eq_if_modifyHead] at cut
    split at cut
    · rcases List.mem_cons.mp cut with rfl | later
      · simp
      · exact ih later
    · rename_i other
      obtain ⟨first, rest, pieces⟩ := List.exists_cons_of_ne_nil (List.splitOn_ne_nil sep xs)
      rw [pieces, List.modifyHead_cons] at cut
      rcases List.mem_cons.mp cut with rfl | later
      · have firstClean := ih (pieces ▸ List.mem_cons_self : first ∈ xs.splitOn sep)
        simp only [beq_iff_eq] at other
        simp [firstClean, Ne.symm other]
      · exact ih (pieces ▸ List.mem_cons_of_mem first later)

/-- Collapsing runs keeps the first element of each run and drops the others. -/
theorem collapseRuns_eq_destutter (names : List String) : collapseRuns names = names.destutter (· ≠ ·) := by
  fun_induction collapseRuns names with
  | case1 => rfl
  | case2 a => rfl
  | case3 a b rest same ih =>
    rw [ih, beq_iff_eq.mp same]
    simp [List.destutter]
  | case4 a b rest differ ih =>
    rw [ih]
    simp only [beq_iff_eq] at differ
    simp [List.destutter, differ]

namespace RoleSet

/-- The roles of a header's role set are role names, with no two equal ones side by side. -/
theorem parse_roles (header : String) :
    (∀ r ∈ (parse header).roles, RoleName r) ∧ (parse header).roles.IsChain (· ≠ ·) := by
  simp only [parse, ofNames, collapseRuns_eq_destutter]
  refine ⟨fun r held => ?_, List.isChain_destutter _ _⟩
  have kept := (List.destutter_sublist _ _).subset held
  obtain ⟨named, nonempty⟩ := List.mem_filter.mp kept
  obtain ⟨name, written, rfl⟩ := List.mem_map.mp named
  obtain ⟨piece, cut, rfl⟩ := List.mem_map.mp written
  exact roleName_normalizeRole (by simpa using nonempty) (by simpa using not_mem_of_mem_splitOn cut)

/-- The header of a role set of role names, with no two equal ones side by side, reads back as
that role set. -/
theorem parse_toHeader {set : RoleSet} (names : ∀ r ∈ set.roles, RoleName r)
    (runs : set.roles.IsChain (· ≠ ·)) : parse set.toHeader = set := by
  obtain ⟨roles⟩ := set
  rcases List.eq_nil_or_concat' roles with rfl | nonempty
  · rfl
  have nonnil : roles ≠ [] := by
    obtain ⟨front, last, rfl⟩ := nonempty
    simp
  -- The header is the prefixed names joined by commas, and none of them holds a comma.
  have pieces : (toHeader ⟨roles⟩).toList.splitOn ',' = roles.map fun r => (rolePrefix ++ r).toList := by
    rw [toHeader, String.toList_intercalate, List.map_map]
    refine List.splitOn_intercalate ',' (fun piece written => ?_) (by simpa using nonnil)
    obtain ⟨r, held, rfl⟩ := List.mem_map.mp written
    simpa [rolePrefix] using (names r held).noComma
  have unprefixed : roles.map (fun r => normalizeRole (rolePrefix ++ r)) = roles := by
    conv => rhs; rw [← List.map_id roles]
    exact List.map_congr_left fun r held => normalizeRole_prefixed (names r held)
  have allNonempty : roles.filter (fun r => !r.isEmpty) = roles :=
    List.filter_eq_self.mpr fun r held => by simpa using (names r held).nonempty
  have readBack : (roles.map fun r => (rolePrefix ++ r).toList).map String.ofList =
      roles.map (rolePrefix ++ ·) := by
    simp
  rw [parse, ofNames, pieces, readBack, List.map_map, Function.comp_def, unprefixed, allNonempty,
    collapseRuns_eq_destutter, List.destutter_of_isChain _ _ runs]

/-- Printing the role set of a header and reading it back gives that role set. -/
theorem parse_toHeader_parse (header : String) : parse (parse header).toHeader = parse header :=
  parse_toHeader (parse_roles header).1 (parse_roles header).2

end RoleSet

/-- The service finds the gateway's user id and roles headers first among the forwarded ones. -/
theorem Caller.ofHeaders_forwarded (identity : Auth.ForwardedIdentity) :
    Caller.ofHeaders ⟨identity.headers⟩ =
      Caller.ofHeaderValues (some (toString identity.userId)) (some identity.roles.toHeader) := by
  have idFirst : equalsIgnoringAsciiCase userIdHeader userIdHeader = true := by decide
  have rolesSecond : equalsIgnoringAsciiCase userIdHeader userRolesHeader = false := by decide
  have rolesFound : equalsIgnoringAsciiCase userRolesHeader userRolesHeader = true := by decide
  simp [Caller.ofHeaders, Auth.ForwardedIdentity.headers, Headers.get, idFirst, rolesSecond,
    rolesFound]

namespace Auth

/-- An admitted request carries a bearer token the table knows, whose roles the guard lets
through to the path, and the gateway forwards that token's subject and roles. -/
theorem Gateway.admit_eq_ok {gateway : Gateway} {path : String} {authorization : Option String}
    {identity : ForwardedIdentity} (admitted : gateway.admit path authorization = .ok identity) :
    ∃ token claims, bearerToken authorization = .ok token ∧ gateway.tokens.verify token = .ok claims ∧
      gateway.guard.authorize path (some claims.roles) = .ok () ∧
      identity = ⟨claims.subject, claims.roles⟩ := by
  obtain ⟨token, bearer, rest⟩ := Issue.bind_eq_ok admitted
  obtain ⟨claims, known, rest⟩ := Issue.bind_eq_ok rest
  cases guarded : gateway.guard.authorize path (some claims.roles) with
  | error e =>
    rw [guarded] at rest
    cases rest
  | ok u =>
    rw [guarded] at rest
    exact ⟨token, claims, bearer, known, guarded, (Except.ok.inj rest).symm⟩

/-- The caller the service reads from forwarded headers is the caller the token's claims name: a
64-bit subject and a role set both read back as themselves. -/
theorem forwarded_caller_matches_token_claims (gateway : Gateway) (path : String)
    (authorization : Option String) (token : String) (subject : Int) (rolesHeader : String)
    (fits : fitsInt64 subject = true) (bearer : bearerToken authorization = .ok token)
    (known : gateway.tokens.verify token = .ok ⟨subject, RoleSet.parse rolesHeader⟩)
    (identity : ForwardedIdentity) (admitted : gateway.admit path authorization = .ok identity) :
    let caller := Caller.ofHeaders ⟨identity.headers⟩
    let claimed : Caller := ⟨some subject, RoleSet.parse rolesHeader⟩
    caller = claimed ∧ (∀ role, caller.hasRole role = (RoleSet.parse rolesHeader).has role) ∧
      caller.isAdmin = claimed.isAdmin ∧ caller.asCarrier = claimed.asCarrier ∧
      caller.asManager = claimed.asManager ∧
      parseInt64? (trimBlank (toString subject)) = some subject ∧
      ∀ header, RoleSet.parse (RoleSet.parse header).toHeader = RoleSet.parse header := by
  intro caller claimed
  have subjectReads : parseInt64? (trimBlank (toString subject)) = some subject := by
    rw [trimBlank_toString, parseInt64?, parseInt64_toString fits]
  -- The gateway forwards the claims of the token it read.
  have forwarded : identity = ⟨subject, RoleSet.parse rolesHeader⟩ := by
    obtain ⟨token', claims, bearer', known', -, rfl⟩ := Gateway.admit_eq_ok admitted
    rw [bearer] at bearer'
    cases bearer'
    rw [known] at known'
    cases known'
    rfl
  have same : caller = claimed := by
    simp only [caller, claimed, Caller.ofHeaders_forwarded, forwarded, Caller.ofHeaderValues,
      Option.bind_some, subjectReads, Option.map_some, Option.getD_some,
      RoleSet.parse_toHeader_parse]
  exact ⟨same, fun role => by rw [same]; rfl, by rw [same], by rw [same], by rw [same], subjectReads,
    RoleSet.parse_toHeader_parse⟩

/-- The smallest 64-bit subject, with roles written with a doubled prefix, a blank after the
prefix, an entry that the prefix alone fills, an empty entry and a run, reaches the service
unchanged. -/
theorem forwarded_caller_of_extreme_subject :
    let roles := " role_ROLE_carrier ,ROLE_ x, ROLE_\t,,Manager,manager"
    let gateway : Gateway := ⟨TokenTable.empty.insert "t" ⟨int64Min, RoleSet.parse roles⟩, ⟨[]⟩⟩
    let identity : ForwardedIdentity := ⟨int64Min, RoleSet.parse roles⟩
    fitsInt64 int64Min = true ∧ bearerToken (some "Bearer t") = .ok "t" ∧
      gateway.tokens.verify "t" = .ok ⟨int64Min, RoleSet.parse roles⟩ ∧
      gateway.admit "/api/v1/issues" (some "Bearer t") = .ok identity ∧
      Caller.ofHeaders ⟨identity.headers⟩ = ⟨some int64Min, RoleSet.parse roles⟩ := by
  intro roles gateway identity
  have fits : fitsInt64 int64Min = true := by decide
  have bearer : bearerToken (some "Bearer t") = .ok "t" := by cbv
  have known : gateway.tokens.verify "t" = .ok ⟨int64Min, RoleSet.parse roles⟩ := by rfl
  have admitted : gateway.admit "/api/v1/issues" (some "Bearer t") = .ok identity := by
    unfold Gateway.admit
    rw [bearer]
    rfl
  exact ⟨fits, bearer, known, admitted, (forwarded_caller_matches_token_claims gateway _ _ "t"
    int64Min roles fits bearer known identity admitted).1⟩

end Auth

end FleetIssues
