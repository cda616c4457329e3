import FleetIssues.Auth.Gateway
/-! Rules for a path and everything below it. -/

namespace FleetIssues.Route

/-- A character other than `*`, `?` and `[` compiles to a step that reads it. -/
theorem compileFrom_literal_cons {c : Char} (literal : c ≠ '*' ∧ c ≠ '?' ∧ c ≠ '[') (position : Nat)
    (previous : Option Char) (tokens : List PatternToken) (rest : List Char) :
    compileFrom position previous tokens (c :: rest) =
      compileFrom (position + 1) (some c) (.literal c :: tokens) rest := by
  obtain ⟨notStar, notAny, notSet⟩ := literal
  rw [compileFrom]
  · exact notAny
  · exact notStar
  · exact notSet

/-- A run of such characters compiles to one reading step each; the character before the rest is
the last of the run. -/
theorem compileFrom_append_literals {cs : List Char} (literal : ∀ c ∈ cs, c ≠ '*' ∧ c ≠ '?' ∧ c ≠ '[') :
    ∀ (position : Nat) (previous : Option Char) (tokens : List PatternToken) (rest : List Char),
      compileFrom position previous tokens (cs ++ rest) =
        compileFrom (position + cs.length) (cs.getLast?.or previous) (cs.reverse.map .literal ++ tokens) rest := by
  induction cs with
  | nil => simp
  | cons c cs ih =>
    intro position previous tokens rest
    rw [List.cons_append, compileFrom_literal_cons (literal c List.mem_cons_self),
      ih (fun d mem => literal d (List.mem_cons_of_mem c mem))]
    cases last : cs.getLast? <;> simp [List.getLast?_cons, last, Nat.add_assoc, Nat.add_comm 1]

/-- A `**` that ends a pattern after a separator compiles to a run of components. -/
theorem compileFrom_trailing_components (position : Nat) {tokens : List PatternToken}
    (fresh : tokens.head? ≠ some .anyComponents) :
    compileFrom position (some '/') tokens ['*', '*'] = .ok (.anyComponents :: tokens).reverse := by
  rw [compileFrom]
  simp [leadingStars, isSeparator, fresh]

/-- A literal base followed by `/**` compiles to the base's characters, a separator and a run of
components. -/
theorem compile_subtree {base : String} (literal : ∀ c ∈ base.toList, c ≠ '*' ∧ c ≠ '?' ∧ c ≠ '[') :
    Pattern.compile (base ++ "/**") =
      .ok ⟨base ++ "/**", (base.toList ++ ['/']).map .literal ++ [.anyComponents]⟩ := by
  have separated : ∀ c ∈ base.toList ++ ['/'], c ≠ '*' ∧ c ≠ '?' ∧ c ≠ '[' := by
    intro c mem
    rcases List.mem_append.mp mem with inBase | slash
    · exact literal c inBase
    · rw [List.mem_singleton.mp slash]
      decide
  have text : (base ++ "/**").toList = (base.toList ++ ['/']) ++ ['*', '*'] := by
    simp
  rw [Pattern.compile, text, compileFrom_append_literals separated]
  simp only [List.getLast?_append, List.getLast?_singleton, Option.some_or, List.append_nil]
  rw [compileFrom_trailing_components _ (by simp)]
  simp [Except.map]

@[simp] theorem matchFrom_nil (after : Bool) (text : List Char) :
    matchFrom [] after text = if text.isEmpty then .matched else .restFails := by
  rw [matchFrom]

theorem matchFrom_anyComponents (rest : List PatternToken) (after : Bool) (text : List Char) :
    matchFrom (.anyComponents :: rest) after text =
      match matchFrom rest after text with
      | .restFails => scanRun true (matchFrom rest) after text
      | result => result := by
  rfl

theorem matchFrom_literal (c : Char) (rest : List PatternToken) (after : Bool) (text : List Char) :
    matchFrom (.literal c :: rest) after text =
      match text with
      | [] => .textExhausted
      | d :: more => if d == c then matchFrom rest (isSeparator d) more else .restFails := by
  cases text <;> simp [matchFrom, PatternToken.admits]

/-- A run of components with nothing after it reaches the end of any text. -/
theorem scanRun_components_nil (after : Bool) (text : List Char) :
    scanRun true (matchFrom []) after text = .matched := by
  induction text generalizing after with
  | nil => simp [scanRun]
  | cons c more ih =>
    rw [scanRun]
    by_cases separator : isSeparator c
    · cases more <;> simp [separator, ih]
    · simp [separator, ih]

/-- A run of components at the end of a pattern matches any rest. -/
theorem matchFrom_anyComponents_nil (after : Bool) (text : List Char) :
    matchFrom [.anyComponents] after text = .matched := by
  rw [matchFrom_anyComponents, matchFrom_nil]
  cases text with
  | nil => rfl
  | cons c more => simp [scanRun_components_nil]

/-- Reading steps followed by a run of components match exactly the texts that start with the
characters read. -/
theorem matchFrom_literals_anyComponents (cs : List Char) (after : Bool) (text : List Char) :
    matchFrom (cs.map .literal ++ [.anyComponents]) after text = .matched ↔ cs <+: text := by
  induction cs generalizing after text with
  | nil => simp [matchFrom_anyComponents_nil]
  | cons c cs ih =>
    rw [List.map_cons, List.cons_append, matchFrom_literal]
    cases text with
    | nil => simp
    | cons d more =>
      by_cases same : d = c
      · subst same
        simp [ih]
      · simp [same, Ne.symm same]

/-- A literal base followed by `/**` accepts exactly the texts that start with the base and a
separator. -/
theorem accepts_subtree {base : String} (literal : ∀ c ∈ base.toList, c ≠ '*' ∧ c ≠ '?' ∧ c ≠ '[')
    {pattern : Pattern} (compiled : Pattern.compile (base ++ "/**") = .ok pattern) (text : String) :
    pattern.accepts text = true ↔ base.toList ++ ['/'] <+: text.toList := by
  rw [compile_subtree literal, Except.ok.injEq] at compiled
  subst compiled
  rw [Pattern.accepts, beq_iff_eq, matchFrom_literals_anyComponents]

end FleetIssues.Route

namespace FleetIssues.Auth

open Route

/-- A text starts with a base and a separator, as it is or with a separator appended, exactly
when it is the base or already starts so. -/
theorem separated_prefix_or_append_iff (base text : List Char) :
    (base ++ ['/'] <+: text ∨ base ++ ['/'] <+: text ++ ['/']) ↔ text = base ∨ base ++ ['/'] <+: text := by
  rw [List.prefix_concat_iff, List.append_left_inj]
  constructor
  · rintro (below | same | below)
    · exact .inr below
    · exact .inl same.symm
    · exact .inr below
  · rintro (same | below)
    · exact .inr (.inl same.symm)
    · exact .inl below

/-- The first rule of a guard decides the paths it covers and passes the others on. -/
theorem RouteGuard.ruleFor_cons (rule : RouteRule) (later : List RouteRule) (path : String) :
    (⟨rule :: later⟩ : RouteGuard).ruleFor path =
      if rule.covers path = true then some rule else (⟨later⟩ : RouteGuard).ruleFor path := by
  cases covered : rule.covers path <;> simp [RouteGuard.ruleFor, covered]

/-- A path that a rule decides is let through exactly for a caller who sent roles holding one of
the rule's. -/
theorem RouteGuard.authorize_eq_ok_of_ruleFor {guard : RouteGuard} {path : String} {rule : RouteRule}
    (decided : guard.ruleFor path = some rule) (held : Option RoleSet) :
    guard.authorize path held = .ok () ↔ ∃ set, held = some set ∧ set.hasAny rule.roles = true := by
  cases held with
  | none => simp [RouteGuard.authorize, decided]
  | some set =>
    by_cases admitted : set.hasAny rule.roles = true <;> simp [RouteGuard.authorize, decided, admitted]

/-- The rule for a base path and `/**` covers exactly the base and the paths below it, trailing
slashes aside, and as a guard's first rule decides exactly those. -/
theorem subtree_rule_covers_base_and_below (base : String) (roles : List String)
    (literal : ∀ c ∈ base.toList, c ≠ '*' ∧ c ≠ '?' ∧ c ≠ '[') :
    ∃ rule, RouteRule.compile ⟨base ++ "/**", roles⟩ = .ok rule ∧ rule.roles = roles ∧
      (∀ path, rule.covers path = true ↔
        trimTrailingSlashes path = base ∨ (trimTrailingSlashes path).startsWith (base ++ "/") = true) ∧
      ∀ (later : List RouteRule) (path : String) (held : Option RoleSet),
        let guard : RouteGuard := ⟨rule :: later⟩
        (rule.covers path = true → guard.ruleFor path = some rule ∧
          (guard.authorize path held = .ok () ↔ ∃ set, held = some set ∧ set.hasAny roles = true)) ∧
        (rule.covers path = false → guard.ruleFor path = (⟨later⟩ : RouteGuard).ruleFor path ∧
          guard.authorize path held = (⟨later⟩ : RouteGuard).authorize path held) := by
  obtain ⟨pattern, compiled⟩ : ∃ pattern, Pattern.compile (base ++ "/**") = .ok pattern :=
    ⟨_, compile_subtree literal⟩
  have accepts := accepts_subtree literal compiled
  refine ⟨⟨pattern, roles⟩, by simp [RouteRule.compile, compiled], rfl, fun path => ?_, ?_⟩
  · -- The second try, with a slash appended, is what covers the base path itself.
    have slash : "/".toList = ['/'] := rfl
    rw [RouteRule.covers, Bool.or_eq_true, accepts, accepts, String.toList_append, slash,
      separated_prefix_or_append_iff, String.startsWith_string_iff, String.toList_append, slash,
      String.toList_inj]
  · intro later path held guard
    constructor
    · intro covered
      have decided : guard.ruleFor path = some ⟨pattern, roles⟩ := by
        simp [guard, RouteGuard.ruleFor_cons, covered]
      exact ⟨decided, RouteGuard.authorize_eq_ok_of_ruleFor decided held⟩
    · intro uncovered
      have passed : guard.ruleFor path = (⟨later⟩ : RouteGuard).ruleFor path := by
        simp [guard, RouteGuard.ruleFor_cons, uncovered]
      exact ⟨passed, by simp only [RouteGuard.authorize, passed]⟩

/-- The base path, the base with trailing slashes, and a path below it after a doubled slash are
covered; a longer name and a shorter one are not. -/
example : (match RouteRule.compile ⟨"/api/v1/issues/**", ["CARRIER"]⟩ with
    | .ok rule => ["/api/v1/issues", "/api/v1/issues//", "/api/v1/issues//x", "/api/v1/issuesx",
        "/api/v1/issue"].map rule.covers
    | .error _ => []) = [true, true, true, false, false] := by
  cbv

/-- The rule that guards issues covers the issues path and everything below it. -/
theorem issues_rule_covers_base_and_below :
    (∀ c ∈ "/api/v1/issues".toList, c ≠ '*' ∧ c ≠ '?' ∧ c ≠ '[') ∧
    ∃ rule, RouteRule.compile ⟨"/api/v1/issues" ++ "/**", ["CARRIER", "MANAGER", "ADMIN"]⟩ = .ok rule ∧
      rule.roles = ["CARRIER", "MANAGER", "ADMIN"] ∧
      (∀ path, rule.covers path = true ↔ trimTrailingSlashes path = "/api/v1/issues" ∨
        (trimTrailingSlashes path).startsWith ("/api/v1/issues" ++ "/") = true) ∧
      ∀ (later : List RouteRule) (path : String) (held : Option RoleSet),
        let guard : RouteGuard := ⟨rule :: later⟩
        (rule.covers path = true → guard.ruleFor path = some rule ∧
          (guard.authorize path held = .ok () ↔
            ∃ set, held = some set ∧ set.hasAny ["CARRIER", "MANAGER", "ADMIN"] = true)) ∧
        (rule.covers path = false → guard.ruleFor path = (⟨later⟩ : RouteGuard).ruleFor path ∧
          guard.authorize path held = (⟨later⟩ : RouteGuard).authorize path held) := by
  have literal : ∀ c ∈ "/api/v1/issues".toList, c ≠ '*' ∧ c ≠ '?' ∧ c ≠ '[' := by simp
  exact ⟨literal, subtree_rule_covers_base_and_below "/api/v1/issues" ["CARRIER", "MANAGER", "ADMIN"] literal⟩

end FleetIssues.Auth
