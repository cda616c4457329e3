import FleetIssues.Issue.Controller
/-! Which issues a successful request touches. -/

namespace FleetIssues.Issue

open Fleet

variable {table : IssueTable} {caller : Caller} {issue : Issue}

/-- An administrator with a user id reads every issue. -/
theorem canAccess_of_isAdmin (known : caller.userId.isSome) (admin : caller.isAdmin = true) :
    canAccess caller issue = true := by
  obtain ⟨user, hasId⟩ := Option.isSome_iff_exists.mp known
  simp [canAccess, hasId, admin]

/-- A carrier in its role reads the issues it filed. -/
theorem canAccess_of_asCarrier (filer : caller.asCarrier = some issue.carrier) :
    canAccess caller issue = true := by
  unfold Caller.asCarrier at filer
  split at filer
  · rename_i carrier
    simp [canAccess, filer, carrier]
  · cases filer

/-- A manager in its role reads the issues attributed to it. -/
theorem canAccess_of_asManager (owner : caller.asManager = some issue.manager) :
    canAccess caller issue = true := by
  unfold Caller.asManager at owner
  split at owner
  · rename_i manager
    simp [canAccess, owner, manager]
  · cases owner

theorem mem_findByCarrier {carrier : Int} (listed : issue ∈ table.findByCarrier carrier) :
    issue.carrier = carrier := by
  simpa using (List.mem_filter.mp listed).2

theorem mem_findByManager {manager : Int} (listed : issue ∈ table.findByManager manager) :
    issue.manager = manager := by
  simpa using (List.mem_filter.mp listed).2

/-- A chain of checks succeeds only when its first step does. -/
theorem bind_eq_ok {ε α β : Type} {x : Except ε α} {f : α → Except ε β} {b : β}
    (h : (x >>= f) = .ok b) : ∃ a, x = .ok a ∧ f a = .ok b := by
  cases x with
  | error e => cases h
  | ok a => exact ⟨a, rfl, h⟩

theorem findIssue_eq_ok {id : Int} (found : findIssue table id = .ok issue) :
    table.findById id = some issue := by
  unfold findIssue at found
  split at found
  · rename_i row isRow
    cases found
    exact isRow
  · cases found

theorem get_eq_ok {id : Int} (got : get table caller id = .ok issue) :
    table.findById id = some issue ∧ canAccess caller issue = true := by
  obtain ⟨row, found, rest⟩ := bind_eq_ok got
  split at rest
  · rename_i readable
    cases rest
    exact ⟨findIssue_eq_ok found, readable⟩
  · cases rest

theorem listOwn_eq_ok {issues : List Issue} (listed : listOwn table caller = .ok issues) :
    ∀ issue ∈ issues, canAccess caller issue = true := by
  unfold listOwn at listed
  dsimp only at listed
  split at listed
  · cases listed
  · split at listed
    · rename_i carrier asCarrier
      cases listed
      intro issue member
      exact canAccess_of_asCarrier (asCarrier.trans (congrArg some (mem_findByCarrier member)).symm)
    · cases listed

theorem listByCarrier_eq_ok {carrier : Int} {issues : List Issue}
    (listed : listByCarrier table caller carrier = .ok issues) :
    ∀ issue ∈ issues, canAccess caller issue = true := by
  unfold listByCarrier at listed
  dsimp only at listed
  split at listed
  · cases listed
  · rename_i known
    split at listed
    · cases listed
    · rename_i allowed
      cases listed
      intro issue member
      rw [← mem_findByCarrier member] at allowed
      by_cases admin : caller.isAdmin = true
      · exact canAccess_of_isAdmin (by simpa [Option.isSome_iff_ne_none] using known) admin
      · exact canAccess_of_asCarrier (by simpa [admin] using allowed)

theorem listByManager_eq_ok {manager : Int} {issues : List Issue}
    (listed : listByManager table caller manager = .ok issues) :
    ∀ issue ∈ issues, canAccess caller issue = true := by
  unfold listByManager at listed
  dsimp only at listed
  split at listed
  · cases listed
  · rename_i known
    split at listed
    · cases listed
    · rename_i allowed
      cases listed
      intro issue member
      rw [← mem_findByManager member] at allowed
      by_cases admin : caller.isAdmin = true
      · exact canAccess_of_isAdmin (by simpa [Option.isSome_iff_ne_none] using known) admin
      · exact canAccess_of_asManager (by simpa [admin] using allowed)

theorem listByType_eq_ok {type : IssueType} {issues : List Issue}
    (listed : listByType table caller type = .ok issues) :
    ∀ issue ∈ issues, canAccess caller issue = true := by
  unfold listByType at listed
  dsimp only at listed
  split at listed
  · cases listed
  · cases listed
    intro issue member
    exact (List.mem_filter.mp member).2

/-- A change succeeds only on a live issue whose filing carrier is the caller, and gives that
issue with the requested fields replaced. -/
theorem update_eq_ok {id : Int} {request : UpdateRequest} {table' : IssueTable} {changed : Issue}
    (updated : update table caller id request = .ok (table', changed)) :
    ∃ issue, table.findById id = some issue ∧ caller.userId = some issue.carrier ∧
      changed = { issue with
        title := request.title.getD issue.title
        content := request.content.getD issue.content
        type := request.type.getD issue.type } ∧
      table.save changed = .ok table' := by
  obtain ⟨row, found, rest⟩ := bind_eq_ok updated
  refine ⟨row, findIssue_eq_ok found, ?_⟩
  dsimp only at rest
  split at rest
  · cases rest
  · rename_i author
    refine ⟨by simpa using author, ?_⟩
    obtain ⟨title, content, type⟩ := request
    -- Whatever texts the request names pass their checks; the save then hands back the changed
    -- issue.
    cases title <;> cases content <;> dsimp only at rest ⊢
    all_goals
      repeat obtain ⟨_, -, rest⟩ := bind_eq_ok rest
      split at rest
      · rename_i stored
        cases rest
        exact ⟨rfl, stored⟩
      · cases rest

/-- A removal succeeds only on a live issue, and only for a caller with a user id that is an
administrator or the filing carrier. -/
theorem delete_eq_ok {id : Int} {table' : IssueTable} (deleted : delete table caller id = .ok table') :
    ∃ issue, table.findById id = some issue ∧ caller.userId.isSome ∧
      (caller.isAdmin = true ∨ caller.userId = some issue.carrier) ∧ (table.delete id).1 = table' := by
  obtain ⟨row, found, rest⟩ := bind_eq_ok deleted
  refine ⟨row, findIssue_eq_ok found, ?_⟩
  dsimp only at rest
  split at rest
  · rename_i user hasId
    obtain ⟨_, same, rest⟩ := bind_eq_ok rest
    cases same
    split at rest
    · cases rest
    · rename_i allowed
      have removed : (table.delete id).1 = table' := by
        split at rest
        · rename_i removedTable removal
          cases rest
          rw [removal]
        · cases rest
      refine ⟨by simp [hasId], ?_, removed⟩
      by_cases admin : caller.isAdmin = true
      · exact .inl admin
      · exact .inr (by simpa [hasId, admin] using allowed)
  · cases rest

/-- A chain of steps fails when its first step fails, or when the rest fails after it. -/
theorem bind_eq_error {ε α β : Type} {x : Except ε α} {f : α → Except ε β} {e : ε}
    (h : (x >>= f) = .error e) : x = .error e ∨ ∃ a, x = .ok a ∧ f a = .error e := by
  cases x with
  | error e' =>
    cases h
    exact .inl rfl
  | ok a => exact .inr ⟨a, rfl, h⟩

/-- A response that reports a bad request is no success. -/
theorem Response.isSuccess_of_badRequest {r : Response} (bad : r.status = 400) :
    r.isSuccess = false := by
  simp [Response.isSuccess, bad]

/-- A refusal is never a success. -/
theorem Response.ofError_isSuccess (e : IssueError) (now : String) :
    (Response.ofError e now).isSuccess = false := by
  cases e <;> rfl

theorem readBody_error {shape : Schema.Shape} {body now : String} {r : Response}
    (refused : readBody shape body now = .error r) : r.status = 400 := by
  unfold readBody at refused
  split at refused
  · cases refused
  · cases refused
    rfl

theorem readType_error {raw now : String} {r : Response} (refused : readType raw now = .error r) :
    r.status = 400 := by
  unfold readType at refused
  split at refused
  · cases refused
  · cases refused
    rfl

/-- A body that is not a change request is answered 400. -/
theorem updateRequestOf_error {body now : String} {r : Response}
    (refused : updateRequestOf body now = .error r) : r.status = 400 := by
  rcases bind_eq_error refused with unread | ⟨d, -, rest⟩
  · exact readBody_error unread
  · dsimp only at rest
    split at rest
    · rcases bind_eq_error rest with badType | ⟨type, -, rest⟩
      · cases typed : readType _ now with
        | error r' =>
          rw [typed] at badType
          cases badType
          exact readType_error typed
        | ok t =>
          rw [typed] at badType
          cases badType
      · cases rest
    · cases rest

/-- A successful read of one issue answers a readable live issue. -/
theorem handleGet_isSuccess {headers : Headers} {id : Int} {now : String}
    (success : (handleGet table headers id now).isSuccess = true) :
    ∃ issue, table.findById id = some issue ∧ handleGet table headers id now = ⟨200, issue.toValue⟩ ∧
      canAccess (Caller.ofHeaders headers) issue = true := by
  unfold handleGet at success ⊢
  split at success
  · rename_i issue got
    exact ⟨issue, (get_eq_ok got).1, rfl, (get_eq_ok got).2⟩
  · rw [Response.ofError_isSuccess] at success
    cases success

/-- A successful list answers the list the service gave. -/
theorem listResponse_isSuccess {result : Except IssueError (List Issue)} {now : String}
    (success : (listResponse result now).isSuccess = true) :
    ∃ issues, result = .ok issues ∧ listResponse result now = .ofList issues := by
  unfold listResponse at success ⊢
  split at success
  · rename_i issues
    exact ⟨issues, rfl, rfl⟩
  · rw [Response.ofError_isSuccess] at success
    cases success

/-- A successful change answers the changed issue, after the service changed it. -/
theorem handleUpdate_isSuccess {headers : Headers} {id : Int} {body now : String}
    (success : (handleUpdate table headers id body now).response.isSuccess = true) :
    ∃ request table' changed, update table (Caller.ofHeaders headers) id request = .ok (table', changed) ∧
      (handleUpdate table headers id body now).response = ⟨200, changed.toValue⟩ ∧
      (handleUpdate table headers id body now).table = table' := by
  unfold handleUpdate at success ⊢
  split at success
  · rename_i refused read
    rw [Handled.unchanged, Response.isSuccess_of_badRequest (updateRequestOf_error read)] at success
    cases success
  · rename_i request read
    split at success
    · rw [Handled.unchanged, Response.ofError_isSuccess] at success
      cases success
    · rename_i table' changed updated
      exact ⟨request, table', changed, updated, rfl, rfl⟩

/-- A successful removal is one the service made. -/
theorem handleDelete_isSuccess {headers : Headers} {id : Int} {now : String}
    (success : (handleDelete table headers id now).response.isSuccess = true) :
    ∃ table', delete table (Caller.ofHeaders headers) id = .ok table' ∧
      (handleDelete table headers id now).table = table' := by
  unfold handleDelete at success ⊢
  split at success
  · rw [Handled.unchanged, Response.ofError_isSuccess] at success
    cases success
  · rename_i table' deleted
    exact ⟨table', deleted, rfl⟩

/-- A successful read answers only issues the caller may read; a successful change or removal
touches only the filer's issue, or any issue for an administrator's removal, and no other row. -/
theorem successful_requests_touch_permitted_issues (table : IssueTable) (headers : Headers)
    (now : String) :
    let caller := Caller.ofHeaders headers
    (∀ id, (handleGet table headers id now).isSuccess = true →
      ∃ issue, table.findById id = some issue ∧ handleGet table headers id now = ⟨200, issue.toValue⟩ ∧
        canAccess caller issue = true) ∧
    ((handleOwn table headers now).isSuccess = true →
      ∃ issues, handleOwn table headers now = .ofList issues ∧ ∀ issue ∈ issues, canAccess caller issue = true) ∧
    (∀ carrier, (handleByCarrier table headers carrier now).isSuccess = true →
      ∃ issues, handleByCarrier table headers carrier now = .ofList issues ∧
        ∀ issue ∈ issues, canAccess caller issue = true) ∧
    (∀ manager, (handleByManager table headers manager now).isSuccess = true →
      ∃ issues, handleByManager table headers manager now = .ofList issues ∧
        ∀ issue ∈ issues, canAccess caller issue = true) ∧
    (∀ raw, (handleByType table headers raw now).isSuccess = true →
      ∃ issues, handleByType table headers raw now = .ofList issues ∧
        ∀ issue ∈ issues, canAccess caller issue = true) ∧
    (∀ id body, (handleUpdate table headers id body now).response.isSuccess = true →
      ∃ (issue : Issue) (changed : Issue), table.findById id = some issue ∧ caller.userId = some issue.carrier ∧
        (handleUpdate table headers id body now).response = ⟨200, changed.toValue⟩ ∧
        changed.id = issue.id ∧ changed.carrier = issue.carrier ∧ changed.manager = issue.manager ∧
        (∀ other, (handleUpdate table headers id body now).table.findById other =
          if other = id then some changed else table.findById other) ∧
        (caller.hasRole carrierRole = true → canAccess caller issue = true)) ∧
    (∀ id, (handleDelete table headers id now).response.isSuccess = true →
      ∃ issue, table.findById id = some issue ∧
        (∀ other, (handleDelete table headers id now).table.findById other =
          if other = id then none else table.findById other) ∧
        (caller.isAdmin = true ∨ caller.userId = some issue.carrier) ∧
        (caller.isAdmin = true ∨ caller.hasRole carrierRole = true → canAccess caller issue = true)) := by
  intro caller
  -- A filer by id who holds the carrier role reads its issue.
  have filerReads : ∀ {issue : Issue}, caller.userId = some issue.carrier →
      caller.hasRole carrierRole = true → canAccess caller issue = true := by
    intro issue filer carrier
    exact canAccess_of_asCarrier (by simp [Caller.asCarrier, carrier, filer])
  refine ⟨fun id => handleGet_isSuccess, ?_, ?_, ?_, ?_, ?_, ?_⟩
  · intro success
    obtain ⟨issues, listed, answer⟩ := listResponse_isSuccess success
    exact ⟨issues, answer, listOwn_eq_ok listed⟩
  · intro carrier success
    obtain ⟨issues, listed, answer⟩ := listResponse_isSuccess success
    exact ⟨issues, answer, listByCarrier_eq_ok listed⟩
  · intro manager success
    obtain ⟨issues, listed, answer⟩ := listResponse_isSuccess success
    exact ⟨issues, answer, listByManager_eq_ok listed⟩
  · intro raw success
    unfold handleByType at success ⊢
    split at success
    · rename_i refused read
      rw [Response.isSuccess_of_badRequest (readType_error read)] at success
      cases success
    · obtain ⟨issues, listed, answer⟩ := listResponse_isSuccess success
      exact ⟨issues, answer, listByType_eq_ok listed⟩
  · intro id body success
    obtain ⟨request, table', changed, updated, answer, stored⟩ := handleUpdate_isSuccess success
    obtain ⟨issue, found, filer, changedEq, saved⟩ := update_eq_ok updated
    -- The save replaces the row under the changed issue's id, which is the id asked for.
    have sameId : changed.id = id := by
      have own := IssueTable.id_of_findById found
      rw [changedEq]
      exact own
    have replaced : ∀ other, (handleUpdate table headers id body now).table.findById other =
        if other = id then some changed else table.findById other := by
      intro other
      rw [stored, IssueTable.findById_of_save saved, sameId]
    subst changedEq
    exact ⟨issue, _, found, filer, answer, rfl, rfl, rfl, replaced, filerReads filer⟩
  · intro id success
    obtain ⟨table', deleted, stored⟩ := handleDelete_isSuccess success
    obtain ⟨issue, found, known, allowed, removed⟩ := delete_eq_ok deleted
    have cleared : ∀ other, (handleDelete table headers id now).table.findById other =
        if other = id then none else table.findById other := by
      intro other
      rw [stored, ← removed, IssueTable.findById_delete]
    refine ⟨issue, found, cleared, allowed, ?_⟩
    rintro (admin | carrier)
    · exact canAccess_of_isAdmin known admin
    · rcases allowed with admin | filer
      · exact canAccess_of_isAdmin known admin
      · exact filerReads filer carrier

/-- A carrier files an issue on the vehicle it drives; presenting its user id with no role, it
may not read the issue, yet it removes it. -/
theorem removal_by_filer_without_carrier_role :
    let index := ((Index.empty.apply (.vehicleCreated ⟨1, 10, "", "", "", .active⟩)).1.apply
      (.vehicleUpdated ⟨1, some 100, none, none, none, none⟩)).1
    let issue : Issue := ⟨1, "Oil", "Leak", .other, "now", 100, 10, none, none⟩
    let filed : IssueTable := ⟨1, [issue]⟩
    let headers : Headers := ⟨[("X-User-Id", "100")]⟩
    (create index .empty ⟨some 100, RoleSet.ofNames ["ROLE_CARRIER"]⟩ ⟨"Oil", "Leak", .other, none⟩
      "now").toOption = some (filed, issue) ∧
    canAccess (Caller.ofHeaders headers) issue = false ∧
    (handleGet filed headers 1 "now").status = 403 ∧
    (handleDelete filed headers 1 "now").response.status = 204 ∧
    (handleDelete filed headers 1 "now").table.findById 1 = none := by
  dsimp only
  decide +kernel

end FleetIssues.Issue
