import FleetIssues.App
import FleetIssues.Proofs.Access
import FleetIssues.Proofs.Ingestion
/-! Filing an issue: the order of its checks, and what a refusal leaves behind. -/

namespace FleetIssues.Issue

open Fleet Json Schema Text

variable {index : Index} {table : IssueTable} {caller : Caller} {user : Int} {request : CreateRequest}
  {now : String}

/-- The texts of a filing pass their checks: neither is blank, that is empty after trimming, the
title holds at most 255 characters and the content at most 2000. -/
def TextsValid (title content : String) : Prop :=
  trimBlank title ≠ "" ∧ title.length ≤ maxTitleLength ∧ trimBlank content ≠ "" ∧
    content.length ≤ maxContentLength

/-- A text passes its check exactly when it is not empty after trimming and not longer than its
limit in characters. -/
theorem validateText_eq_ok_iff (field value : String) (limit : Nat) :
    validateText field value limit = .ok () ↔ trimBlank value ≠ "" ∧ value.length ≤ limit := by
  rw [ne_eq, ← Text.isBlankText_iff_trimBlank]
  unfold validateText
  split
  · rename_i blank
    simp [blank]
  · split
    · rename_i blank long
      simp only [reduceCtorEq, false_iff, not_and, Nat.not_le]
      intro _
      exact long
    · rename_i blank short
      simpa [blank] using short

/-- A text that fails its check is refused as invalid. -/
theorem validateText_eq_error {field value : String} {limit : Nat} {e : IssueError}
    (refused : validateText field value limit = .error e) : ∃ reason, e = .validation reason := by
  unfold validateText at refused
  split at refused
  · exact ⟨_, (Except.error.inj refused).symm⟩
  · split at refused
    · exact ⟨_, (Except.error.inj refused).symm⟩
    · cases refused

/-- Only vehicle issues name the carrier's vehicle. -/
theorem IssueType.requiresVehicle_eq_true_iff (type : IssueType) :
    type.requiresVehicle = true ↔ type = .vehicle := by
  cases type <;> simp [IssueType.requiresVehicle]

theorem authorizeCreate_eq_ok_iff : authorizeCreate caller = .ok user ↔
    caller.userId = some user ∧ caller.hasRole carrierRole = true := by
  unfold authorizeCreate
  split
  · rename_i anonymous
    simp [anonymous]
  · rename_i known hasId
    by_cases carrier : caller.hasRole carrierRole = true
    · simp [hasId, carrier]
    · simp [hasId, carrier]

theorem TextsValid.title_passes {title content : String} (valid : TextsValid title content) :
    validateText "title" title maxTitleLength = .ok () :=
  (validateText_eq_ok_iff _ _ _).mpr ⟨valid.1, valid.2.1⟩

theorem TextsValid.content_passes {title content : String} (valid : TextsValid title content) :
    validateText "content" content maxContentLength = .ok () :=
  (validateText_eq_ok_iff _ _ _).mpr ⟨valid.2.2.1, valid.2.2.2⟩

theorem authorizeCreate_of_anonymous (anonymous : caller.userId = none) :
    authorizeCreate caller = .error .unauthenticated := by
  simp [authorizeCreate, anonymous]

theorem authorizeCreate_of_notCarrier (known : caller.userId = some user)
    (notCarrier : caller.hasRole carrierRole = false) :
    authorizeCreate caller = .error (.forbidden "only carriers can file issues") := by
  simp [authorizeCreate, known, notCarrier]

/-- Once the caller is authorized, a title or content that fails its check is refused as
invalid. -/
theorem create_refuses_texts (authorized : authorizeCreate caller = .ok user)
    (invalid : ¬ TextsValid request.title request.content) :
    ∃ reason, create index table caller request now = .error (.validation reason) := by
  cases title : validateText "title" request.title maxTitleLength with
  | error e =>
    obtain ⟨reason, rfl⟩ := validateText_eq_error title
    refine ⟨reason, ?_⟩
    rw [create, authorized, title]
    rfl
  | ok u =>
    cases content : validateText "content" request.content maxContentLength with
    | error e =>
      obtain ⟨reason, rfl⟩ := validateText_eq_error content
      refine ⟨reason, ?_⟩
      rw [create, authorized, title, content]
      rfl
    | ok v =>
      -- Both texts pass, which is what validity says.
      exfalso
      apply invalid
      obtain ⟨titleSolid, titleShort⟩ := (validateText_eq_ok_iff _ _ _).mp title
      obtain ⟨contentSolid, contentShort⟩ := (validateText_eq_ok_iff _ _ _).mp content
      exact ⟨titleSolid, titleShort, contentSolid, contentShort⟩

/-- Once the caller and the texts pass, a carrier whose manager does not resolve is refused. -/
theorem create_refuses_manager (authorized : authorizeCreate caller = .ok user)
    (valid : TextsValid request.title request.content) (unresolved : index.managerFor (some user) = none) :
    create index table caller request now = .error (.managerUnresolved user) := by
  rw [create, authorized, valid.title_passes, valid.content_passes]
  simp only [bind, Except.bind, unresolved]
  rfl

/-- Once the caller, the texts and the manager pass, a vehicle issue whose vehicle does not
resolve is refused. -/
theorem create_refuses_vehicle (authorized : authorizeCreate caller = .ok user)
    (valid : TextsValid request.title request.content) {manager : Int}
    (resolved : index.managerFor (some user) = some manager) (needed : request.type.requiresVehicle = true)
    (unresolved : index.vehicleFor (some user) = none) :
    create index table caller request now = .error (.vehicleUnresolved user) := by
  rw [create, authorized, valid.title_passes, valid.content_passes]
  simp only [bind, Except.bind, resolved, needed, unresolved]
  rfl

/-- A filing that passes every check stores the issue under the next id, as filed by the caller,
with the carrier's manager and, for a vehicle issue, the carrier's vehicle. -/
theorem create_stores (authorized : authorizeCreate caller = .ok user)
    (valid : TextsValid request.title request.content) {manager : Int}
    (resolved : index.managerFor (some user) = some manager)
    (found : request.type.requiresVehicle = true → index.vehicleFor (some user) ≠ none) :
    create index table caller request now =
      .ok (table.insert ⟨request.title, request.content, request.type, now, user, manager,
        if request.type.requiresVehicle then index.vehicleFor (some user) else none, request.shipment⟩) := by
  rw [create, authorized, valid.title_passes, valid.content_passes]
  cases needed : request.type.requiresVehicle with
  | false =>
    simp only [bind, Except.bind, resolved]
    rfl
  | true =>
    obtain ⟨vehicle, vehicleFound⟩ := Option.ne_none_iff_exists'.mp (found needed)
    simp only [bind, Except.bind, resolved, vehicleFound]
    rfl

theorem createRequestOf_of_unreadable {body : String} {e : ReadError}
    (unread : readTextAs createBodyShape body = .error e) :
    createRequestOf body now = .error (.failure 400 ("Invalid request body: " ++ e.message) now) := by
  simp only [createRequestOf, readBody, unread]
  rfl

theorem createRequestOf_of_unknownType {body : String} {d : Datum}
    (read : readTextAs createBodyShape body = .ok d) (unknown : IssueType.parse (d.field 2).asText = none) :
    createRequestOf body now =
      .error (.failure 400 ("Unknown issue type: " ++ (d.field 2).asText) now) := by
  simp only [createRequestOf, readBody, read, bind, Except.bind, readType, unknown]

theorem createRequestOf_of_read {body : String} {d : Datum} {type : IssueType}
    (read : readTextAs createBodyShape body = .ok d) (known : IssueType.parse (d.field 2).asText = some type) :
    createRequestOf body now =
      .ok ⟨(d.field 0).asText, (d.field 1).asText, type, (d.field 3).asOption.map Datum.asInt⟩ := by
  simp only [createRequestOf, readBody, read, bind, Except.bind, readType, known]
  rfl

variable {headers : Headers} {body : String}

/-- A caller the service would not let file is refused before the body is read. -/
theorem handleCreate_of_callerRefused {e : IssueError}
    (refused : authorizeCreate (Caller.ofHeaders headers) = .error e) :
    handleCreate index table headers body now = .unchanged table (.ofError e now) := by
  simp only [handleCreate, refused]

theorem handleCreate_of_bodyRefused (authorized : authorizeCreate (Caller.ofHeaders headers) = .ok user)
    {r : Response} (refused : createRequestOf body now = .error r) :
    handleCreate index table headers body now = .unchanged table r := by
  simp only [handleCreate, authorized, refused]

theorem handleCreate_of_serviceRefused (authorized : authorizeCreate (Caller.ofHeaders headers) = .ok user)
    (read : createRequestOf body now = .ok request) {e : IssueError}
    (refused : create index table (Caller.ofHeaders headers) request now = .error e) :
    handleCreate index table headers body now = .unchanged table (.ofError e now) := by
  simp only [handleCreate, authorized, read, refused]

/-- A stored filing is answered 201 with the issue, and announced. -/
theorem handleCreate_of_stored (authorized : authorizeCreate (Caller.ofHeaders headers) = .ok user)
    (read : createRequestOf body now = .ok request) {table' : IssueTable} {issue : Issue}
    (stored : create index table (Caller.ofHeaders headers) request now = .ok (table', issue)) :
    handleCreate index table headers body now = ⟨table', ⟨201, issue.toValue⟩, [.created issue]⟩ := by
  simp only [handleCreate, authorized, read, stored]

end FleetIssues.Issue

namespace FleetIssues

open Issue Json Schema Text

/-- An endpoint that changes nothing leaves the application as it was and publishes nothing. -/
theorem App.settle_unchanged (app : App) (response : Response) :
    app.settle (.unchanged app.table response) = (app, .response response []) := rfl

/-- Filing answers the first failing check, in order, and then changes and publishes nothing; when
all pass it stores the issue under the next 64-bit id and announces it. -/
theorem filing_checks_in_order_without_trace (app : App) (now : String) (headers : Headers)
    (body : String) :
    let user := (headers.get userIdHeader).bind fun value => parseInt64? (trimBlank value)
    let roles := (Caller.ofHeaders headers).roles
    let refusedWith := fun response => app.step now (.create headers body) = (app, .response response [])
    (user = none → refusedWith (.ofError .unauthenticated now)) ∧
    ∀ u, user = some u →
      (roles.has carrierRole = false →
        refusedWith (.ofError (.forbidden "only carriers can file issues") now)) ∧
      (roles.has carrierRole = true →
        (∀ e, readTextAs createBodyShape body = .error e →
          refusedWith (.failure 400 ("Invalid request body: " ++ e.message) now)) ∧
        ∀ d, readTextAs createBodyShape body = .ok d →
          let title := (d.field 0).asText
          let content := (d.field 1).asText
          let typeName := (d.field 2).asText
          (IssueType.parse typeName = none →
            refusedWith (.failure 400 ("Unknown issue type: " ++ typeName) now)) ∧
          ∀ type, IssueType.parse typeName = some type →
            (¬ TextsValid title content → ∃ reason, refusedWith (.ofError (.validation reason) now)) ∧
            (TextsValid title content →
              (app.index.managerFor (some u) = none →
                refusedWith (.ofError (.managerUnresolved u) now)) ∧
              ∀ manager, app.index.managerFor (some u) = some manager →
                (type = .vehicle → app.index.vehicleFor (some u) = none →
                  refusedWith (.ofError (.vehicleUnresolved u) now)) ∧
                ((type = .vehicle → app.index.vehicleFor (some u) ≠ none) →
                  let issue : Issue := ⟨(app.table.lastId + 1).toInt, title, content, type, now, u, manager,
                    if type = .vehicle then app.index.vehicleFor (some u) else none,
                    (d.field 3).asOption.map Datum.asInt⟩
                  app.step now (.create headers body) =
                    ({ app with table := ⟨app.table.lastId + 1, insertRow issue app.table.rows⟩ },
                      .response ⟨201, issue.toValue⟩ [(IssueEvent.created issue).render]) ∧
                  (app.table.lastId ≠ Int64.maxValue → issue.id = app.table.lastId.toInt + 1)))) := by
  intro user roles refusedWith
  have step : app.step now (.create headers body) =
      app.settle (handleCreate app.index app.table headers body now) := rfl
  -- Every refusal of the endpoint keeps the table, and so leaves the application as it was.
  have refuse : ∀ r, handleCreate app.index app.table headers body now = .unchanged app.table r →
      refusedWith r := by
    intro r unchanged
    show app.step now (.create headers body) = (app, .response r [])
    rw [step, unchanged, App.settle_unchanged]
  refine ⟨fun anonymous => refuse _ (handleCreate_of_callerRefused (authorizeCreate_of_anonymous anonymous)), ?_⟩
  intro u known
  refine ⟨fun notCarrier => refuse _
    (handleCreate_of_callerRefused (authorizeCreate_of_notCarrier known notCarrier)), ?_⟩
  intro carrier
  have authorized : authorizeCreate (Caller.ofHeaders headers) = .ok u :=
    authorizeCreate_eq_ok_iff.mpr ⟨known, carrier⟩
  refine ⟨fun e unread => refuse _
    (handleCreate_of_bodyRefused authorized (createRequestOf_of_unreadable unread)), ?_⟩
  intro d read
  refine ⟨fun unknown => refuse _
    (handleCreate_of_bodyRefused authorized (createRequestOf_of_unknownType read unknown)), ?_⟩
  intro type typed
  let filed : CreateRequest :=
    ⟨(d.field 0).asText, (d.field 1).asText, type, (d.field 3).asOption.map Datum.asInt⟩
  have request : createRequestOf body now = .ok filed := createRequestOf_of_read read typed
  -- From here on the service decides, and the endpoint answers its refusal unchanged.
  have serviceRefuses : ∀ e, create app.index app.table (Caller.ofHeaders headers) filed now = .error e →
      refusedWith (.ofError e now) :=
    fun e refused => refuse _ (handleCreate_of_serviceRefused authorized request refused)
  refine ⟨fun invalid => ?_, fun valid => ?_⟩
  · obtain ⟨reason, refused⟩ : ∃ reason,
        create app.index app.table (Caller.ofHeaders headers) filed now = .error (.validation reason) :=
      create_refuses_texts authorized invalid
    exact ⟨reason, serviceRefuses _ refused⟩
  refine ⟨fun unresolved => serviceRefuses _ (create_refuses_manager authorized valid unresolved), ?_⟩
  intro manager resolved
  refine ⟨fun vehicleIssue unresolved => serviceRefuses _ (create_refuses_vehicle authorized valid
    resolved ((IssueType.requiresVehicle_eq_true_iff type).mpr vehicleIssue) unresolved), ?_⟩
  intro found issue
  have vehicleOfType : (if type.requiresVehicle then app.index.vehicleFor (some u) else none) =
      if type = .vehicle then app.index.vehicleFor (some u) else none := by
    cases type <;> rfl
  have storedDraft : create app.index app.table (Caller.ofHeaders headers) filed now =
      .ok (app.table.insert ⟨filed.title, filed.content, type, now, u, manager,
        if type.requiresVehicle then app.index.vehicleFor (some u) else none, filed.shipment⟩) :=
    @create_stores app.index app.table (Caller.ofHeaders headers) u filed now authorized valid manager
      resolved (fun needed => found ((IssueType.requiresVehicle_eq_true_iff type).mp needed))
  have stored : create app.index app.table (Caller.ofHeaders headers) filed now =
      .ok (⟨app.table.lastId + 1, insertRow issue app.table.rows⟩, issue) := by
    rw [storedDraft, vehicleOfType]
    rfl
  refine ⟨?_, IssueTable.lastId_add_one_toInt⟩
  rw [step, handleCreate_of_stored authorized request stored]
  rfl

/-- A carrier files an issue on a table whose last id is the largest 64-bit signed integer: the
issue is stored under the smallest one. -/
example :
    let index := ((Fleet.Index.empty.apply (.vehicleCreated ⟨1, 10, "", "", "", .active⟩)).1.apply
      (.vehicleUpdated ⟨1, some 100, none, none, none, none⟩)).1
    let headers : Headers := ⟨[("X-User-Id", "100"), ("X-User-Roles", "CARRIER")]⟩
    let body := "\x7b\"title\":\"T\",\"content\":\"C\",\"type\":\"ROUTE\"\x7d"
    let issue : Issue := ⟨Int64.minValue.toInt, "T", "C", .route, "now", 100, 10, none, none⟩
    App.step ⟨index, ⟨Int64.maxValue, []⟩⟩ "now" (.create headers body) =
      (⟨index, ⟨Int64.minValue, [issue]⟩⟩, .response ⟨201, issue.toValue⟩ [(IssueEvent.created issue).render]) := by
  intro index headers body issue
  have authorized : authorizeCreate (Caller.ofHeaders headers) = .ok 100 := by
    simp only [headers]
    decide +kernel
  have request : createRequestOf body "now" = .ok ⟨"T", "C", .route, none⟩ := by
    simp only [body]
    cbv
  have stored : create index ⟨Int64.maxValue, []⟩ (Caller.ofHeaders headers) ⟨"T", "C", .route, none⟩ "now" =
      .ok (⟨Int64.minValue, [issue]⟩, issue) := by
    simp only [index, headers, issue]
    decide +kernel
  show App.settle _ (handleCreate index ⟨Int64.maxValue, []⟩ headers body "now") = _
  rw [handleCreate_of_stored authorized request stored]
  rfl

end FleetIssues
