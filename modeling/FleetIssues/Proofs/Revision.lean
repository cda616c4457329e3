import FleetIssues.Proofs.Filing
/-! Changing an issue: the order of its checks, and that a change is made whole or not at all. -/

namespace FleetIssues.Issue

open Json Schema Text

namespace IssueTable

variable {table saved : IssueTable} {issue : Issue} {id : Int}

/-- Saving an issue under a live id replaces the rows of that id. -/
theorem save_of_findById {row : Issue} (found : table.findById issue.id = some row) :
    table.save issue =
      .ok { table with rows := table.rows.map fun r => if r.id == issue.id then issue else r } := by
  have first : table.rows.find? (·.id == issue.id) = some row := found
  have sameId := List.find?_some first
  have live : table.rows.any (·.id == issue.id) = true :=
    List.any_eq_true.mpr ⟨row, List.mem_of_find?_eq_some first, sameId⟩
  simp only [save, live, if_true]

theorem lastId_of_save (ok : table.save issue = .ok saved) : saved.lastId = table.lastId := by
  unfold save at ok
  split at ok
  · cases ok
    rfl
  · cases ok

theorem count_of_save (ok : table.save issue = .ok saved) : saved.count = table.count := by
  unfold save at ok
  split at ok
  · cases ok
    simp [count]
  · cases ok

end IssueTable

/-- The texts a change gives pass their checks: a given title is not blank and holds at most 255
characters, and a given content is not blank and holds at most 2000. -/
def GivenTextsValid (title content : Option String) : Prop :=
  (∀ t ∈ title, trimBlank t ≠ "" ∧ t.length ≤ maxTitleLength) ∧
    ∀ c ∈ content, trimBlank c ≠ "" ∧ c.length ≤ maxContentLength

/-- An issue with the fields a change gives replaced. -/
def UpdateRequest.applyTo (request : UpdateRequest) (issue : Issue) : Issue :=
  { issue with
    title := request.title.getD issue.title
    content := request.content.getD issue.content
    type := request.type.getD issue.type }

@[simp] theorem UpdateRequest.applyTo_id (request : UpdateRequest) (issue : Issue) :
    (request.applyTo issue).id = issue.id := rfl

variable {table : IssueTable} {caller : Caller} {id : Int} {request : UpdateRequest} {issue : Issue}

theorem update_of_missing (missing : table.findById id = none) :
    update table caller id request = .error (.notFound id) := by
  simp only [update, findIssue, missing]
  rfl

theorem update_of_notFiler (found : table.findById id = some issue)
    (other : caller.userId ≠ some issue.carrier) :
    update table caller id request =
      .error (.forbidden "only the reporting carrier can update an issue") := by
  simp only [update, findIssue, found, bind, Except.bind, bne_iff_ne, ne_eq, other, not_false_eq_true,
    if_true]
  rfl

/-- A text that fails its check is refused as invalid, naming the reason. -/
theorem validateText_of_invalid (field : String) {value : String} {limit : Nat}
    (bad : ¬ (trimBlank value ≠ "" ∧ value.length ≤ limit)) :
    ∃ reason, validateText field value limit = .error (.validation reason) := by
  cases checked : validateText field value limit with
  | error e => exact validateText_eq_error checked |>.imp fun _ same => by rw [same]
  | ok u => exact absurd ((validateText_eq_ok_iff _ _ _).mp checked) bad

/-- Once the filing carrier asks, a given title or content that fails its check is refused as
invalid, before anything is saved. -/
theorem update_refuses_texts (found : table.findById id = some issue)
    (filer : caller.userId = some issue.carrier)
    (invalid : ¬ GivenTextsValid request.title request.content) :
    ∃ reason, update table caller id request = .error (.validation reason) := by
  obtain ⟨title, content, type⟩ := request
  -- The title is checked first; only a title that passes lets the content be checked.
  by_cases titleValid : ∀ t ∈ title, trimBlank t ≠ "" ∧ t.length ≤ maxTitleLength
  · obtain ⟨c, rfl, contentInvalid⟩ :
        ∃ c, content = some c ∧ ¬ (trimBlank c ≠ "" ∧ c.length ≤ maxContentLength) := by
      cases content with
      | none => exact absurd ⟨titleValid, by simp⟩ invalid
      | some c => exact ⟨c, rfl, fun valid => invalid ⟨titleValid, by simpa using valid⟩⟩
    obtain ⟨reason, refused⟩ := validateText_of_invalid "content" contentInvalid
    refine ⟨reason, ?_⟩
    cases title with
    | none => simp [update, findIssue, found, filer, bind, Except.bind, refused]
    | some t =>
      have passes := (validateText_eq_ok_iff "title" t maxTitleLength).mpr (titleValid t rfl)
      simp [update, findIssue, found, filer, bind, Except.bind, passes, refused]
  · obtain ⟨t, rfl, titleInvalid⟩ :
        ∃ t, title = some t ∧ ¬ (trimBlank t ≠ "" ∧ t.length ≤ maxTitleLength) := by
      simp only [not_forall] at titleValid
      obtain ⟨t, given, bad⟩ := titleValid
      exact ⟨t, Option.mem_def.mp given, bad⟩
    obtain ⟨reason, refused⟩ := validateText_of_invalid "title" titleInvalid
    refine ⟨reason, ?_⟩
    cases content <;> simp [update, findIssue, found, filer, bind, Except.bind, refused]

/-- A change by the filing carrier whose given texts pass is saved whole: the issue's given fields
are replaced and every other row stays. -/
theorem update_saves (found : table.findById id = some issue) (filer : caller.userId = some issue.carrier)
    (valid : GivenTextsValid request.title request.content) :
    update table caller id request =
      .ok ({ table with
          rows := table.rows.map fun r => if r.id == issue.id then request.applyTo issue else r },
        request.applyTo issue) := by
  have live : table.findById (request.applyTo issue).id = some issue := by
    rw [UpdateRequest.applyTo_id, IssueTable.id_of_findById found]
    exact found
  have saved := IssueTable.save_of_findById live
  obtain ⟨title, content, type⟩ := request
  obtain ⟨titleValid, contentValid⟩ := valid
  have titlePasses : ∀ t ∈ title, validateText "title" t maxTitleLength = .ok () :=
    fun t given => (validateText_eq_ok_iff _ _ _).mpr (titleValid t given)
  have contentPasses : ∀ c ∈ content, validateText "content" c maxContentLength = .ok () :=
    fun c given => (validateText_eq_ok_iff _ _ _).mpr (contentValid c given)
  -- Each text is checked only when given; once both pass, the save of the changed issue succeeds.
  cases title <;> cases content <;>
    simp_all [update, findIssue, bind, Except.bind, UpdateRequest.applyTo] <;> rfl

theorem updateRequestOf_of_unreadable {body now : String} {e : ReadError}
    (unread : readTextAs updateBodyShape body = .error e) :
    updateRequestOf body now = .error (.failure 400 ("Invalid request body: " ++ e.message) now) := by
  simp only [updateRequestOf, readBody, unread]
  rfl

theorem updateRequestOf_of_unknownType {body now : String} {d : Datum} {raw : Datum}
    (read : readTextAs updateBodyShape body = .ok d) (given : (d.field 2).asOption = some raw)
    (unknown : IssueType.parse raw.asText = none) :
    updateRequestOf body now = .error (.failure 400 ("Unknown issue type: " ++ raw.asText) now) := by
  simp only [updateRequestOf, readBody, read, bind, Except.bind, given, readType, unknown, Except.map]

/-- A readable body whose type, when given, is known is the change of its given fields. -/
theorem updateRequestOf_of_read {body now : String} {d : Datum}
    (read : readTextAs updateBodyShape body = .ok d)
    (known : ∀ raw ∈ (d.field 2).asOption.map Datum.asText, IssueType.parse raw ≠ none) :
    updateRequestOf body now =
      .ok ⟨(d.field 0).asOption.map Datum.asText, (d.field 1).asOption.map Datum.asText,
        ((d.field 2).asOption.map Datum.asText).bind IssueType.parse⟩ := by
  cases given : (d.field 2).asOption with
  | none =>
    simp only [updateRequestOf, readBody, read, bind, Except.bind, given]
    rfl
  | some raw =>
    rw [given] at known
    obtain ⟨type, typed⟩ := Option.ne_none_iff_exists'.mp (known raw.asText rfl)
    simp only [updateRequestOf, readBody, read, bind, Except.bind, given, readType, typed, Except.map,
      Option.map_some, Option.bind_some]
    rfl

variable {headers : Headers} {body now : String}

theorem handleUpdate_of_bodyRefused {r : Response} (refused : updateRequestOf body now = .error r) :
    handleUpdate table headers id body now = .unchanged table r := by
  simp only [handleUpdate, refused]

theorem handleUpdate_of_serviceRefused (read : updateRequestOf body now = .ok request) {e : IssueError}
    (refused : update table (Caller.ofHeaders headers) id request = .error e) :
    handleUpdate table headers id body now = .unchanged table (.ofError e now) := by
  simp only [handleUpdate, read, refused]

/-- A saved change is answered 200 with the changed issue, and announced with the fields given. -/
theorem handleUpdate_of_saved (read : updateRequestOf body now = .ok request) {table' : IssueTable}
    {changed : Issue} (saved : update table (Caller.ofHeaders headers) id request = .ok (table', changed)) :
    handleUpdate table headers id body now =
      ⟨table', ⟨200, changed.toValue⟩, [.updated changed.id request.title request.content request.type]⟩ := by
  simp only [handleUpdate, read, saved]

end FleetIssues.Issue

namespace FleetIssues

open Issue Json Schema Text

/-- A change answers the first failing check, in order, and then changes and publishes nothing; when
all pass it replaces exactly the given fields of that issue and no other row. -/
theorem update_applies_completely_or_not_at_all (app : App) (now : String) (headers : Headers)
    (id : Int) (body : String) :
    let user := (headers.get userIdHeader).bind fun value => parseInt64? (trimBlank value)
    let refusedWith := fun response => app.step now (.update headers id body) = (app, .response response [])
    (∀ e, readTextAs updateBodyShape body = .error e →
      refusedWith (.failure 400 ("Invalid request body: " ++ e.message) now)) ∧
    ∀ d, readTextAs updateBodyShape body = .ok d →
      let title := (d.field 0).asOption.map Datum.asText
      let content := (d.field 1).asOption.map Datum.asText
      let typeName := (d.field 2).asOption.map Datum.asText
      (∀ raw ∈ typeName, IssueType.parse raw = none →
        refusedWith (.failure 400 ("Unknown issue type: " ++ raw) now)) ∧
      ((∀ raw ∈ typeName, IssueType.parse raw ≠ none) →
        let type := typeName.bind IssueType.parse
        (app.table.findById id = none → refusedWith (.ofError (.notFound id) now)) ∧
        ∀ issue, app.table.findById id = some issue →
          (user ≠ some issue.carrier →
            refusedWith (.ofError (.forbidden "only the reporting carrier can update an issue") now)) ∧
          (user = some issue.carrier →
            (¬ GivenTextsValid title content →
              ∃ reason, refusedWith (.ofError (.validation reason) now)) ∧
            (GivenTextsValid title content →
              let changed : Issue := { issue with
                title := title.getD issue.title
                content := content.getD issue.content
                type := type.getD issue.type }
              ∃ table', app.step now (.update headers id body) =
                  ({ app with table := table' },
                    .response ⟨200, changed.toValue⟩ [(IssueEvent.updated id title content type).render]) ∧
                table'.findById id = some changed ∧
                (∀ other, other ≠ id → table'.findById other = app.table.findById other) ∧
                table'.lastId = app.table.lastId ∧ table'.count = app.table.count))) := by
  intro user refusedWith
  have step : app.step now (.update headers id body) =
      app.settle (handleUpdate app.table headers id body now) := rfl
  -- Every refusal of the endpoint keeps the table, and so leaves the application as it was.
  have refuse : ∀ r, handleUpdate app.table headers id body now = .unchanged app.table r →
      refusedWith r := by
    intro r unchanged
    show app.step now (.update headers id body) = (app, .response r [])
    rw [step, unchanged, App.settle_unchanged]
  refine ⟨fun e unread => refuse _ (handleUpdate_of_bodyRefused (updateRequestOf_of_unreadable unread)), ?_⟩
  intro d read title content typeName
  refine ⟨fun raw given unknown => ?_, fun known => ?_⟩
  · obtain ⟨rawDatum, isGiven, rfl⟩ := Option.map_eq_some_iff.mp given
    exact refuse _ (handleUpdate_of_bodyRefused (updateRequestOf_of_unknownType read isGiven unknown))
  intro type
  let request : UpdateRequest := ⟨title, content, type⟩
  have readRequest : updateRequestOf body now = .ok request := updateRequestOf_of_read read known
  -- From here on the service decides, and the endpoint answers its refusal unchanged.
  have serviceRefuses : ∀ e, update app.table (Caller.ofHeaders headers) id request = .error e →
      refusedWith (.ofError e now) :=
    fun e refused => refuse _ (handleUpdate_of_serviceRefused readRequest refused)
  refine ⟨fun missing => serviceRefuses _ (update_of_missing missing), ?_⟩
  intro issue found
  refine ⟨fun other => serviceRefuses _ (update_of_notFiler found other), fun filer => ?_⟩
  have author : (Caller.ofHeaders headers).userId = some issue.carrier := filer
  refine ⟨fun invalid => ?_, fun valid => ?_⟩
  · obtain ⟨reason, refused⟩ : ∃ reason,
        update app.table (Caller.ofHeaders headers) id request = .error (.validation reason) :=
      update_refuses_texts found author invalid
    exact ⟨reason, serviceRefuses _ refused⟩
  intro changed
  -- The issue found carries the id asked for, so the id may stand for it.
  obtain rfl : issue.id = id := IssueTable.id_of_findById found
  have saved : update app.table (Caller.ofHeaders headers) issue.id request =
      .ok ({ app.table with
          rows := app.table.rows.map fun r => if r.id == issue.id then changed else r }, changed) :=
    update_saves found author valid
  have savedTable : app.table.save changed =
      .ok { app.table with rows := app.table.rows.map fun r => if r.id == issue.id then changed else r } :=
    IssueTable.save_of_findById found
  refine ⟨_, ?_, ?_, fun other differs => ?_, IssueTable.lastId_of_save savedTable,
    IssueTable.count_of_save savedTable⟩
  · rw [step, handleUpdate_of_saved readRequest saved]
    rfl
  · rw [IssueTable.findById_of_save savedTable, if_pos rfl]
  · rw [IssueTable.findById_of_save savedTable, if_neg differs]

end FleetIssues
