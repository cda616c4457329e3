import FleetIssues.Proofs.Filing
/-! The outbox and the responses. -/

namespace FleetIssues

open Issue Json

/-- The outbox lines of an answer: an endpoint's, and none for anything else. -/
def Answer.published : Answer → List String
  | .response _ outbox => outbox
  | _ => []

namespace App

/-- The outbox after a session: the lines of each answer, in the order of the answers. -/
def outbox (app : App) (now : String) (requests : List Request) : List String :=
  (app.run now requests).2.flatMap Answer.published

end App

namespace Issue

/-- The key under which the answer body holds what a payload field holds. -/
def bodyKey : String → String
  | "issueId" => "id"
  | "issueType" => "type"
  | key => key

/-- The payload fields of a created message, in wire order. -/
def createdKeys : List String :=
  ["issueId", "title", "content", "issueType", "reportedAt", "carrierId", "managerId", "vehicleId",
    "shipmentId"]

/-- The payload fields an updated message may carry after the id, in wire order. -/
def changeKeys : List String := ["title", "content", "issueType"]

/-- An outbox line announces an event of a kind about an answer body: it is the compact envelope of
that kind around a payload object whose keys pass `Keys`, and every field of the payload holds what
the body holds under the matching key. -/
def AnnouncesBody (kind : String) (Keys : List String → Prop) (body : Value) (line : String) : Prop :=
  ∃ fields members,
    line = (Value.object [("type", .string kind), ("payload", .object fields)]).compact ∧
    body = .object members ∧ Keys (fields.map Prod.fst) ∧
    ∀ field ∈ fields, members.lookup (bodyKey field.1) = some field.2

/-- A call that announces on one status publishes one line about its body when it is answered with
that status, and nothing otherwise. -/
def AnnouncesOn (status : Nat) (kind : String) (Keys : List String → Prop) (response : Response)
    (outbox : List String) : Prop :=
  if response.status = status then ∃ line, outbox = [line] ∧ AnnouncesBody kind Keys response.body line
  else outbox = []

/-- The keys of an updated message: the id, then some of the changed fields in wire order. -/
def UpdatedKeys (keys : List String) : Prop :=
  ∃ changed, keys = "issueId" :: changed ∧ changed.Sublist changeKeys

end Issue

/-- What an answer publishes, given its request: a filing announces its issue when it is answered
201, a change announces itself when it is answered 200, and every other answer publishes
nothing. -/
def Publishes : Request → Answer → Prop
  | .create .., .response response outbox =>
    AnnouncesOn 201 "issueCreatedEvent" (· = createdKeys) response outbox
  | .update .., .response response outbox =>
    AnnouncesOn 200 "issueUpdatedEvent" UpdatedKeys response outbox
  | _, answer => answer.published = []

namespace Issue

/-- Every field of a created message holds what the answer body of its issue holds. -/
theorem created_announcesBody (issue : Issue) :
    AnnouncesBody "issueCreatedEvent" (· = createdKeys) issue.toValue (IssueEvent.created issue).render := by
  refine ⟨_, _, rfl, rfl, rfl, ?_⟩
  intro field mem
  simp only [List.mem_cons, List.not_mem_nil, or_false] at mem
  rcases mem with rfl | rfl | rfl | rfl | rfl | rfl | rfl | rfl | rfl <;> rfl

/-- A field of an updated message that stands for an optional change is there only when the change
is given, and then holds it. -/
theorem mem_optionalField {α : Type} {key : String} {toValue : α → Value} {o : Option α}
    {field : String × Value} (mem : field ∈ (o.map fun a => [(key, toValue a)]).getD []) :
    ∃ a, o = some a ∧ field = (key, toValue a) := by
  cases o with
  | none => cases mem
  | some a => exact ⟨a, rfl, List.mem_singleton.mp mem⟩

theorem keys_optionalField {α : Type} (key : String) (toValue : α → Value) (o : Option α) :
    (((o.map fun a => [(key, toValue a)]).getD []).map Prod.fst).Sublist [key] := by
  cases o with
  | none => exact List.nil_sublist _
  | some a => exact List.Sublist.refl _

/-- Every field of an updated message holds what the answer body of the changed issue holds. -/
theorem updated_announcesBody (issue : Issue) (request : UpdateRequest) :
    AnnouncesBody "issueUpdatedEvent" UpdatedKeys
      { issue with
        title := request.title.getD issue.title
        content := request.content.getD issue.content
        type := request.type.getD issue.type }.toValue
      (IssueEvent.updated issue.id request.title request.content request.type).render := by
  refine ⟨_, _, rfl, rfl, ⟨_, rfl, ?keys⟩, ?fields⟩
  case keys =>
    simp only [List.append_eq, List.nil_append, List.map_append]
    exact ((keys_optionalField _ _ _).append (keys_optionalField _ _ _)).append (keys_optionalField _ _ _)
  case fields =>
    intro field mem
    simp only [List.mem_append, List.mem_singleton] at mem
    rcases mem with ((rfl | titled) | contented) | typed
    · rfl
    · obtain ⟨title, given, rfl⟩ := mem_optionalField titled
      rw [given]
      rfl
    · obtain ⟨content, given, rfl⟩ := mem_optionalField contented
      rw [given]
      rfl
    · obtain ⟨type, given, rfl⟩ := mem_optionalField typed
      rw [given]
      rfl

/-- A response that is no success does not have a success status. -/
theorem Response.status_ne_of_isSuccess {r : Response} (refused : r.isSuccess = false) {status : Nat}
    (success : 200 ≤ status ∧ status < 300) : r.status ≠ status := by
  intro answered
  simp only [Response.isSuccess, answered, Bool.and_eq_false_iff, decide_eq_false_iff_not] at refused
  omega

/-- A body that is not a filing request is answered 400. -/
theorem createRequestOf_error {body now : String} {r : Response}
    (refused : createRequestOf body now = .error r) : r.status = 400 := by
  rcases bind_eq_error refused with unread | ⟨d, -, rest⟩
  · exact readBody_error unread
  · rcases bind_eq_error rest with badType | ⟨type, -, rest⟩
    · exact readType_error badType
    · cases rest

/-- Filing either refuses and announces nothing, or answers 201 with the issue it announces. -/
theorem handleCreate_outcome (index : Fleet.Index) (table : IssueTable) (headers : Headers)
    (body now : String) :
    let handled := handleCreate index table headers body now
    (handled.response.isSuccess = false ∧ handled.events = []) ∨
      ∃ issue, handled.response = ⟨201, issue.toValue⟩ ∧ handled.events = [.created issue] := by
  intro handled
  unfold handled
  cases authorized : authorizeCreate (Caller.ofHeaders headers) with
  | error e =>
    rw [handleCreate_of_callerRefused authorized]
    exact .inl ⟨Response.ofError_isSuccess _ _, rfl⟩
  | ok user =>
    cases read : createRequestOf body now with
    | error r =>
      rw [handleCreate_of_bodyRefused authorized read]
      exact .inl ⟨Response.isSuccess_of_badRequest (createRequestOf_error read), rfl⟩
    | ok request =>
      cases stored : create index table (Caller.ofHeaders headers) request now with
      | error e =>
        rw [handleCreate_of_serviceRefused authorized read stored]
        exact .inl ⟨Response.ofError_isSuccess _ _, rfl⟩
      | ok result =>
        obtain ⟨table', issue⟩ := result
        rw [handleCreate_of_stored authorized read stored]
        exact .inr ⟨issue, rfl, rfl⟩

/-- A change either refuses and announces nothing, or answers 200 with the changed issue and
announces the change. -/
theorem handleUpdate_outcome (table : IssueTable) (headers : Headers) (id : Int) (body now : String) :
    let handled := handleUpdate table headers id body now
    (handled.response.isSuccess = false ∧ handled.events = []) ∨
      ∃ (issue : Issue) (request : UpdateRequest),
        handled.response = ⟨200, { issue with
          title := request.title.getD issue.title
          content := request.content.getD issue.content
          type := request.type.getD issue.type }.toValue⟩ ∧
        handled.events = [.updated issue.id request.title request.content request.type] := by
  intro handled
  unfold handled handleUpdate
  split
  · rename_i r unread
    exact .inl ⟨Response.isSuccess_of_badRequest (updateRequestOf_error unread), rfl⟩
  · rename_i request _
    split
    · exact .inl ⟨Response.ofError_isSuccess _ _, rfl⟩
    · rename_i table' changed updated
      obtain ⟨issue, -, -, rfl, -⟩ := update_eq_ok updated
      exact .inr ⟨issue, request, rfl, rfl⟩

/-- A removal announces nothing. -/
theorem handleDelete_events (table : IssueTable) (headers : Headers) (id : Int) (now : String) :
    (handleDelete table headers id now).events = [] := by
  unfold handleDelete
  split <;> rfl

/-- A call that announces on one status publishes at most one line. -/
theorem AnnouncesOn.length_le_one {status : Nat} {kind : String} {Keys : List String → Prop}
    {response : Response} {outbox : List String} (announces : AnnouncesOn status kind Keys response outbox) :
    outbox.length ≤ 1 := by
  unfold AnnouncesOn at announces
  split at announces
  · obtain ⟨line, rfl, -⟩ := announces
    rfl
  · rw [announces]
    exact Nat.zero_le _

end Issue

namespace App

variable (app : App) (now : String)

@[simp] theorem settle_snd (handled : Handled) :
    (app.settle handled).2 = .response handled.response (handled.events.map IssueEvent.render) := rfl

theorem run_cons_fst (request : Request) (rest : List Request) :
    (app.run now (request :: rest)).1 = ((app.step now request).1.run now rest).1 := rfl

theorem run_cons_snd (request : Request) (rest : List Request) :
    (app.run now (request :: rest)).2 = (app.step now request).2 :: ((app.step now request).1.run now rest).2 :=
  rfl

/-- A session split in two: the second part runs on what the first left, and its answers follow. -/
theorem run_append (before after : List Request) :
    app.run now (before ++ after) =
      (((app.run now before).1.run now after).1,
        (app.run now before).2 ++ ((app.run now before).1.run now after).2) := by
  induction before generalizing app with
  | nil => rfl
  | cons request rest ih =>
    rw [List.cons_append]
    ext : 1
    · rw [run_cons_fst, ih, run_cons_fst]
    · rw [run_cons_snd, ih, run_cons_snd, run_cons_fst, List.cons_append]

/-- The outbox of a session is the outbox of its first requests, then that of the rest. -/
theorem outbox_append (before after : List Request) :
    app.outbox now (before ++ after) = app.outbox now before ++ (app.run now before).1.outbox now after := by
  rw [outbox, run_append, List.flatMap_append]
  rfl

end App

/-- An endpoint that announces on a success status publishes as `AnnouncesOn` says when it either
refuses without announcing, or answers that status and announces one event about its body. -/
theorem announcesOn_of_outcome {status : Nat} (success : 200 ≤ status ∧ status < 300) {kind : String}
    {Keys : List String → Prop} {handled : Handled}
    (outcome : (handled.response.isSuccess = false ∧ handled.events = []) ∨
      (handled.response.status = status ∧ ∃ event, handled.events = [event] ∧
        AnnouncesBody kind Keys handled.response.body event.render)) :
    AnnouncesOn status kind Keys handled.response (handled.events.map IssueEvent.render) := by
  rcases outcome with ⟨refused, silent⟩ | ⟨answered, event, announced, agrees⟩
  · rw [AnnouncesOn, if_neg (Response.status_ne_of_isSuccess refused success), silent, List.map_nil]
  · rw [AnnouncesOn, if_pos answered, announced]
    exact ⟨_, rfl, agrees⟩

/-- Each request publishes what it may: a filing and a change announce on their success status and
only then, and every other request publishes nothing. -/
theorem step_publishes (app : App) (now : String) (request : Request) :
    Publishes request (app.step now request).2 := by
  cases request
  case create headers body =>
    simp only [App.step, App.settle_snd, Publishes]
    apply announcesOn_of_outcome (by decide)
    rcases handleCreate_outcome app.index app.table headers body now with
      refused | ⟨issue, answered, announced⟩
    · exact .inl refused
    · rw [answered]
      exact .inr ⟨rfl, _, announced, created_announcesBody issue⟩
  case update headers id body =>
    simp only [App.step, App.settle_snd, Publishes]
    apply announcesOn_of_outcome (by decide)
    rcases handleUpdate_outcome app.table headers id body now with
      refused | ⟨issue, change, answered, announced⟩
    · exact .inl refused
    · rw [answered]
      exact .inr ⟨rfl, _, announced, updated_announcesBody issue change⟩
  case delete headers id =>
    simp only [App.step, App.settle_snd, Publishes, Answer.published]
    rw [handleDelete_events, List.map_nil]
  case replayFile contents => cases contents <;> rfl
  -- Every other request is answered with no outbox at all, or with an empty one.
  all_goals rfl

/-- A request publishes at most one line. -/
theorem Publishes.published_length_le_one {request : Request} {answer : Answer}
    (publishes : Publishes request answer) : answer.published.length ≤ 1 := by
  unfold Publishes at publishes
  split at publishes
  · exact publishes.length_le_one
  · exact publishes.length_le_one
  · rw [publishes]
    exact Nat.zero_le _

/-- Every answer of a session publishes what its request and its response allow. -/
theorem run_publishes (app : App) (now : String) (requests : List Request) :
    List.Forall₂ Publishes requests (app.run now requests).2 := by
  induction requests generalizing app with
  | nil => exact .nil
  | cons request rest ih =>
    rw [App.run_cons_snd]
    exact .cons (step_publishes app now request) (ih _)

/-- Over every session, each answer publishes at most one line, and only the created or updated
message its request and response allow, in the order of the requests. -/
theorem outbox_matches_responses (app : App) (now : String) (requests : List Request) :
    List.Forall₂ (fun request answer => Publishes request answer ∧ answer.published.length ≤ 1)
      requests (app.run now requests).2 ∧
    ∀ k, app.outbox now requests =
      app.outbox now (requests.take k) ++ (app.run now (requests.take k)).1.outbox now (requests.drop k) := by
  refine ⟨(run_publishes app now requests).imp fun _ _ publishes =>
    ⟨publishes, publishes.published_length_le_one⟩, fun k => ?_⟩
  conv_lhs => rw [← List.take_append_drop k requests]
  exact App.outbox_append app now _ _

end FleetIssues
