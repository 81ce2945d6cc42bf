import AuthApi.Run.Tables

/-! # Histories of the service

A run of the service is a lawful history: each event follows its predecessor, was answered by the
world, and committed only what `Commits` lists. What a request saw is an earlier event, so it was
true of an earlier state.
-/

namespace AuthApi

open Interleaving Relational

variable {Token : Type} {app : App Token} {condition : Condition Tid Reply World} {world : World}
  {requests : Tid → Request Token} {config : ServiceConfig Token}

/-- The statements an event committed. -/
def committed (event : ServiceEvent) : List Write := committedBy event.request event.reply

theorem committed_of_exchange {event : ServiceEvent} {exchange : Exchange Reply}
    (same : event.exchange = exchange) :
    committed event = committedBy exchange.request exchange.reply := same ▸ rfl

/-- Only a commit commits anything. -/
theorem committed_of_silent {event : ServiceEvent}
    (silent : ∀ session writes, event.request ≠ .commit session writes) : committed event = [] := by
  obtain ⟨thread, request, reply, before, after⟩ := event
  cases request with
  | commit session writes => exact absurd rfl (silent session writes)
  | _ => rfl

/-- Requests run one after another: a new one starts when the last one has closed its session. -/
def sequentially : Condition Tid Reply World := fun past event =>
  match past with
  | [] => True
  | last :: _ => last.thread = event.thread ∨ last.request = .close

instance (past : List ServiceEvent) (event : ServiceEvent) :
    Decidable (sequentially past event) := by
  unfold sequentially
  split <;> infer_instance

/-- The histories that runs of the service have. -/
abbrev ServiceLawful (app : App Token) (condition : Condition Tid Reply World) (world : World)
    (requests : Tid → Request Token) : List ServiceEvent → Prop :=
  Lawful answers condition (fun tid => Allowed app (requests tid)) world

theorem service_course (run : Reaches answers condition (started app world requests) config) :
    Course answers condition (fun tid => Allowed app (requests tid)) (fun _ _ _ => True) world
      config :=
  run.course (.initial fun tid => (requests tid).allowed app)

/-- Per-thread facts about calls and outcomes, added to what is known of every run. -/
theorem course_of_along (specs : Tid → Trace Reply → Call → Prop)
    (posts : Tid → Trace Reply → Except Exn (Outcome Token) → Prop)
    (run : Reaches answers condition (started app world requests) config)
    (along : ∀ tid, ((requests tid).program app).Along (specs tid) (posts tid) []) :
    Course answers condition specs posts world config :=
  run.course (.initial along)

theorem answers_now {tid : Tid} {before after : World} {reply : Time}
    (answered : answers tid .now before reply after) : reply = after.clock := by
  obtain ⟨choice, answered⟩ := answered
  cases answered
  rfl

section Events

variable {specs : Tid → Trace Reply → Call → Prop} {older past : List ServiceEvent}
  {event : ServiceEvent}

theorem event_effect (lawful : LawfulEvent answers condition specs world older event) :
    Effect event.thread event.before event.request event.reply event.after :=
  answers_effect lawful.answered

theorem event_db (lawful : LawfulEvent answers condition specs world older event) :
    event.before.db.writeAll (event.before.defaults event.thread) event.after.clock
      (committed event) = .ok event.after.db := (event_effect lawful).db

theorem db_of_committed_nil (lawful : LawfulEvent answers condition specs world older event)
    (none : committed event = []) : event.after.db = event.before.db := by
  have written := event_db lawful
  rw [none] at written
  exact (Except.ok.inj written).symm

theorem event_answers (lawful : LawfulEvent answers condition specs world older event)
    {exchange : Exchange Reply} (same : event.exchange = exchange) :
    answers event.thread exchange.request (stateAfter world older) exchange.reply event.after := by
  subst same
  exact lawful.follows ▸ lawful.answered

/-- An event commits nothing, or what its request was entitled to. -/
theorem event_commits
    (lawful : LawfulEvent answers condition (fun tid => Allowed app (requests tid)) world older
      event) :
    committed event = [] ∨
      Commits app (requests event.thread) (traceOf older event.thread) (committed event) := by
  obtain ⟨thread, request, reply, before, after⟩ := event
  cases request with
  | commit session writes =>
    cases reply with
    | ok _ => exact .inr lawful.specified
    | error error => exact .inl rfl
  | _ => exact .inl rfl

/-- What a thread saw was answered to it at some moment of the past. -/
theorem seen_event (lawful : Lawful answers condition specs world past) {tid : Tid}
    {exchange : Exchange Reply} (seen : exchange ∈ traceOf past tid) :
    ∃ newer event older, past = newer ++ event :: older ∧ event.thread = tid ∧
      event.exchange = exchange ∧ event.before = stateAfter world older ∧
      answers tid exchange.request (stateAfter world older) exchange.reply event.after := by
  obtain ⟨event, member, rfl, rfl⟩ := mem_traceOf.mp seen
  obtain ⟨newer, older, rfl⟩ := List.append_of_mem member
  have facts := lawful.event
  exact ⟨newer, event, older, rfl, rfl, rfl, facts.follows, facts.follows ▸ facts.answered⟩

/-- The same, for a fact about the state that answered. -/
theorem seen_answer (lawful : Lawful answers condition specs world past) {tid : Tid}
    {exchange : Exchange Reply} (seen : exchange ∈ traceOf past tid) :
    ∃ older after, older <:+ past ∧
      answers tid exchange.request (stateAfter world older) exchange.reply after := by
  obtain ⟨newer, event, older, rfl, _, _, _, answered⟩ := seen_event lawful seen
  exact ⟨older, event.after, (List.suffix_cons _ _).trans (List.suffix_append _ _), answered⟩

theorem clock_mono (lawful : Lawful answers condition specs world past) (suffix : older <:+ past) :
    (stateAfter world older).clock ≤ (stateAfter world past).clock :=
  Lawful.relates (r := fun first last => first.clock ≤ last.clock) (fun _ => le_refl _)
    (fun left right => le_trans left right) (fun _ _ _ lawful => (event_effect lawful).clock) lawful
    suffix

/-- A time a request saw is not later than any state reached since. -/
theorem saw_now (lawful : Lawful answers condition specs world past) {tid : Tid} {time : Time}
    (seen : ⟨.now, time⟩ ∈ traceOf past tid) : time ≤ (stateAfter world past).clock := by
  obtain ⟨newer, event, older, rfl, _, _, _, answered⟩ := seen_event lawful seen
  have moment : time = event.after.clock := answers_now answered
  rw [moment]
  exact clock_mono lawful (List.suffix_append newer (event :: older))

end Events

section Replies

variable {tid : Tid} {before after : World}

theorem answers_getUser {id : UUID4} {reply : Option UserObject}
    (answered : answers tid (.getUser id) before reply after) :
    reply = (before.db.user? id).map (before.userObject false) := by
  obtain ⟨choice, answered⟩ := answered
  cases answered
  rfl

theorem answers_selectUserById {id : UUID4} {loadRole : Bool} {reply : Option UserObject}
    (answered : answers tid (.selectUserById id loadRole) before reply after) :
    reply = (before.db.user? id).map (before.userObject loadRole) := by
  obtain ⟨choice, answered⟩ := answered
  cases answered
  rfl

theorem answers_refreshUser {id : UUID4} {withRole : Bool} {reply : Option UserObject}
    (answered : answers tid (.refreshUser id withRole) before reply after) :
    reply = (before.db.user? id).map (before.userObject withRole) := by
  obtain ⟨choice, answered⟩ := answered
  cases answered
  rfl

theorem answers_selectLinkedUser {provider providerUserId : String} {reply : Option UserObject}
    (answered : answers tid (.selectLinkedUser provider providerUserId) before reply after) :
    reply = (before.db.linkedUser? provider providerUserId).map (before.userObject true) := by
  obtain ⟨choice, answered⟩ := answered
  cases answered
  rfl

theorem answers_selectUserByEmail {email : String} {withRole : Bool} {reply : Option UserObject}
    (answered : answers tid (.selectUserByEmail email withRole) before reply after) :
    reply = (before.db.userByEmail? email).map (before.userObject withRole) := by
  obtain ⟨choice, answered⟩ := answered
  cases answered
  rfl

theorem answers_getRole {id : UUID4} {reply : Option Role}
    (answered : answers tid (.getRole id) before reply after) : reply = before.db.role? id := by
  obtain ⟨choice, answered⟩ := answered
  cases answered
  rfl

theorem answers_selectRoleByTitle {title : String} {reply : Option Role}
    (answered : answers tid (.selectRoleByTitle title) before reply after) :
    reply = before.db.roleByTitle? title := by
  obtain ⟨choice, answered⟩ := answered
  cases answered
  rfl

theorem answers_commit_error {session : Session} {writes : List Write} {error : DbError}
    (answered : answers tid (.commit session writes) before (.error error) after) :
    ∃ now, before.db.writeAll (before.defaults tid) now writes = .error error := by
  obtain ⟨choice, answered⟩ := answered
  simp only [World.respond, World.answer, World.commit] at answered
  split at answered
  · cases answered
  · split at answered <;> cases answered
    exact ⟨_, by assumption⟩

end Replies

end AuthApi
