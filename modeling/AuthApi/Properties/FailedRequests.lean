import AuthApi.Run.ApiEnds

/-! # Failed requests

A request that its route refuses leaves the tables as they were: the error comes before its session commits
anything. Only the default role may have been created on the way, which has a session of its own.
-/

namespace AuthApi

open Interleaving Interleaving.Program Dependencies

variable {Token : Type} {app : App Token}

/-- The tables gain the default role, and nothing else. -/
def CreatesDefaultRole (before after : Database) : Prop :=
  DEFAULT_ROLE_TITLE ∉ before.roles.map Role.title ∧ ∃ role : Role, role.title = DEFAULT_ROLE_TITLE ∧
    role.accessLabels = DEFAULT_ROLE_ACCESS_LABELS ∧
    after.toTables = { before.toTables with roles := before.roles ++ [role] }

/-- The default role is created where no role has its title. -/
theorem createsDefaultRole {db next : Database} {defaults : ModelDefaults} {now : Time} {id : UUID4}
    (written : db.writeAll defaults now
      [.insertRole ⟨id, DEFAULT_ROLE_TITLE, DEFAULT_ROLE_ACCESS_LABELS⟩] = .ok next) :
    CreatesDefaultRole db next := by
  have tables := Database.writeAll_insertRole written
  refine ⟨?_, _, rfl, rfl, tables⟩
  have titles := next.consistent.roleTitles
  rw [tables] at titles
  simp only [List.map_append, List.map_cons, List.map_nil] at titles
  exact fun taken => (List.disjoint_of_nodup_append titles) taken List.mem_cons_self

/-- A call that commits nothing in the session of its request leaves the tables, or creates the default role. -/
theorem event_of_ownWrites {condition : Condition Tid Reply World} {specs : Tid → Trace Reply → Call → Prop}
    {world : World} {older : List ServiceEvent} {event : ServiceEvent}
    (lawful : LawfulEvent answers condition specs world older event) (quiet : ownWrites event.exchange = [])
    (shared : event.request.InsertsDefaultRole) :
    event.after.db = event.before.db ∨ CreatesDefaultRole event.before.db event.after.db := by
  have written := event_db lawful
  obtain ⟨thread, request, reply, before, after⟩ := event
  by_cases commits : ∃ session writes, request = .commit session writes
  · obtain ⟨session, writes, rfl⟩ := commits
    cases reply with
    | error error => exact .inl (db_of_committed_nil lawful rfl)
    | ok _ =>
      cases session with
      | request => exact .inl (db_of_committed_nil lawful quiet)
      | defaultRole =>
        obtain ⟨id, rfl⟩ := shared writes rfl
        exact .inr (createsDefaultRole written)
  · apply Or.inl
    apply db_of_committed_nil lawful
    exact committed_of_silent fun session writes same => commits ⟨session, writes, same⟩

/-- Every request that is answered with an error other than a 500 has left the tables as they were, but for the
default role. -/
theorem failed_requests_leave_tables {world : World} {requests : Tid → ApiRequest Token} {config : ApiConfig Token}
    (run : Reaches answers unrestricted (receivedAll app world requests) config) {tid : Tid}
    {response : ApiResponse Token} (done : config.threads tid = .done response)
    (failed : response.status ∉ [200, 302, 500]) {event : ServiceEvent} (member : event ∈ config.past)
    (own : event.thread = tid) :
    event.after.db = event.before.db ∨ CreatesDefaultRole event.before.db event.after.db := by
  have course := api_course _ _ run fun tid => ((requests tid).along fun service asks => asks.ends).and
    ((admitsShared_insertsDefaultRole app).apiRequest (requests tid))
  obtain ⟨⟨_, same, answered⟩, _⟩ := course.done done
  cases same
  obtain ⟨requestId, routed, _, rfl, ends⟩ := answered.routed
  have spotless := ends.spotless failed
  subst own
  have quiet := spotless event.exchange (mem_traceOf.mpr ⟨event, member, rfl, rfl⟩)
  have lawful := course.lawful
  obtain ⟨newer, older, split⟩ := List.append_of_mem member
  rw [split] at lawful
  exact event_of_ownWrites lawful.event quiet lawful.event.specified.2

/-- A registration with an email that is taken leaves no trace. -/
theorem failed_requests_leave_tables_taken : ∃ (config : ApiConfig Claims) (response : ApiResponse Claims),
    config.threads 0 = .done response ∧ response.status = 400 ∧ ∀ event ∈ config.past, event.thread = 0 →
      event.after.db = event.before.db ∨ CreatesDefaultRole event.before.db event.after.db := by
  have played : ((receivedAll transparentApp bootstrappedWorld fun _ =>
      .createUser ⟨"POST", none, [], [], []⟩ (.data ⟨"admin@example.com", "pw"⟩)).playAll World.answer unrestricted
      [move 0, move 0, move 0, move 0]).any
      (fun config => (config.threads 0).value?.any fun response => response.status = 400) = true := by
    decide
  obtain ⟨config, run, checked⟩ := Config.playAll_exists played
  obtain ⟨response, returned, refused⟩ := (Option.any_eq_true _ _).mp checked
  have done := value?_eq_some.mp returned
  have status := of_decide_eq_true refused
  refine ⟨config, response, done, status, fun event member own => ?_⟩
  exact failed_requests_leave_tables run done (by simp [status]) member own

end AuthApi
