import AuthApi.Run.DefaultRole
import AuthApi.Run.SharedCalls

/-! # Concurrent calls for the default role

`get_or_create_default_role` looks the role up and inserts it if there is none. Two calls may both find none:
the unique title then refuses the second insertion, and nothing handles the `IntegrityError`. The calls that
return agree on the role in every order.
-/

namespace AuthApi

open Interleaving Interleaving.Program Relational

/-- The operations that add, rename or remove roles. -/
def RoleOperation.editsRoles : RoleOperation → Bool
  | .createRole _ => true
  | .removeRole _ => true
  | .modifyRole _ _ => true
  | _ => false

def Request.editsRoles {Token : Type} (request : Request Token) : Bool :=
  request.roleOperation?.any RoleOperation.editsRoles

/-- A call failed, with the error of its commit. -/
def CallRaised (trace : Trace Reply) : Prop :=
  ∃ writes error, ⟨.commit .defaultRole writes, .error error⟩ ∈ trace

/-- The calls of `get_or_create_default_role`. -/
def Call.fetchesDefault : Call → Bool
  | .selectRoleByTitle _ => true
  | .uuid4 => true
  | .commit .defaultRole _ => true
  | _ => false

section Programs

variable {Token : Type} {trace : Trace Reply}

/-- A call returns the role it found or created, or raises the error of its commit. -/
theorem getOrCreateDefaultRole_result :
    DbHelpers.getOrCreateDefaultRole.Along (fun _ _ => True)
      (fun later outcome => CallRaised later ∨ ∃ role, outcome = .ok role ∧ SawDefaultRole later role.id)
      trace := by
  refine ⟨trivial, fun found => ?_⟩
  cases found with
  | some role => exact .inr ⟨_, rfl, .inl ⟨role, rfl, List.mem_cons_self⟩⟩
  | none =>
    refine ⟨trivial, fun id => ⟨trivial, fun reply => ?_⟩⟩
    cases reply with
    | ok _ => exact .inr ⟨_, rfl, .inr List.mem_cons_self⟩
    | error error => exact .inl ⟨_, error, List.mem_cons_self⟩

/-- How a call ends that is a request of its own. -/
theorem Request.fetched (app : App Token) (request : Request Token) :
    (request.program app).Along (fun _ _ => True)
      (fun later outcome => request = .getOrCreateDefaultRole → CallRaised later ∨
        ∃ role, outcome = .ok (.role role) ∧ SawDefaultRole later role.id) [] := by
  cases request with
  | getOrCreateDefaultRole =>
    apply Along.bind getOrCreateDefaultRole_result
    · rintro role later (raised | ⟨_, ⟨⟩, saw⟩) _
      · exact .inl raised
      · exact .inr ⟨_, rfl, saw⟩
    · rintro error later (raised | ⟨_, ⟨⟩, _⟩) _
      exact .inl raised
  | _ => exact along_any.mono (fun _ _ _ => trivial) fun _ _ _ => nofun

end Programs

/-- When the event inserts a role, no role has its title or its id yet. -/
def InsertsFresh (event : ServiceEvent) : Prop :=
  ∀ new, event.request = .commit .defaultRole [.insertRole new] →
    new.title ∉ event.before.db.roles.map Role.title ∧ new.id ∉ event.before.db.roles.map Role.id

section Events

variable {Token : Type} {app : App Token} {condition : Condition Tid Reply World} {world : World}
  {requests : Tid → Request Token} {specs : Tid → Trace Reply → Call → Prop}
  {older past : List ServiceEvent} {event : ServiceEvent}

/-- An insertion of the default role fails exactly when the role is not fresh. -/
theorem raised_iff (lawful : LawfulEvent answers condition specs world older event)
    (inserts : event.request.InsertsDefaultRole) :
    (∃ writes error, event.exchange = ⟨.commit .defaultRole writes, .error error⟩) ↔ ¬ InsertsFresh event := by
  have written := event_db lawful
  constructor
  · rintro ⟨writes, error, same⟩ fresh
    have committing : event.request = .commit .defaultRole writes := congrArg Exchange.request same
    obtain ⟨id, rfl⟩ := inserts writes committing
    obtain ⟨freshTitle, freshId⟩ := fresh _ committing
    obtain ⟨now, refused⟩ := answers_commit_error (event_answers lawful same)
    rw [← lawful.follows] at refused
    obtain ⟨next, accepted⟩ := Database.insertRole_ok (event.before.defaults event.thread) now freshId freshTitle
    rw [Database.writeAll, accepted] at refused
    cases refused
  · intro taken
    obtain ⟨thread, request, reply, before, after⟩ := event
    simp only [InsertsFresh, not_forall] at taken
    obtain ⟨new, ⟨⟩, stale⟩ := taken
    cases reply with
    | error error => exact ⟨_, error, rfl⟩
    | ok _ =>
      have tables := congrArg Tables.roles (Database.writeAll_insertRole written)
      have titles := after.db.consistent.roleTitles
      have ids := after.db.consistent.roleIds
      rw [tables] at titles ids
      exact absurd ⟨not_mem_of_nodup_append titles, not_mem_of_nodup_append ids⟩ stale

/-- Without edits of roles the roles only grow. -/
theorem roles_grow
    (lawful : LawfulEvent answers condition (fun tid => Allowed app (requests tid)) world older event)
    (plain : (requests event.thread).editsRoles = false) : event.before.db.roles ⊆ event.after.db.roles := by
  have written := event_db lawful
  obtain none | commits := event_commits lawful
  · rw [db_of_committed_nil lawful none]
    exact List.Subset.refl _
  have edits {operation : RoleOperation} (requested : (requests event.thread).roleOperation? = some operation) :
      operation.editsRoles = false := by
    rw [Request.editsRoles, requested] at plain
    exact plain
  generalize committed event = writes at written commits
  cases commits with
  | defaultRole id absent =>
    rw [Database.writeAll_insertRole written]
    exact List.subset_append_left _ _
  | loginHistory entry =>
    rw [Database.writeAll_insertLoginHistory written]
    exact List.Subset.refl _
  | createUser user roleId plain holds seen data requested =>
    rw [Database.writeAll_insertUser written]
    exact List.Subset.refl _
  | createSuperuser user flag email password requested =>
    rw [Database.writeAll_insertUser written]
    exact List.Subset.refl _
  | changeUser id user seen changed allowed =>
    obtain ⟨change, described, tables⟩ := Database.writeAll_userUpdate written
    rw [tables]
    exact List.Subset.refl _
  | createRole role requested => cases edits requested
  | removeRole id role seen free requested => cases edits requested
  | modifyRole id role data seen guarded requested => cases edits requested
  | link profile user id callback fetched found =>
    rw [Database.writeAll_insertOAuthAccount written]
    exact List.Subset.refl _
  | newLink profile user roleId id callback fetched plain email holds seen =>
    rw [Database.writeAll_newLink written]
    exact List.Subset.refl _

/-- The role a call returned is there from then on. -/
theorem sawDefaultRole_stored (lawful : ServiceLawful app condition world requests past)
    (plain : ∀ tid, (requests tid).editsRoles = false) {tid : Tid} {roleId : UUID4}
    (saw : SawDefaultRole (traceOf past tid) roleId) :
    ∃ role ∈ (stateAfter world past).db.roles, role.id = roleId ∧ role.title = DEFAULT_ROLE_TITLE := by
  have kept {earlier : List ServiceEvent} (suffix : earlier <:+ past) :
      (stateAfter world earlier).db.roles ⊆ (stateAfter world past).db.roles :=
    Lawful.relates (r := fun first last : World => first.db.roles ⊆ last.db.roles)
      (fun _ => List.Subset.refl _) (fun left right => List.Subset.trans left right)
      (fun _ event _ here => roles_grow here (plain event.thread)) lawful suffix
  obtain ⟨role, rfl, seen⟩ | created := saw
  · obtain ⟨earlier, _, suffix, answered⟩ := seen_answer lawful seen
    have found := (answers_selectRoleByTitle answered).symm
    exact ⟨role, kept suffix (lookup_mem found), rfl, lookup_key found⟩
  · obtain ⟨newer, event, earlier, rfl, _, same, _, _⟩ := seen_event lawful created
    have written := event_db lawful.event
    rw [committed_of_exchange same] at written
    let inserted : NewRole := ⟨roleId, DEFAULT_ROLE_TITLE, DEFAULT_ROLE_ACCESS_LABELS⟩
    have member : inserted.row (eventDefaults event) ∈ event.after.db.roles := by
      rw [Database.writeAll_insertRole written]
      exact List.mem_append_right _ List.mem_cons_self
    exact ⟨_, kept (List.suffix_append newer (event :: earlier)) member, rfl, rfl⟩

/-- A call for the default role never waits for another request. -/
theorem fetch_answered {call : Call} (fetches : call.fetchesDefault = true) (inserts : call.InsertsDefaultRole)
    (tid : Tid) (now : World) : ∃ reply after, answers tid call now reply after := by
  cases call with
  | selectRoleByTitle title => exact ⟨_, _, {}, rfl⟩
  | uuid4 => exact ⟨_, _, {}, rfl⟩
  | commit session writes =>
    cases session with
    | request => cases fetches
    | defaultRole =>
      obtain ⟨id, rfl⟩ := inserts writes rfl
      have free : (now.advance 0).blocked tid
          [.insertRole ⟨id, DEFAULT_ROLE_TITLE, DEFAULT_ROLE_ACCESS_LABELS⟩] = false := by
        simp [World.blocked, Write.waitsFor]
      cases written : (now.advance 0).db.writeAll ((now.advance 0).defaults tid) (now.advance 0).clock
          [.insertRole ⟨id, DEFAULT_ROLE_TITLE, DEFAULT_ROLE_ACCESS_LABELS⟩] with
      | ok db => exact ⟨.ok (), _, {}, by simp [World.answer, World.respond, World.commit, free, written]; rfl⟩
      | error error =>
        exact ⟨.error error, _, {}, by simp [World.answer, World.respond, World.commit, free, written]; rfl⟩
  | _ => cases fetches

end Events

/-- What the calls of a run for the default role have come to. -/
structure CallsAgree {Token : Type} (requests : Tid → Request Token) (config : ServiceConfig Token) : Prop where
  none_raised : ∀ tid, ¬ CallRaised (traceOf config.past tid)
  none_waits : ∀ tid call next, config.threads tid = .call call next → call.fetchesDefault = true →
    ∃ reply after, answers tid call config.now reply after
  returned : ∀ tid, requests tid = .getOrCreateDefaultRole →
    ∀ outcome, (config.threads tid).outcome? = some outcome →
      ∃ role, outcome = .ok (.role role) ∧ SawDefaultRole (traceOf config.past tid) role.id
  same_id : ∀ tid other roleId otherId, SawDefaultRole (traceOf config.past tid) roleId →
    SawDefaultRole (traceOf config.past other) otherId → roleId = otherId
  unique : ∀ tid roleId, SawDefaultRole (traceOf config.past tid) roleId →
    ∃! role, role ∈ config.now.db.roles ∧ role.title = DEFAULT_ROLE_TITLE

section Runs

variable {Token : Type} {app : App Token} {condition : Condition Tid Reply World} {world : World}
  {requests : Tid → Request Token} {config : ServiceConfig Token}

/-- All that the insertions decide is whether a call raises. -/
theorem callsAgree_iff_none_raised (plain : ∀ tid, (requests tid).editsRoles = false)
    (run : Reaches answers condition (started app world requests) config) :
    CallsAgree requests config ↔ ∀ tid, ¬ CallRaised (traceOf config.past tid) := by
  have course := service_course run
  have stored {tid : Tid} {roleId : UUID4} (saw : SawDefaultRole (traceOf config.past tid) roleId) :=
    sawDefaultRole_stored course.lawful plain saw
  rw [← course.now_eq] at stored
  constructor
  · exact CallsAgree.none_raised
  · intro quiet
    refine ⟨quiet, ?_, ?_, ?_, ?_⟩
    · intro tid call next pending fetches
      have along := (course_of_along (fun _ _ => Call.InsertsDefaultRole) (fun _ _ _ => True) run
        fun tid => (requests tid).shared_calls (admitsShared_insertsDefaultRole app)).along tid
      rw [pending] at along
      exact fetch_answered fetches along.1 tid config.now
    · intro tid requested outcome ended
      have results := course_of_along _ _ run fun tid => (requests tid).fetched app
      exact (results.finished ended requested).resolve_left (quiet tid)
    · intro tid other roleId otherId saw sawOther
      obtain ⟨role, member, rfl, titled⟩ := stored saw
      obtain ⟨copy, found, rfl, title⟩ := stored sawOther
      rw [config.now.db.role_eq_of_title member found (titled.trans title.symm)]
    · intro tid roleId saw
      obtain ⟨role, member, rfl, titled⟩ := stored saw
      refine ⟨role, ⟨member, titled⟩, ?_⟩
      rintro other ⟨found, title⟩
      exact config.now.db.role_eq_of_title found member (title.trans titled.symm)

theorem none_raised_iff (run : Reaches answers condition (started app world requests) config) :
    (∀ tid, ¬ CallRaised (traceOf config.past tid)) ↔ ∀ event ∈ config.past, InsertsFresh event := by
  have course := course_of_along (fun _ _ => Call.InsertsDefaultRole) (fun _ _ _ => True) run
    fun tid => (requests tid).shared_calls (admitsShared_insertsDefaultRole app)
  have raised {event : ServiceEvent} (member : event ∈ config.past) :
      (∃ writes error, event.exchange = ⟨.commit .defaultRole writes, .error error⟩) ↔ ¬ InsertsFresh event := by
    obtain ⟨newer, older, past_eq⟩ := List.append_of_mem member
    have lawful := course.lawful
    rw [past_eq] at lawful
    exact raised_iff lawful.event lawful.event.specified
  constructor
  · intro quiet event member
    by_contra taken
    obtain ⟨writes, error, same⟩ := (raised member).mpr taken
    exact quiet event.thread ⟨writes, error, mem_traceOf.mpr ⟨event, member, rfl, same⟩⟩
  · rintro fresh tid ⟨writes, error, seen⟩
    obtain ⟨event, member, _, same⟩ := mem_traceOf.mp seen
    exact (raised member).mp ⟨writes, error, same⟩ (fresh event member)

/-- In every run without edits of roles, no call raises, all return one id and one role has the title, exactly
when every insertion of the default role finds its title and its id unused. -/
theorem default_role_calls_agree_iff (plain : ∀ tid, (requests tid).editsRoles = false)
    (run : Reaches answers condition (started app world requests) config) :
    CallsAgree requests config ↔ ∀ event ∈ config.past, InsertsFresh event := by
  rw [callsAgree_iff_none_raised plain run]
  exact none_raised_iff run

/-- If the role exists at the start, no call inserts one, so all calls agree. -/
theorem callsAgree_of_present {default : UUID4} (initial : world.db.HasDefaultRole default)
    (plain : ∀ tid, (requests tid).editsRoles = false)
    (run : Reaches answers condition (started app world requests) config) : CallsAgree requests config := by
  rw [callsAgree_iff_none_raised plain run, none_raised_iff run]
  intro event member new inserts
  obtain ⟨newer, older, past_eq⟩ := List.append_of_mem member
  have service := (service_course run).lawful
  rw [past_eq] at service
  have admitted := service.event.specified
  rw [inserts] at admitted
  generalize shape : [Write.insertRole new] = writes at admitted
  cases admitted with
  | defaultRole id absent => exact absurd absent (defaultRole_found service.older initial)
  | createRole role requested =>
    have edits := plain event.thread
    rw [Request.editsRoles, requested] at edits
    cases edits
  | changeUser id user seen changed allowed =>
    unfold userUpdate at shape
    split at shape <;> cases shape
  | modifyRole id role data seen guarded requested =>
    unfold roleUpdate at shape
    split at shape <;> cases shape
  | _ => cases shape

end Runs

private def unseeded : World :=
  { bootstrappedWorld with
    db := { bootstrappedDb with
      roles := []
      consistent := by decide } }

private def startUps : Tid → Request Claims := fun _ => .getOrCreateDefaultRole

private def secondRaises (config : ServiceConfig Claims) : Bool :=
  (config.threads 0).outcome? = some (.ok (.role ⟨numbered 4, DEFAULT_ROLE_TITLE, DEFAULT_ROLE_ACCESS_LABELS⟩)) &&
    (config.threads 1).outcome? = some (.error (.dbError .integrity))

private theorem startUps_race : ∃ config,
    Reaches answers unrestricted (started transparentApp unseeded startUps) config ∧
      secondRaises config = true := by
  have played : ((started transparentApp unseeded startUps).playAll World.answer unrestricted
      [move 0, move 1, move 0 4, move 1 5, move 0, move 1]).any secondRaises = true := by decide
  exact Config.playAll_exists played

private theorem startUps_disagree {config : ServiceConfig Claims} (raises : secondRaises config = true) :
    ¬ CallsAgree startUps config := by
  intro agree
  simp only [secondRaises, Bool.and_eq_true, decide_eq_true_eq] at raises
  obtain ⟨role, same, _⟩ := agree.returned 1 rfl _ raises.2
  cases same

/-- Two calls that both find no role: the second one raises. -/
theorem default_role_calls_raise : ∃ config,
    Reaches answers unrestricted (started transparentApp unseeded startUps) config ∧
      (config.threads 1).outcome? = some (.error (.dbError .integrity)) ∧ ¬ CallsAgree startUps config := by
  obtain ⟨config, run, raises⟩ := startUps_race
  refine ⟨config, run, ?_, startUps_disagree raises⟩
  simp only [secondRaises, Bool.and_eq_true, decide_eq_true_eq] at raises
  exact raises.2

/-- In that run an insertion came too late. -/
theorem default_role_calls_agree_iff_startUps : ∃ config : ServiceConfig Claims,
    (config.threads 1).outcome? = some (.error (.dbError .integrity)) ∧
      ∃ event ∈ config.past, ¬ InsertsFresh event := by
  obtain ⟨config, run, raises⟩ := startUps_race
  have agree := default_role_calls_agree_iff (fun _ => rfl) run
  refine ⟨config, ?_, ?_⟩
  · simp only [secondRaises, Bool.and_eq_true, decide_eq_true_eq] at raises
    exact raises.2
  · by_contra fresh
    apply startUps_disagree raises
    apply agree.mpr
    intro event member
    by_contra taken
    exact fresh ⟨event, member, taken⟩

end AuthApi
