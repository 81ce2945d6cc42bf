import AuthApi.Run.Rows

/-! # Concurrent edits of a role

`modify_role` sets both columns of the row it has read, and the unit of work writes the columns that
differ from what was read. A column it leaves out may have been changed by another request meanwhile,
so the row can end with the title of one payload and the labels of another.
-/

namespace AuthApi

open Interleaving Interleaving.Program Relational

/-- The row has the columns of the payload. -/
def Role.Holds (role : Role) (data : RoleCreateIn) : Prop :=
  role.title = data.title ∧ role.accessLabels = data.accessLabels

/-- The payload a request has for a role. -/
def Request.edit? {Token : Type} (roleId : UUID4) (request : Request Token) : Option RoleCreateIn :=
  match request.roleOperation? with
  | some (.modifyRole id data) => if id = roleId then some data else none
  | _ => none

theorem Request.edit?_eq_some {Token : Type} {roleId : UUID4} {request : Request Token} {data : RoleCreateIn} :
    request.edit? roleId = some data ↔ request.roleOperation? = some (.modifyRole roleId data) := by
  unfold edit?
  constructor
  · intro edits
    split at edits
    · next id payload requested =>
      split at edits
      · next same =>
        cases edits
        rw [requested, same]
      · cases edits
    · cases edits
  · intro requested
    rw [requested]
    exact if_pos rfl

/-- A commit that the database accepted. -/
def committing : Exchange Reply → Bool
  | ⟨.commit _ _, .ok _⟩ => true
  | _ => false

/-- The request has committed. -/
def Accepted (trace : Trace Reply) : Prop := ∃ exchange ∈ trace, committing exchange = true

theorem accepted_cons {exchange : Exchange Reply} {trace : Trace Reply} :
    Accepted (exchange :: trace) ↔ committing exchange = true ∨ Accepted trace := by
  simp [Accepted]

/-- The role row that a request read. -/
def readRole? : Exchange Reply → Option Role
  | ⟨.getRole _, found⟩ => found
  | _ => none

/-- The row a statement adds to `roles`. -/
def Write.newRole? : Write → Option NewRole
  | .insertRole role => some role
  | _ => none

/-- An edit commits the difference between its payload and the row it has just read. -/
def CommitsEdit (roleId : UUID4) (data : RoleCreateIn) (trace : Trace Reply) (call : Call) : Prop :=
  ∀ session writes, call = .commit session writes → ∃ read rest,
    trace = ⟨.getRole roleId, some read⟩ :: rest ∧
    writes = roleUpdate read { read with title := data.title, accessLabels := data.accessLabels }

/-- An edit succeeds exactly when its commit was accepted. -/
def EditEnds {α : Type} (value : α) (trace : Trace Reply) (outcome : Except Exn α) : Prop :=
  (Accepted trace → outcome = .ok value) ∧ ∀ result, outcome = .ok result → Accepted trace

section Programs

variable {Token : Type} {app : App Token} {roleId : UUID4} {data : RoleCreateIn} {trace : Trace Reply}

theorem EditEnds.failed {α : Type} {value : α} {error : Exn} (unaccepted : ¬ Accepted trace) :
    EditEnds value trace (.error error) :=
  ⟨fun accepted => absurd accepted unaccepted, fun _ same => by cases same⟩

theorem modifyRole_edits (unaccepted : ¬ Accepted trace) :
    (RoleService.modifyRole app roleId data).Along (CommitsEdit roleId data) (EditEnds ()) trace := by
  have quiet {exchange : Exchange Reply} {trace : Trace Reply} (silent : committing exchange = false)
      (unaccepted : ¬ Accepted trace) : ¬ Accepted (exchange :: trace) := by
    rw [accepted_cons, silent]
    simpa using unaccepted
  refine ⟨fun _ _ same => by (cases same), fun found => ?_⟩
  have unaccepted : ¬ Accepted (⟨.getRole roleId, found⟩ :: trace) := quiet rfl unaccepted
  cases found with
  | none => exact .failed unaccepted
  | some read =>
    simp only [done_bind]
    split
    · exact .failed unaccepted
    · refine along_accept (fun _ => ⟨?_, fun reply => ?_⟩) fun _ => .failed unaccepted
      · rintro _ _ ⟨⟩
        exact ⟨read, trace, rfl, rfl⟩
      cases reply with
      | ok _ => exact ⟨fun _ => rfl, fun _ _ => accepted_cons.mpr (.inl rfl)⟩
      | error error =>
        cases error with
        | integrity =>
          exact ⟨fun _ _ same => by (cases same), fun _ => .failed (quiet rfl (quiet rfl unaccepted))⟩
        | staleData | data => exact .failed (quiet rfl unaccepted)

theorem Request.edits_role (request : Request Token) (edits : request.edit? roleId = some data) :
    (request.program app).Along (CommitsEdit roleId data) (EditEnds .unit) [] := by
  have requested := edit?_eq_some.mp edits
  have operation {trace : Trace Reply} (unaccepted : ¬ Accepted trace) :
      (withSession (RoleOperation.program app (.modifyRole roleId data))).Along
        (CommitsEdit roleId data) (EditEnds .unit) trace := by
    apply along_withSession fun _ _ _ same => by cases same
    apply Along.bind (modifyRole_edits unaccepted)
    · rintro _ later ⟨_, accepted⟩
      exact ⟨fun _ => rfl, fun _ _ => accepted_cons.mpr (.inr (accepted _ rfl))⟩
    · rintro error later ⟨ends, _⟩
      apply EditEnds.failed
      intro accepted
      rcases accepted_cons.mp accepted with closed | accepted
      · cases closed
      · cases ends accepted
  cases request with
  | role given =>
    cases requested
    exact operation (by simp [Accepted])
  | roleEndpoint token given =>
    cases requested
    have silent (trace : Trace Reply) : CommitsEdit roleId data trace .now := by
      intro session writes same
      cases same
    have unaccepted (time : Time) : ¬ Accepted [⟨.now, time⟩] := by simp [Accepted, committing]
    apply Along.bind (ensureSuperuser_along silent token)
    · rintro _ _ ⟨time, rfl, _⟩
      exact operation (unaccepted time)
    · rintro error _ ⟨time, rfl, _⟩
      exact .failed (unaccepted time)
  | _ => cases requested

/-- What a request does if it is an edit of the role. -/
theorem Request.edits_along (request : Request Token) :
    (request.program app).Along
      (fun trace call => ∀ data, request.edit? roleId = some data → CommitsEdit roleId data trace call)
      (fun trace outcome => ∀ data, request.edit? roleId = some data → EditEnds .unit trace outcome) [] := by
  apply along_forall
  intro data
  apply along_forall
  intro edits
  exact request.edits_role edits

end Programs

section Steps

variable {Token : Type} {app : App Token} {condition : Condition Tid Reply World} {world : World}
  {requests : Tid → Request Token} {older past : List ServiceEvent} {event : ServiceEvent}
  {roleId : UUID4} {data : RoleCreateIn} {role : Role}

/-- An event that is no accepted commit leaves the tables. -/
theorem committed_of_not_committing (silent : committing event.exchange = false) : committed event = [] := by
  obtain ⟨thread, request, reply, before, after⟩ := event
  cases request with
  | commit session writes =>
    cases reply with
    | ok _ => cases silent
    | error error => rfl
  | _ => rfl

/-- A role that was read was in the table at that moment. -/
theorem read_stored {specs : Tid → Trace Reply → Call → Prop}
    (lawful : Lawful answers condition specs world past) {tid : Tid} {read : Role}
    (seen : ⟨.getRole roleId, some read⟩ ∈ traceOf past tid) :
    ∃ earlier, earlier <:+ past ∧ (stateAfter world earlier).db.role? roleId = some read := by
  obtain ⟨earlier, after, suffix, answered⟩ := seen_answer lawful seen
  exact ⟨earlier, suffix, (answers_getRole answered).symm⟩

theorem read_id {specs : Tid → Trace Reply → Call → Prop}
    (lawful : Lawful answers condition specs world past) {tid : Tid} {read : Role}
    (seen : ⟨.getRole roleId, some read⟩ ∈ traceOf past tid) : read.id = roleId := by
  obtain ⟨_, _, stored⟩ := read_stored lawful seen
  exact lookup_key stored

/-- A step of another kind leaves the row, unless it inserts it. -/
theorem role_row_step
    (lawful : Lawful answers condition (fun tid => Allowed app (requests tid)) world (event :: older))
    (other : (requests event.thread).edit? roleId = none ∨ committing event.exchange = false)
    (stored : event.after.db.role? roleId = some role) :
    event.before.db.role? roleId = some role ∨
      ∃ new ∈ (committed event).filterMap Write.newRole?, new.id = roleId := by
  have written := event_db lawful.1
  obtain none | commits := event_commits lawful.1
  · rw [db_of_committed_nil lawful.1 none] at stored
    exact .inl stored
  by_cases accepted : committing event.exchange = true
  · generalize committed event = writes at written commits ⊢
    have inserted {new : NewRole} (member : .insertRole new ∈ writes)
        (appended : event.after.db.roles = event.before.db.roles ++ [new.row (eventDefaults event)]) :
        event.before.db.role? roleId = some role ∨
          ∃ new ∈ writes.filterMap Write.newRole?, new.id = roleId := by
      by_cases same : new.id = roleId
      · exact .inr ⟨new, List.mem_filterMap.mpr ⟨_, member, rfl⟩, same⟩
      · have distinct : (new.row (eventDefaults event)).id ≠ roleId := same
        rw [Database.role?, appended, lookup_append_of_ne distinct] at stored
        exact .inl stored
    cases commits with
    | defaultRole id absent =>
      exact inserted List.mem_cons_self (congrArg Tables.roles (Database.writeAll_insertRole written))
    | createRole new requested =>
      exact inserted List.mem_cons_self (congrArg Tables.roles (Database.writeAll_insertRole written))
    | removeRole id read seen free requested =>
      have removed := congrArg Tables.roles (Database.writeAll_deleteRole written)
      have present := lookup_mem stored
      rw [removed] at present
      have distinct : roleId ≠ read.id := by
        rw [← lookup_key stored]
        exact (mem_discard.mp present).2
      rw [Database.role?, removed, lookup_discard_of_ne distinct] at stored
      exact .inl stored
    | modifyRole id read data seen guarded requested =>
      obtain ⟨change, described, tables⟩ := Database.writeAll_roleUpdate written
      have distinct : roleId ≠ read.id := by
        rintro rfl
        obtain edits | silent := other
        · rw [read_id lawful.2 seen, Request.edit?_eq_some.mpr requested] at edits
          cases edits
        · rw [accepted] at silent
          cases silent
      rw [Database.role?, tables, lookup_amend_of_ne described.id distinct] at stored
      exact .inl stored
    | loginHistory entry =>
      rw [Database.role?, Database.writeAll_insertLoginHistory written] at stored
      exact .inl stored
    | createUser user roleId plain holds seen data requested =>
      rw [Database.role?, Database.writeAll_insertUser written] at stored
      exact .inl stored
    | createSuperuser user flag email password requested =>
      rw [Database.role?, Database.writeAll_insertUser written] at stored
      exact .inl stored
    | changeUser id user seen changed allowed =>
      obtain ⟨change, described, tables⟩ := Database.writeAll_userUpdate written
      rw [Database.role?, tables] at stored
      exact .inl stored
    | link profile user id callback fetched found =>
      rw [Database.role?, Database.writeAll_insertOAuthAccount written] at stored
      exact .inl stored
    | newLink profile user roleId id callback fetched plain email holds seen =>
      rw [Database.role?, Database.writeAll_newLink written] at stored
      exact .inl stored
  · rw [db_of_committed_nil lawful.1 (committed_of_not_committing (by simpa using accepted))] at stored
    exact .inl stored

/-- A column that an edit leaves out if it equals what was read. -/
theorem changed_getD_eq_iff {α : Type} [DecidableEq α] {read payload former : α} :
    (changed read payload).getD former = payload ↔ (payload = read → former = read) := by
  unfold changed
  split
  · next same => simp [same]
  · next differs => simp [Ne.symm differs]

/-- An accepted edit has just read the row, and committed the difference. -/
theorem committed_edit (edits : CommitsEdit roleId data (traceOf older event.thread) event.request)
    (accepted : committing event.exchange = true) : ∃ read rest,
      traceOf older event.thread = ⟨.getRole roleId, some read⟩ :: rest ∧ committed event =
        roleUpdate read { read with title := data.title, accessLabels := data.accessLabels } := by
  obtain ⟨thread, request, reply, before, after⟩ := event
  cases request with
  | commit session writes =>
    obtain ⟨read, rest, trace, shape⟩ := edits session writes rfl
    cases reply with
    | ok _ => exact ⟨read, rest, trace, shape⟩
    | error error => cases accepted
  | _ => cases accepted

/-- An accepted edit stores its payload exactly when the columns it leaves out still have the values that
it read. -/
theorem edit_stores_iff {specs : Tid → Trace Reply → Call → Prop}
    (lawful : Lawful answers condition specs world (event :: older))
    (edits : CommitsEdit roleId data (traceOf older event.thread) event.request)
    (accepted : committing event.exchange = true) (stored : event.after.db.role? roleId = some role) :
    ∃ read former, ⟨.getRole roleId, some read⟩ ∈ traceOf older event.thread ∧
      event.before.db.role? roleId = some former ∧
      (role.Holds data ↔ (data.title = read.title → former.title = read.title) ∧
        (data.accessLabels = read.accessLabels → former.accessLabels = read.accessLabels)) := by
  have written := event_db lawful.1
  obtain ⟨read, rest, trace, shape⟩ := committed_edit edits accepted
  have seen : ⟨.getRole roleId, some read⟩ ∈ traceOf older event.thread := trace ▸ List.mem_cons_self
  rw [shape] at written
  obtain ⟨change, described, tables⟩ := Database.writeAll_roleUpdate written
  rw [Database.role?, tables, read_id lawful.2 seen, lookup_amend_self described.id] at stored
  obtain ⟨former, present, rfl⟩ := Option.map_eq_some_iff.mp stored
  refine ⟨read, former, seen, present, ?_⟩
  rw [Role.Holds, described.title, described.accessLabels]
  exact and_congr changed_getD_eq_iff changed_getD_eq_iff

end Steps

section Runs

variable {Token : Type} {app : App Token} {world : World} {requests : Tid → Request Token}
  {past : List ServiceEvent} {config : ServiceConfig Token} {roleId : UUID4} {role : Role}

/-- A new role gets an id that no role has had. -/
def newRoleIds (world : World) : Condition Tid Reply World := fun past event =>
  ∀ new ∈ (committed event).filterMap Write.newRole?, ∀ earlier ∈ past.tails,
    (stateAfter world earlier).db.role? new.id = none

/-- Whenever an edit of the role is accepted, the columns in which its payload equals what it read are
still as it read them. -/
def omittedKept (requests : Tid → Request Token) (roleId : UUID4) : Condition Tid Reply World :=
  fun past event => ∀ data ∈ (requests event.thread).edit? roleId, committing event.exchange = true →
    ∀ exchange ∈ traceOf past event.thread, ∀ read ∈ readRole? exchange,
      ∀ former ∈ event.before.db.role? roleId,
        (data.title = read.title → former.title = read.title) ∧
          (data.accessLabels = read.accessLabels → former.accessLabels = read.accessLabels)

instance (past : List ServiceEvent) (event : ServiceEvent) : Decidable (newRoleIds world past event) :=
  inferInstanceAs (Decidable (∀ new ∈ _, ∀ earlier ∈ _, _ = _))

instance (past : List ServiceEvent) (event : ServiceEvent) : Decidable (omittedKept requests roleId past event) :=
  inferInstanceAs (Decidable (∀ data ∈ _, _ → ∀ exchange ∈ _, ∀ read ∈ _, ∀ former ∈ _, _ ∧ _))

/-- The row is the payload of an edit that the database accepted. -/
def PayloadOfOne (requests : Tid → Request Token) (past : List ServiceEvent) (roleId : UUID4) (role : Role) :
    Prop :=
  ∃ tid data, (requests tid).edit? roleId = some data ∧ Accepted (traceOf past tid) ∧ role.Holds data

/-- What every edit of the role does. -/
abbrev EditsOf (requests : Tid → Request Token) (roleId : UUID4) (tid : Tid) (trace : Trace Reply)
    (call : Call) : Prop :=
  ∀ data, (requests tid).edit? roleId = some data → CommitsEdit roleId data trace call

/-- An edit that was accepted had found the row. -/
theorem read_of_accepted {condition : Condition Tid Reply World}
    (lawful : Lawful answers condition (EditsOf requests roleId) world past) {tid : Tid} {data : RoleCreateIn}
    (edits : (requests tid).edit? roleId = some data) (accepted : Accepted (traceOf past tid)) :
    ∃ earlier read, earlier <:+ past ∧ (stateAfter world earlier).db.role? roleId = some read := by
  obtain ⟨exchange, member, accepted⟩ := accepted
  obtain ⟨newer, event, older, rfl, rfl, rfl, _, _⟩ := seen_event lawful member
  obtain ⟨read, rest, trace, _⟩ := committed_edit (lawful.event.specified data edits) accepted
  have suffix : older <:+ newer ++ event :: older :=
    (List.suffix_cons _ _).trans (List.suffix_append _ _)
  obtain ⟨earlier, within, stored⟩ := read_stored (lawful.suffix suffix) (trace ▸ List.mem_cons_self)
  exact ⟨earlier, read, within.trans suffix, stored⟩

theorem payload_kept {condition : Condition Tid Reply World}
    (admits : ∀ past event, condition past event →
      newRoleIds world past event ∧ omittedKept requests roleId past event)
    (service : ServiceLawful app condition world requests past)
    (lawful : Lawful answers condition (EditsOf requests roleId) world past)
    {tid : Tid} {data : RoleCreateIn} (edits : (requests tid).edit? roleId = some data)
    (accepted : Accepted (traceOf past tid)) (stored : (stateAfter world past).db.role? roleId = some role) :
    PayloadOfOne requests past roleId role := by
  induction past generalizing role with
  | nil =>
    obtain ⟨exchange, member, _⟩ := accepted
    cases member
  | cons event older ih =>
    obtain ⟨newIds, omitted⟩ := admits older event lawful.1.admitted
    by_cases here : ∃ payload, (requests event.thread).edit? roleId = some payload ∧
        committing event.exchange = true
    · obtain ⟨payload, edits, accepted⟩ := here
      obtain ⟨read, former, seen, present, whole⟩ :=
        edit_stores_iff lawful (lawful.1.specified payload edits) accepted stored
      refine ⟨event.thread, payload, edits, ?_, whole.mpr ?_⟩
      · rw [traceOf_cons_self]
        exact accepted_cons.mpr (.inl accepted)
      · exact omitted payload edits accepted _ seen read rfl former present
    · have earlier : Accepted (traceOf older tid) := by
        by_cases mover : event.thread = tid
        · subst mover
          rw [traceOf_cons_self] at accepted
          exact (accepted_cons.mp accepted).resolve_left fun accepted => here ⟨data, edits, accepted⟩
        · rwa [traceOf_cons_of_ne mover] at accepted
      have other : (requests event.thread).edit? roleId = none ∨ committing event.exchange = false := by
        by_contra both
        simp only [not_or, Bool.not_eq_false] at both
        obtain ⟨payload, edits⟩ := Option.ne_none_iff_exists'.mp both.1
        exact here ⟨payload, edits, both.2⟩
      rcases role_row_step service other stored with kept | ⟨new, inserted, same⟩
      · rw [lawful.1.follows] at kept
        obtain ⟨last, payload, edits, accepted, holds⟩ := ih service.2 lawful.2 earlier kept
        obtain ⟨exchange, member, accepted⟩ := accepted
        exact ⟨last, payload, edits, ⟨exchange, (traceOf_suffix (List.suffix_cons _ _) last).subset member,
          accepted⟩, holds⟩
      · obtain ⟨moment, read, within, present⟩ := read_of_accepted lawful.2 edits earlier
        have absent := newIds new inserted moment ((List.mem_tails _ _).mpr within)
        rw [same, present] at absent
        cases absent

/-- In every run in which each accepted edit of a role finds the columns it leaves out as it read them,
the row is the complete payload of an accepted edit as soon as one has succeeded; and an accepted edit
cannot end otherwise than well. -/
theorem edits_serialisable
    (run : Reaches answers (fun past event => newRoleIds world past event ∧
      omittedKept requests roleId past event) (started app world requests) config)
    {tid : Tid} {data : RoleCreateIn} (edits : (requests tid).edit? roleId = some data)
    {result : Outcome Token} (succeeded : config.threads tid = .done result)
    (stored : config.now.db.role? roleId = some role) :
    ∃ last payload, (requests last).edit? roleId = some payload ∧ role.Holds payload ∧
      Accepted (traceOf config.past last) ∧
      ∀ outcome, (config.threads last).outcome? = some outcome → outcome = .ok .unit := by
  have service := (service_course run).lawful
  have course := course_of_along (EditsOf requests roleId)
    (fun other trace outcome => ∀ data, (requests other).edit? roleId = some data →
      EditEnds .unit trace outcome) run fun other => (requests other).edits_along
  have accepted := (course.done succeeded data edits).2 result rfl
  rw [course.now_eq] at stored
  obtain ⟨last, payload, named, accepted, holds⟩ :=
    payload_kept (fun _ _ admitted => admitted) service course.lawful edits accepted stored
  refine ⟨last, payload, named, holds, accepted, fun outcome ended => ?_⟩
  exact (course.finished ended payload named).1 accepted

end Runs

private def basic : Role := ⟨numbered 31, "basic", [.free], 0, 0⟩

private def basicWorld : World :=
  { bootstrappedWorld with
    db := { bootstrappedDb with
      roles := [defaultRoleRow, basic]
      consistent := by decide } }

/-- One request upgrades the labels, the other renames the role. -/
private def upgradeAndRename : Tid → Request Claims :=
  pool [.roleEndpoint (adminAccess 1) (.modifyRole (numbered 31) ⟨"basic", [.premium]⟩),
    .roleEndpoint (adminAccess 1) (.modifyRole (numbered 31) ⟨"starter", [.free]⟩)]

/-- Both requests succeed, and the role ends with the new title and the new labels, which neither of them
asked for. -/
theorem edits_mixed : ∃ config role,
    Reaches answers (newRoleIds basicWorld) (started transparentApp basicWorld upgradeAndRename) config ∧
    config.threads 0 = .done .unit ∧ config.threads 1 = .done .unit ∧
    config.now.db.role? (numbered 31) = some role ∧
    ∀ tid data, (upgradeAndRename tid).edit? (numbered 31) = some data → ¬ role.Holds data := by
  have played : ((started transparentApp basicWorld upgradeAndRename).playAll World.answer
      (newRoleIds basicWorld) [move 0, move 0, move 1, move 1, move 0, move 0, move 1, move 1]).any
        (fun config => decide ((config.threads 0).value? = some .unit ∧
          (config.threads 1).value? = some .unit ∧
          config.now.db.role? (numbered 31) =
            some { basic with title := "starter", accessLabels := [.premium] })) = true := by decide
  obtain ⟨config, run, checked⟩ := Config.playAll_exists played
  obtain ⟨upgraded, renamed, stored⟩ := of_decide_eq_true checked
  refine ⟨config, _, run, value?_eq_some.mp upgraded, value?_eq_some.mp renamed, stored, ?_⟩
  rintro tid data edits ⟨title, accessLabels⟩
  match tid with
  | 0 =>
    cases edits
    revert title
    decide
  | 1 =>
    cases edits
    revert accessLabels
    decide
  | tid + 2 => cases edits

/-- One after the other they do not mix. -/
theorem edits_serialisable_sequential : ∃ (config : ServiceConfig Claims) (role : Role),
    config.now.db.role? (numbered 31) = some role ∧ role.title = "starter" ∧
    ∃ last payload, (upgradeAndRename last).edit? (numbered 31) = some payload ∧ role.Holds payload ∧
      Accepted (traceOf config.past last) ∧
      ∀ outcome, (config.threads last).outcome? = some outcome → outcome = .ok .unit := by
  have played : ((started transparentApp basicWorld upgradeAndRename).playAll World.answer
      (fun past event => newRoleIds basicWorld past event ∧
        omittedKept upgradeAndRename (numbered 31) past event)
      [move 0, move 0, move 0, move 0, move 1, move 1, move 1, move 1]).any (fun config =>
        decide ((config.threads 0).value? = some .unit ∧ config.now.db.role? (numbered 31) =
          some { basic with title := "starter", accessLabels := [.free] })) = true := by decide
  obtain ⟨config, run, checked⟩ := Config.playAll_exists played
  obtain ⟨upgraded, stored⟩ := of_decide_eq_true checked
  exact ⟨config, _, stored, rfl, edits_serialisable run rfl (value?_eq_some.mp upgraded) stored⟩

end AuthApi
