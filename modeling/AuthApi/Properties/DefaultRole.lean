import AuthApi.Run.DefaultRole

/-! # The default role is permanent

Whatever the role endpoints are asked to do, and in whatever order their calls fall, the role titled
`user` stays the only one of its title and keeps its id; new accounts and revoked users get that id.
-/

namespace AuthApi

open Interleaving Interleaving.Program Relational

section Programs

variable {Token : Type} {app : App Token} {trace : Trace Reply}

/-- The request read the user, and stored the default role's id unless the user is a superuser. -/
def Revoked (trace : Trace Reply) (userId : UUID4) : Prop :=
  ∃ user : UserObject, ⟨.getUser userId, some user⟩ ∈ trace ∧ (user.isSuperuser = true ∨
    ∃ roleId, SawDefaultRole trace roleId ∧
      ⟨.commit .request (userUpdate user.toUser { user.toUser with roleId := some roleId }),
        .ok ()⟩ ∈ trace)

theorem Revoked.mono {later : Trace Reply} {userId : UUID4} (revoked : Revoked trace userId)
    (grown : trace <:+ later) : Revoked later userId := by
  obtain ⟨user, seen, superuser | ⟨roleId, saw, stored⟩⟩ := revoked
  · exact ⟨user, grown.subset seen, .inl superuser⟩
  · exact ⟨user, grown.subset seen, .inr ⟨roleId, saw.mono grown, grown.subset stored⟩⟩

theorem revokeRole_along (userId : UUID4) :
    (RoleService.revokeRole userId).Along (fun _ _ => True)
      (fun later outcome => outcome = .ok () → Revoked later userId) trace := by
  refine ⟨trivial, fun found => ?_⟩
  cases found with
  | none => exact nofun
  | some user =>
    simp only [done_bind]
    split
    · next superuser =>
      refine ⟨trivial, fun reply => ?_⟩
      cases reply with
      | error error => exact nofun
      | ok _ => exact fun _ => ⟨user, by simp, .inl superuser⟩
    · refine Along.bind (getOrCreateDefaultRole_along (fun _ => trivial) (fun _ => trivial)
        fun _ _ _ => trivial) ?_ fun _ _ _ => nofun
      rintro role later ⟨grown, seen⟩
      refine ⟨trivial, fun reply => ?_⟩
      cases reply with
      | error error => exact nofun
      | ok _ =>
        intro _
        have read := grown.subset (List.mem_cons_self (a := ⟨.getUser userId, some user⟩) (l := trace))
        exact ⟨user, List.mem_cons_of_mem _ read, .inr ⟨role.id, seen.mono (List.suffix_cons _ _),
          List.mem_cons_self⟩⟩

private theorem roleOperation_revokes (operation : RoleOperation) :
    (withSession (operation.program app)).Along (fun _ _ => True)
      (fun later outcome => ∀ userId, operation = .revokeRole userId →
        ∀ value, outcome = .ok value → Revoked later userId) trace := by
  cases operation with
  | revokeRole userId =>
    refine along_withSession (fun _ => trivial) (Along.bind (revokeRole_along userId) ?_ ?_)
    · rintro _ later revoked _ ⟨⟩ _ _
      exact (revoked rfl).mono (List.suffix_cons _ _)
    · exact fun _ _ _ => nofun
  | _ => exact along_any.mono (fun _ _ _ => trivial) fun _ _ _ _ => nofun

theorem Request.revoked (app : App Token) (request : Request Token) :
    (request.program app).Along (fun _ _ => True)
      (fun later outcome => ∀ userId, request.roleOperation? = some (.revokeRole userId) →
        ∀ value, outcome = .ok value → Revoked later userId) [] := by
  cases request with
  | role operation =>
    refine (roleOperation_revokes operation).mono (fun _ _ _ => trivial) ?_
    exact fun _ _ revoked userId asked => revoked userId (Option.some.inj asked)
  | roleEndpoint token operation =>
    refine Along.bind along_any ?_ fun _ _ _ _ _ => nofun
    intro _ later _
    refine (roleOperation_revokes operation).mono (fun _ _ _ => trivial) ?_
    exact fun _ _ revoked userId asked => revoked userId (Option.some.inj asked)
  | _ => exact along_any.mono (fun _ _ _ => trivial) fun _ _ _ _ => nofun

end Programs

/-- A start-up command, the only request that creates a user without the default role. -/
def Request.createsSuperuser {Token : Type} : Request Token → Bool
  | .createSuperuser .. => true
  | _ => false

section Events

variable {Token : Type} {app : App Token} {condition : Condition Tid Reply World} {world : World}
  {requests : Tid → Request Token} {past : List ServiceEvent} {roleId : UUID4}

/-- A user who was not there before the event has been created with the default role. -/
theorem created_user_role (lawful : ServiceLawful app condition world requests past)
    (initial : world.db.HasDefaultRole roleId) {event : ServiceEvent} (member : event ∈ past)
    (plain : (requests event.thread).createsSuperuser = false) {user : User}
    (present : user ∈ event.after.db.users) (new : user.id ∉ event.before.db.users.map User.id) :
    user.roleId = some roleId := by
  obtain ⟨newer, older, rfl⟩ := List.append_of_mem member
  cases (rows_step lawful.event).users.created present new with
  | plain created seenId row _ holds seen =>
    rw [row, ← sawDefaultRole_id lawful.older initial seen]
    exact holds
  | superuser email password requested =>
    rw [requested] at plain
    cases plain

/-- The state after a read of a user still shows the row that was read. -/
theorem read_shows (lawful : ServiceLawful app condition world requests past) {tid : Tid}
    {userId : UUID4} {user : UserObject} (seen : ⟨.getUser userId, some user⟩ ∈ traceOf past tid) :
    ∃ event ∈ past, event.thread = tid ∧ event.after.db.user? userId = some user.toUser := by
  obtain ⟨newer, event, older, rfl, mover, same, follows, answered⟩ := seen_event lawful seen
  refine ⟨event, by simp, mover, ?_⟩
  have unchanged := db_of_committed_nil lawful.event (committed_of_exchange same)
  obtain ⟨row, found, rfl⟩ := Option.map_eq_some_iff.mp (answers_getUser answered).symm
  rw [unchanged, follows]
  exact found

/-- A finished `revoke_role` left the default role with the user, at the latest by its commit. -/
theorem revoked_user_role (lawful : ServiceLawful app condition world requests past)
    (initial : world.db.HasDefaultRole roleId) {tid : Tid} {userId : UUID4}
    (revoked : Revoked (traceOf past tid) userId) :
    ∃ event ∈ past, event.thread = tid ∧ ∃ user, event.after.db.user? userId = some user ∧
      (user.isSuperuser = false → user.roleId = some roleId) := by
  obtain ⟨loaded, seen, rest⟩ := revoked
  obtain ⟨event, member, mover, shown⟩ := read_shows lawful seen
  obtain superuser | ⟨seenId, saw, stored⟩ := rest
  · refine ⟨event, member, mover, loaded.toUser, shown, fun plain => ?_⟩
    rw [superuser] at plain
    cases plain
  obtain rfl := sawDefaultRole_id lawful initial saw
  by_cases held : loaded.roleId = some seenId
  · exact ⟨event, member, mover, loaded.toUser, shown, fun _ => held⟩
  · obtain ⟨newer, written, older, rfl, author, same, _, _⟩ := seen_event lawful stored
    have update := event_db lawful.event
    rw [committed_of_exchange same] at update
    have patch : (UserPatch.diff loaded.toUser
        { loaded.toUser with roleId := some seenId }).roleId = some (some seenId) := by
      simp [UserPatch.diff, changed, held]
    obtain ⟨change, described, tables⟩ := Database.writeAll_userUpdate update
    have there := Database.mem_of_writeAll_userUpdate update (by intro none; simp [none] at patch)
    obtain ⟨row, found⟩ := Option.isSome_iff_exists.mp (lookup_isSome.mpr there)
    have owner : loaded.id = userId := Database.user?_id shown
    refine ⟨written, by simp, author, change row, ?_, fun _ => ?_⟩
    · rw [Database.user?, tables, ← owner, lookup_amend_self described.id, found]
      rfl
    · rw [described.roleId, patch]
      rfl

/-- `revoke_role` gives a user no other role than the default one. -/
theorem revokeRole_gives (lawful : ServiceLawful app condition world requests past)
    (initial : world.db.HasDefaultRole roleId) {event : ServiceEvent} (member : event ∈ past)
    {userId : UUID4}
    (asked : (requests event.thread).roleOperation? = some (.revokeRole userId)) {id : UUID4}
    {user later : User} (before : event.before.db.user? id = some user)
    (after : event.after.db.user? id = some later) (plain : later.isSuperuser = false) :
    later.roleId = user.roleId ∨ later.roleId = some roleId := by
  obtain ⟨newer, older, rfl⟩ := List.append_of_mem member
  have here := lawful.event
  have unchanged (same : event.after.db.users = event.before.db.users) :
      later.roleId = user.roleId := by
    rw [Database.user?, same] at after
    rw [Option.some.inj (after.symm.trans before)]
  have written := event_db here
  obtain none | commits := event_commits here
  · exact .inl (unchanged (by rw [db_of_committed_nil here none]))
  generalize committed event = writes at written commits
  cases commits with
  | defaultRole id absent => exact .inl (unchanged (by rw [Database.writeAll_insertRole written]))
  | loginHistory entry =>
    exact .inl (unchanged (by rw [Database.writeAll_insertLoginHistory written]))
  | changeUser readId loaded seen changed allowed =>
    obtain ⟨change, described, tables⟩ := Database.writeAll_userUpdate written
    rw [Database.user?, tables] at after
    by_cases owner : id = loaded.id
    · subst owner
      rw [lookup_amend_self described.id] at after
      obtain ⟨row, found, rfl⟩ := Option.map_eq_some_iff.mp after
      obtain rfl : row = user := Option.some.inj (found.symm.trans before)
      rw [here.follows] at found
      cases allowed with
      | strip _ _ superuser =>
        have flag := sawUser_row_flag lawful.older ⟨_, seen, rfl⟩ found
        simp only [described.isSuperuser, UserPatch.diff, changed_self, Option.getD_none] at plain
        rw [flag, superuser] at plain
        cases plain
      | revoke _ seenId _ saw =>
        obtain rfl := sawDefaultRole_id lawful.older initial saw
        rw [described.roleId]
        simp only [UserPatch.diff, changed]
        split
        · exact .inl rfl
        · exact .inr rfl
      | assign _ _ _ requested => rw [requested] at asked; cases asked
      | email _ _ requested => rw [requested] at asked; cases asked
      | password _ _ _ requested => rw [requested] at asked; cases asked
      | logoutOthers _ requested => rw [requested] at asked; cases asked
    · rw [lookup_amend_of_ne described.id owner] at after
      rw [Option.some.inj (after.symm.trans before)]
      exact .inl rfl
  | createUser _ _ _ _ _ _ requested => rw [requested] at asked; cases asked
  | createSuperuser _ _ _ _ requested => rw [requested] at asked; cases asked
  | createRole role requested => rw [requested] at asked; cases asked
  | removeRole _ _ _ _ requested => rw [requested] at asked; cases asked
  | modifyRole _ _ _ _ _ requested => rw [requested] at asked; cases asked
  | link _ _ _ callback => rw [Request.roleOperation?_of_callback callback] at asked; cases asked
  | newLink _ _ _ _ callback => rw [Request.roleOperation?_of_callback callback] at asked; cases asked

end Events

/-- What a run keeps to about the default role with this id. -/
structure DefaultRoleKept {Token : Type} (requests : Tid → Request Token) (config : ServiceConfig Token)
    (roleId : UUID4) : Prop where
  unique : ∃! role, role ∈ config.now.db.roles ∧ role.title = DEFAULT_ROLE_TITLE
  same : ∀ role ∈ config.now.db.roles, role.title = DEFAULT_ROLE_TITLE → role.id = roleId
  created : ∀ event ∈ config.past, (requests event.thread).createsSuperuser = false →
    ∀ user ∈ event.after.db.users, user.id ∉ event.before.db.users.map User.id →
      user.roleId = some roleId
  given : ∀ event ∈ config.past, ∀ userId,
    (requests event.thread).roleOperation? = some (.revokeRole userId) →
      ∀ id user later, event.before.db.user? id = some user → event.after.db.user? id = some later →
        later.isSuperuser = false → later.roleId = user.roleId ∨ later.roleId = some roleId
  revoked : ∀ tid userId, (requests tid).roleOperation? = some (.revokeRole userId) →
    config.threads tid = .done .unit → ∃ event ∈ config.past, event.thread = tid ∧
      ∃ user, event.after.db.user? userId = some user ∧
        (user.isSuperuser = false → user.roleId = some roleId)

/-- From any state with a default role, every run of any requests keeps that role as the only one of
its title, creates every ordinary user with it and gives it to every ordinary user whose role is
revoked. -/
theorem default_role_permanent {Token : Type} {app : App Token} {condition : Condition Tid Reply World}
    {world : World} {requests : Tid → Request Token} {config : ServiceConfig Token} {default : Role}
    (present : default ∈ world.db.roles) (titled : default.title = DEFAULT_ROLE_TITLE)
    (run : Reaches answers condition (started app world requests) config) :
    DefaultRoleKept requests config default.id := by
  have course := service_course run
  have initial := Database.HasDefaultRole.of_mem present titled
  have now := lawful_hasDefaultRole course.lawful initial
  rw [← course.now_eq] at now
  constructor
  · obtain ⟨role, found, title⟩ := now
    refine ⟨role, ⟨lookup_mem found, title⟩, fun other ⟨member, same⟩ => ?_⟩
    exact config.now.db.role_eq_of_title member (lookup_mem found) (same.trans title.symm)
  · exact fun role member title => now.id_of_title member title
  · exact fun event member plain user => created_user_role course.lawful initial member plain
  · exact fun event member userId asked id user later =>
      revokeRole_gives course.lawful initial member asked
  · intro tid userId asked finished
    refine revoked_user_role course.lawful initial ?_
    exact (course_of_along _ _ run fun tid => (requests tid).revoked app).done finished userId asked
      _ rfl

private def renamings : Tid → Request Claims := pool
  [.createUser ⟨"a@example.com", "pw"⟩, .role (.createRole ⟨"editor", [.free]⟩),
    .role (.assignRole (numbered 3) (numbered 4)), .role (.modifyRole (numbered 4) ⟨"user", []⟩),
    .role (.revokeRole (numbered 3)), .role (.removeRole (numbered 1))]

/-- A role cannot be renamed to the protected title, nor the protected role be removed; a user with
another role falls back to the default one. -/
theorem default_role_permanent_renamings : ∃ config : ServiceConfig Claims,
    DefaultRoleKept renamings config (numbered 1) ∧
      (config.threads 3).outcome? = some (.error .roleAlreadyExistsError) ∧
      (config.threads 4).outcome? = some (.ok .unit) ∧
      (config.threads 5).outcome? = some (.error .protectedRoleError) := by
  have played : ((started transparentApp bootstrappedWorld renamings).playAll World.answer unrestricted
      [move 0, move 0, move 0, move 0 3, move 0, move 0, move 0,
        move 1 4, move 1, move 1, move 2, move 2, move 3, move 2, move 2, move 3, move 3, move 3,
        move 4, move 4, move 5, move 4, move 4, move 5]).any
      (fun config => decide ((config.threads 3).outcome? = some (.error .roleAlreadyExistsError) ∧
        (config.threads 4).outcome? = some (.ok .unit) ∧
        (config.threads 5).outcome? = some (.error .protectedRoleError))) = true := by decide
  obtain ⟨config, run, checked⟩ := Config.playAll_exists played
  have present : defaultRoleRow ∈ bootstrappedWorld.db.roles := by decide
  exact ⟨config, default_role_permanent present rfl run, of_decide_eq_true checked⟩

end AuthApi
