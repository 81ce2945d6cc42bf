import AuthApi.Run.DefaultRole
import AuthApi.Run.Issuance

/-! # Who may change roles

`ensure_superuser` believes a flag that the token has carried since it was issued. No request changes
the flag of a row, so what a token says of its subject is still what the row says, and the role
endpoints obey superusers only.
-/

namespace AuthApi

open Interleaving Interleaving.Program Relational

section Gate

variable {Token : Type} {app : App Token}

/-- The requests of the HTTP API; start-up commands and bare service calls are not among them. -/
def Request.isHttp : Request Token → Bool
  | .createSuperuser .. => false
  | .getOrCreateDefaultRole => false
  | .role _ => false
  | _ => true

/-- The token a request presents. -/
def Request.token? : Request Token → Option Token
  | .refreshTokens refreshToken => some refreshToken
  | .logout refreshToken => some refreshToken
  | .userEndpoint accessToken _ => some accessToken
  | .roleEndpoint accessToken _ => some accessToken
  | _ => none

/-- Some request made the token of what it had seen by then. -/
def Signed (app : App Token) (past : List ServiceEvent) (token : Token) : Prop :=
  ∃ tid pair, IssuedPair app (traceOf past tid) pair ∧ token ∈ [pair.access, pair.refresh]

/-- Only the service can sign: a presented token with a valid signature was made before. -/
def onlyServiceSigns (app : App Token) (requests : Tid → Request Token) :
    Condition Tid Reply World := fun past event =>
  ∀ token, (requests event.thread).token? = some token → (app.jwt.verify token).isSome = true →
    Signed app past token

/-- The gate has accepted an access token with the superuser flag. -/
def App.opensGate (app : App Token) (token : Token) (payload : AccessTokenPayload) : Prop :=
  app.accessPayload token = some payload ∧ payload.isSuperuser = true

/-- Behind the gate of the role endpoints every call was let through by the token. -/
def Request.Obeys (app : App Token) (request : Request Token) (call : Call) : Prop :=
  ∀ token operation, request = .roleEndpoint token operation →
    call = .now ∨ ∃ payload, app.opensGate token payload

theorem Request.obeys (app : App Token) (request : Request Token) :
    (request.program app).Along (fun _ call => request.Obeys app call) (fun _ _ => True) [] := by
  cases request with
  | roleEndpoint token operation =>
    have now (trace : Trace Reply) : (Request.roleEndpoint token operation).Obeys app .now := by
      intro _ _ _
      exact .inl rfl
    apply Along.bind (q := fun _ outcome => ∀ value, outcome = .ok value →
      ∃ payload, app.opensGate token payload)
    · apply (ensureSuperuser_along now token).mono fun _ _ admitted => admitted
      rintro later _ ⟨_, _, opened⟩ value rfl
      obtain ⟨payload, accepted, flag⟩ := opened
      exact ⟨payload, accepted.1, flag⟩
    · intro value later opened
      have passed := opened value rfl
      apply along_any.mono
      · intro _ _ _ _ _ same
        cases same
        exact .inr passed
      · exact fun _ _ _ => trivial
    · exact fun _ _ _ => trivial
  | _ => exact along_any.mono (fun _ _ _ _ _ same => by cases same) fun _ _ _ => trivial

theorem Signed.mono {past later : List ServiceEvent} {token : Token} (signed : Signed app past token)
    (grown : past <:+ later) : Signed app later token := by
  obtain ⟨tid, pair, issued, among⟩ := signed
  exact ⟨tid, pair, issued.mono (traceOf_suffix grown tid), among⟩

end Gate

section Runs

variable {Token : Type} {app : App Token} {condition : Condition Tid Reply World} {world : World}
  {requests : Tid → Request Token} {past older : List ServiceEvent} {event : ServiceEvent}

/-- The flag of a token the service made is the flag its subject has now. -/
theorem superuser_of_signed (lawful : ServiceLawful app condition world requests past) {token : Token}
    (signed : Signed app past token) {payload : AccessTokenPayload}
    (opens : app.opensGate token payload) :
    ∃ subject, (stateAfter world past).db.user? payload.sub = some subject ∧
      subject.isSuperuser = true := by
  obtain ⟨tid, pair, ⟨copy, user, saw, id, flag, _, issued⟩, among⟩ := signed
  obtain ⟨accessTime, refreshTime, accessId, refreshId, roleClaims, _, _, _, access, refresh⟩ := issued
  obtain ⟨valid, superuser⟩ := opens
  simp only [List.mem_cons, List.not_mem_nil, or_false] at among
  rcases among with rfl | rfl
  · have decoded : payload = AccessTokenPayload.mk user.id (Time.seconds accessTime)
        (Time.seconds accessTime + app.jwtSettings.accessTokenExpireMinutes * 60) accessId
        user.tokenVersion user.isSuperuser roleClaims.1 roleClaims.2 := by
      rw [App.accessPayload, access, app.jwt.verify_encode, Option.bind_some, accessClaims,
        AccessTokenPayload.modelValidate_modelDump] at valid
      exact (Option.some.inj valid).symm
    subst decoded
    obtain ⟨earlier, suffix, read⟩ := sawUser_state lawful saw
    obtain ⟨subject, found, same⟩ := flags_kept lawful suffix _ _ read
    refine ⟨subject, ?_, ?_⟩
    · simpa only [id] using found
    · rw [same, ← flag]
      exact superuser
  · -- a refresh token is no access token
    rw [App.accessPayload, refresh, app.jwt.verify_encode, Option.bind_some, refreshClaims,
      AccessTokenPayload.modelValidate_refresh] at valid
    cases valid

/-- Every token a request has returned counts as signed. -/
theorem signed_of_returned {config : ServiceConfig Token}
    (run : Reaches answers condition (started app world requests) config) {tid : Tid}
    {value : Outcome Token} {pair : TokenData Token} (ended : config.threads tid = .done value)
    (handed : value.pair? = some pair) {token : Token} (among : token ∈ [pair.access, pair.refresh]) :
    Signed app config.past token :=
  ⟨tid, pair, (course_of_along (fun _ _ _ => True) (fun _ => OutcomeIssued app) run
    fun tid => (requests tid).issues).done ended value pair rfl handed, among⟩

/-- The event is a step of a role endpoint called with the access token of a superuser. -/
def AskedBySuperuser (app : App Token) (requests : Tid → Request Token) (event : ServiceEvent) :
    Prop :=
  ∃ token operation payload subject, requests event.thread = .roleEndpoint token operation ∧
    app.accessPayload token = some payload ∧
    event.before.db.user? payload.sub = some subject ∧ subject.isSuperuser = true

/-- What one event of an API request does to flags and roles. -/
structure PrivilegesKept (app : App Token) (requests : Tid → Request Token) (event : ServiceEvent) :
    Prop where
  flags : ∀ id user, event.before.db.user? id = some user →
    ∃ later, event.after.db.user? id = some later ∧ later.isSuperuser = user.isSuperuser
  plain : ∀ user ∈ event.after.db.users, user.id ∉ event.before.db.users.map User.id →
    user.isSuperuser = false
  roles : event.after.db.roles = event.before.db.roles ∨ AskedBySuperuser app requests event ∨
    ∃ id, event.after.db.roles = event.before.db.roles ++
      [NewRole.row ⟨id, DEFAULT_ROLE_TITLE, DEFAULT_ROLE_ACCESS_LABELS⟩ (eventDefaults event)]
  assignments : ∀ id user later, event.before.db.user? id = some user →
    event.after.db.user? id = some later →
      later.roleId = user.roleId ∨ AskedBySuperuser app requests event

section Events

variable (http : ∀ tid, (requests tid).isHttp = true)
  (asked : ∀ operation, (requests event.thread).roleOperation? = some operation →
    AskedBySuperuser app requests event)
  (lawful : LawfulEvent answers condition (fun tid => Allowed app (requests tid)) world older event)

include http lawful in
private theorem new_users_plain {user : User} (member : user ∈ event.after.db.users)
    (new : user.id ∉ event.before.db.users.map User.id) : user.isSuperuser = false := by
  cases (rows_step lawful).users.created member new with
  | plain created roleId row plain holds seen =>
    rw [row]
    exact plain
  | superuser email password requested =>
    have api := http event.thread
    rw [requested] at api
    cases api

include asked lawful in
private theorem roles_changed : event.after.db.roles = event.before.db.roles ∨
    AskedBySuperuser app requests event ∨
    ∃ id, event.after.db.roles = event.before.db.roles ++
      [NewRole.row ⟨id, DEFAULT_ROLE_TITLE, DEFAULT_ROLE_ACCESS_LABELS⟩ (eventDefaults event)] := by
  have written := event_db lawful
  rcases event_commits lawful with none | commits
  · left
    rw [db_of_committed_nil lawful none]
  · generalize committed event = writes at written commits
    cases commits with
    | defaultRole id absent =>
      right; right
      exact ⟨id, by rw [Database.writeAll_insertRole written]⟩
    | createRole role requested => exact .inr (.inl (asked _ requested))
    | removeRole id role seen free requested => exact .inr (.inl (asked _ requested))
    | modifyRole id role data seen guarded requested => exact .inr (.inl (asked _ requested))
    | changeUser id user seen changed allowed =>
      obtain ⟨change, described, tables⟩ := Database.writeAll_userUpdate written
      left; rw [tables]
    | loginHistory entry => left; rw [Database.writeAll_insertLoginHistory written]
    | createUser => left; rw [Database.writeAll_insertUser written]
    | createSuperuser => left; rw [Database.writeAll_insertUser written]
    | link => left; rw [Database.writeAll_insertOAuthAccount written]
    | newLink => left; rw [Database.writeAll_newLink written]

include asked lawful in
private theorem assignment_changed {id : UUID4} {user later : User}
    (before : event.before.db.user? id = some user) (after : event.after.db.user? id = some later) :
    later.roleId = user.roleId ∨ AskedBySuperuser app requests event := by
  have unchanged (same : event.after.db.users = event.before.db.users) :
      later.roleId = user.roleId := by
    rw [Database.user?, same] at after
    rw [Option.some.inj (after.symm.trans before)]
  have appended {new : User} (same : event.after.db.users = event.before.db.users ++ [new]) :
      later.roleId = user.roleId := by
    rw [Database.user?, same, lookup_append_of_some before] at after
    rw [Option.some.inj after]
  have written := event_db lawful
  rcases event_commits lawful with none | commits
  · exact .inl (unchanged (by rw [db_of_committed_nil lawful none]))
  generalize committed event = writes at written commits
  cases commits with
  | changeUser readId loaded seen changed allowed =>
    -- only the role operations write the column
    have column : (UserPatch.diff loaded.toUser changed).roleId = none ∨
        AskedBySuperuser app requests event := by
      cases allowed with
      | assign userId roleId role requested seen => exact .inr (asked _ requested)
      | strip userId requested superuser => exact .inr (asked _ requested)
      | revoke userId roleId requested seen => exact .inr (asked _ requested)
      | email token data requested => exact .inl (changed_self _)
      | password token data passwordHash requested => exact .inl (changed_self _)
      | logoutOthers token requested => exact .inl (changed_self _)
    rcases column with kept | asks
    · left
      obtain ⟨change, described, tables⟩ := Database.writeAll_userUpdate written
      rw [Database.user?, tables] at after
      by_cases owner : id = loaded.id
      · subst owner
        rw [lookup_amend_self described.id] at after
        obtain ⟨row, found, rfl⟩ := Option.map_eq_some_iff.mp after
        obtain rfl : row = user := Option.some.inj (found.symm.trans before)
        rw [described.roleId, kept]
        rfl
      · rw [lookup_amend_of_ne described.id owner] at after
        rw [Option.some.inj (after.symm.trans before)]
    · exact .inr asks
  | removeRole readId role seen free requested => exact .inr (asked _ requested)
  | createRole role requested => exact .inr (asked _ requested)
  | modifyRole readId role data seen guarded requested => exact .inr (asked _ requested)
  | defaultRole => exact .inl (unchanged (by rw [Database.writeAll_insertRole written]))
  | loginHistory => exact .inl (unchanged (by rw [Database.writeAll_insertLoginHistory written]))
  | createUser => exact .inl (appended (by rw [Database.writeAll_insertUser written]))
  | createSuperuser => exact .inl (appended (by rw [Database.writeAll_insertUser written]))
  | link => exact .inl (unchanged (by rw [Database.writeAll_insertOAuthAccount written]))
  | newLink => exact .inl (appended (by rw [Database.writeAll_newLink written]))

end Events

/-- In a run of API requests in which only the service signs tokens, no flag changes, no superuser
is created, and the roles and their assignment change at the request of superusers only. -/
theorem privileges_kept {config : ServiceConfig Token}
    (http : ∀ tid, (requests tid).isHttp = true)
    (run : Reaches answers (onlyServiceSigns app requests) (started app world requests) config)
    {event : ServiceEvent} (member : event ∈ config.past) : PrivilegesKept app requests event := by
  have lawful := (service_course run).lawful
  have obeys := (course_of_along (fun tid _ call => (requests tid).Obeys app call)
    (fun _ _ _ => True) run fun tid => (requests tid).obeys app).lawful
  obtain ⟨newer, older, split⟩ := List.append_of_mem member
  rw [split] at lawful obeys
  have here := lawful.event
  have gate := obeys.event.specified
  by_cases reads : event.request = .now
  · -- the gate only looks at the clock
    have same : event.after.db = event.before.db := by
      apply db_of_committed_nil here
      apply committed_of_silent
      intro session writes
      rw [reads]
      nofun
    constructor
    · intro id user found
      exact ⟨user, by rw [same, found], rfl⟩
    · intro user present new
      rw [same] at present
      exact absurd (List.mem_map_of_mem present) new
    · exact .inl (by rw [same])
    · intro id user later before after
      rw [same, before] at after
      rw [Option.some.inj after]
      exact .inl rfl
  · have asked (operation : RoleOperation)
        (asks : (requests event.thread).roleOperation? = some operation) :
        AskedBySuperuser app requests event := by
      obtain ⟨token, endpoint⟩ : ∃ token, requests event.thread = .roleEndpoint token operation := by
        have api := http event.thread
        generalize requests event.thread = request at asks api ⊢
        cases request with
        | roleEndpoint token other => exact ⟨token, by rw [Option.some.inj asks]⟩
        | role => cases api
        | _ => cases asks
      obtain ⟨payload, opens⟩ := (gate token operation endpoint).resolve_left reads
      have verified : (app.jwt.verify token).isSome = true := by
        obtain ⟨claims, verified, _⟩ := Option.bind_eq_some_iff.mp opens.1
        rw [verified]
        rfl
      have signed := here.admitted token (by rw [endpoint]; rfl) verified
      obtain ⟨subject, found, flag⟩ := superuser_of_signed lawful.older signed opens
      rw [← here.follows] at found
      exact ⟨token, operation, payload, subject, endpoint, opens.1, found, flag⟩
    exact ⟨fun _ _ => (rows_step here).users.persists, fun user => new_users_plain http here, roles_changed asked here,
      fun id user later => assignment_changed asked here⟩

end Runs

/-- The superuser logs in and creates a role with the access token. -/
private def adminCreatesRole (tid : Tid) : Request Claims :=
  [.loginUser ⟨"admin@example.com", "password"⟩ ⟨none, none⟩ none,
    .roleEndpoint (adminAccess 1) (.createRole ⟨"editor", [.free]⟩)].getD tid (.logout adminRefresh)

theorem privileges_kept_createRole : ∃ config : ServiceConfig Claims,
    (config.now.db.roleByTitle? "editor").isSome = true ∧
      ∀ event ∈ config.past, PrivilegesKept transparentApp adminCreatesRole event := by
  have played : ((started transparentApp bootstrappedWorld adminCreatesRole).playAll World.answer
      (fun _ event => event.thread = 0)
      [move 0, move 0, move 0 3, move 0, move 0 4, move 0 5, move 0, move 0]).any (fun middle =>
        ((returnedPair? (middle.threads 0)).any fun pair => pair.access = adminAccess 1) &&
        (middle.playAll World.answer (fun _ event => event.thread = 1)
          [move 1, move 1 6, move 1, move 1]).any fun last =>
            (last.now.db.roleByTitle? "editor").isSome) = true := by decide
  obtain ⟨middle, login, checked⟩ := Config.playAll_exists played
  rw [Bool.and_eq_true] at checked
  obtain ⟨pair, returned, access⟩ := (Option.any_eq_true _ _).mp checked.1
  obtain ⟨last, creation, created⟩ := Config.playAll_exists checked.2
  have signed : Signed transparentApp middle.past (adminAccess 1) := by
    apply signed_of_returned login (returnedPair?_eq_some.mp returned) rfl
    rw [← of_decide_eq_true access]
    exact List.mem_cons_self
  have first : Reaches answers (onlyServiceSigns transparentApp adminCreatesRole)
      (started transparentApp bootstrappedWorld adminCreatesRole) middle := by
    apply login.admits
    intro past event _ mover token presented
    rw [mover] at presented
    cases presented
  have second : Reaches answers (onlyServiceSigns transparentApp adminCreatesRole) middle last := by
    apply creation.admits
    intro past event grown mover token presented _
    rw [mover] at presented
    cases presented
    exact signed.mono grown
  have http (tid : Tid) : (adminCreatesRole tid).isHttp = true := by
    rcases tid with _ | _ | tid <;> rfl
  exact ⟨last, created, fun event member => privileges_kept http (first.trans second) member⟩

end AuthApi
