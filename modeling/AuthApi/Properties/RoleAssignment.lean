import AuthApi.Run.Users

/-! # Every user can be issued tokens

A token for a user who is no superuser needs a role. Accounts are created with the default role and
no operation takes a role away without giving another, but `users.role_id` is set to null when the
role is deleted. The invariant therefore holds in runs that delete no role still in use.
-/

namespace AuthApi

open Interleaving Interleaving.Program Relational

/-- The state after the start-up commands: the default role and one superuser. -/
structure Bootstrapped (db : Database) : Prop where
  roles : ∃ role, db.roles = [role] ∧ role.title = DEFAULT_ROLE_TITLE
  users : ∃ admin, db.users = [admin] ∧ admin.isSuperuser = true

/-- Every user who is no superuser has an existing role. -/
def EveryUserHasRole (db : Database) : Prop :=
  ∀ user ∈ db.users, user.isSuperuser = false → ∃ role ∈ db.roles, user.roleId = some role.id

/-- No role is deleted while a user who is no superuser holds it. -/
def heldRolesStay : Condition Tid Reply World := fun _ event =>
  ∀ user ∈ event.before.db.users, user.isSuperuser = false →
    ∀ roleId ∈ user.roleId, .deleteRole roleId ∉ committed event

instance (db : Database) : Decidable (EveryUserHasRole db) :=
  inferInstanceAs (Decidable (∀ _, _ → _))

instance (past : List ServiceEvent) (event : ServiceEvent) :
    Decidable (heldRolesStay past event) := inferInstanceAs (Decidable (∀ _, _ → _))

/-- The foreign key makes an assigned role an existing one. -/
theorem everyUserHasRole_iff {db : Database} : EveryUserHasRole db ↔
    ∀ user ∈ db.users, user.isSuperuser = false → user.roleId ≠ none := by
  constructor
  · rintro roles user member plain none
    obtain ⟨role, _, assigned⟩ := roles user member plain
    rw [none] at assigned
    cases assigned
  · intro assigned user member plain
    obtain ⟨roleId, set⟩ := Option.ne_none_iff_exists'.mp (assigned user member plain)
    obtain ⟨role, present, same⟩ :=
      List.mem_map.mp (db.consistent.userRoles user member roleId set)
    exact ⟨role, present, by rw [set, same]⟩

theorem Bootstrapped.everyUserHasRole {db : Database} (boot : Bootstrapped db) :
    EveryUserHasRole db := by
  obtain ⟨admin, users, flag⟩ := boot.users
  intro user member plain
  rw [users, List.mem_singleton] at member
  rw [member, flag] at plain
  cases plain

section Invariant

variable {Token : Type} {app : App Token} {world : World} {requests : Tid → Request Token}
  {config : ServiceConfig Token} {past : List ServiceEvent}

theorem lawful_everyUserHasRole (lawful : ServiceLawful app heldRolesStay world requests past)
    (initial : EveryUserHasRole world.db) : EveryUserHasRole (stateAfter world past).db := by
  refine Lawful.invariant (p := fun state => EveryUserHasRole state.db) ?_ initial lawful
  intro older event lawful here earlier
  have before := everyUserHasRole_iff.mp (earlier older (List.suffix_refl _))
  rw [← here.follows] at before
  rw [everyUserHasRole_iff]
  have step := (rows_step here).users
  generalize event.after.db.users = after at step ⊢
  cases step with
  | same => exact before
  | insertPlain user roleId plain holds seen member =>
    intro row member
    rcases List.mem_append.mp member with old | new
    · exact before row old
    · rw [List.mem_singleton.mp new]
      simp [NewUser.row, holds]
  | insertSuperuser user flag email password requested =>
    intro row member plain
    rcases List.mem_append.mp member with old | new
    · exact before row old plain
    · rw [List.mem_singleton.mp new] at plain
      rw [show (user.row _).isSuperuser = true from flag] at plain
      cases plain
  | update readId loaded seen changed allowed shape change described =>
    intro row member plain
    obtain ⟨old, present, rfl⟩ := mem_amend member
    by_cases same : old.id = loaded.id
    · rw [if_pos same] at plain ⊢
      rw [described.roleId]
      cases allowed with
      | strip userId requested superuser =>
        have found := Database.user?_of_mem present
        rw [same, here.follows] at found
        have flag := sawUser_row_flag lawful ⟨_, seen, rfl⟩ found
        simp only [described.isSuperuser, UserPatch.diff, changed_self, Option.getD_none] at plain
        rw [flag, superuser] at plain
        cases plain
      | assign userId roleId role requested seenRole =>
        simp only [UserPatch.diff, changed]
        split
        · exact before old present (by simpa [described.isSuperuser, UserPatch.diff] using plain)
        · simp
      | revoke userId roleId requested seenRole =>
        simp only [UserPatch.diff, changed]
        split
        · exact before old present (by simpa [described.isSuperuser, UserPatch.diff] using plain)
        · simp
      | _ =>
        simpa [UserPatch.diff] using
          before old present (by simpa [described.isSuperuser, UserPatch.diff] using plain)
    · rw [if_neg same] at plain ⊢
      exact before old present plain
  | dropRole readId role seen free shape =>
    intro row member plain
    obtain ⟨old, present, rfl⟩ := List.mem_map.mp member
    have flag : old.isSuperuser = false := by
      unfold User.dropRole at plain
      split at plain <;> exact plain
    have unheld : old.roleId ≠ some role.id := fun held =>
      here.admitted old present flag role.id held (by rw [shape]; simp)
    rw [User.dropRole, if_neg unheld]
    exact before old present flag

end Invariant

/-- No claims can be made from the instance. -/
def Roleless (user : UserObject) : Prop := ∃ error, resolveRoleClaims user = .error error

/-- The request read an instance without claims, or joined the role of such a row to an instance it
already held. -/
def SawRoleless (trace : Trace Reply) : Prop :=
  (∃ user, SawWithRole trace user ∧ Roleless user) ∨
  ∃ user found : UserObject, SawUser trace user ∧
    ⟨.selectUserById user.id true, some found⟩ ∈ trace ∧ Roleless { user with role := found.role }

theorem SawRoleless.mono {trace later : Trace Reply} (saw : SawRoleless trace)
    (grown : trace <:+ later) : SawRoleless later := by
  obtain ⟨user, read, roleless⟩ | ⟨user, found, read, joined, roleless⟩ := saw
  · exact .inl ⟨user, read.mono grown, roleless⟩
  · exact .inr ⟨user, found, read.mono grown, grown.subset joined, roleless⟩

/-- A request ends with a `ValueError` only if it met such an instance. -/
def ValueErrorSeen {α : Type} (trace : Trace Reply) (outcome : Except Exn α) : Prop :=
  ∀ detail, outcome = .error (.valueError detail) → SawRoleless trace

section Programs

variable {Token : Type} {app : App Token} {trace : Trace Reply}

/-- The specification that admits every call. -/
abbrev anyCall : Trace Reply → Call → Prop := fun _ _ => True

private theorem issueTokenPair_valueError {user : UserObject} {trace : Trace Reply}
    (saw : Roleless user → SawRoleless trace) :
    (issueTokenPair app user).Along anyCall
      (fun later outcome => trace <:+ later ∧ ValueErrorSeen later outcome) trace := by
  refine (issueTokenPair_along (fun _ => trivial) (fun _ => trivial) user).mono
    (fun _ _ admitted => admitted) ?_
  rintro later outcome ⟨grown, ends⟩
  refine ⟨grown, fun detail same => ?_⟩
  subst same
  exact (saw ⟨_, ends⟩).mono grown

theorem loginUser_valueError (data : UserLoginData) (requestMeta : RequestMeta)
    (deviceInfo : Option DeviceInfo) :
    (AuthService.loginUser app data requestMeta deviceInfo).Along anyCall ValueErrorSeen trace := by
  refine ⟨trivial, fun found => ?_⟩
  cases found with
  | none => exact nofun
  | some user =>
    simp only [done_bind]
    split
    · refine Along.bind (issueTokenPair_valueError fun roleless => .inl ⟨user, ?_, roleless⟩) ?_ ?_
      · exact ⟨_, List.mem_cons_self, rfl, rfl⟩
      · rintro tokens later _
        refine Along.bind (saveLoginHistory_along (fun _ => trivial) (fun _ => trivial)
          (fun _ _ => trivial) _ _ _) ?_ ?_
        · exact fun _ _ _ => nofun
        · rintro error later ⟨_, ⟨⟩⟩
      · exact fun error later ends detail same => ends.2 detail (by cases same; rfl)
    · exact nofun

theorem refreshTokens_valueError (token : Token) :
    (AuthService.refreshTokens app token).Along anyCall ValueErrorSeen trace := by
  refine ⟨trivial, fun decodedAt => ?_⟩
  simp only [done_bind]
  split
  · exact nofun
  · exact nofun
  · split
    · exact nofun
    · refine ⟨trivial, fun entry => ?_⟩
      cases entry with
      | error error => exact nofun
      | ok entry =>
        simp only [attempt_ok, done_bind, pure_eq]
        split
        · exact nofun
        · refine ⟨trivial, fun found => ?_⟩
          cases found with
          | none => exact nofun
          | some user =>
            simp only [done_bind]
            split
            · refine ⟨trivial, fun now => ⟨trivial, fun reply => ?_⟩⟩
              cases reply with
              | error error => exact nofun
              | ok _ =>
                refine (issueTokenPair_valueError fun roleless => .inl ⟨user, ?_, roleless⟩).mono
                  (fun _ _ admitted => admitted) fun _ _ ends => ends.2
                exact ⟨_, List.mem_cons_of_mem _ (List.mem_cons_of_mem _ List.mem_cons_self), rfl, rfl⟩
            · exact nofun

theorem logoutOthers_valueError {user : UserObject} (saw : SawUser trace user) :
    (AuthService.logoutOthers app user).Along anyCall ValueErrorSeen trace := by
  refine ⟨trivial, fun reply => ?_⟩
  cases reply with
  | error error => exact nofun
  | ok _ =>
    refine ⟨trivial, fun found => ?_⟩
    cases found with
    | none => exact nofun
    | some found =>
      simp only [done_bind]
      refine Along.mono (fun _ _ admitted => admitted) (fun _ _ ends => ends.2)
        (issueTokenPair_valueError fun roleless => .inr ⟨user, found, ?_, List.mem_cons_self, roleless⟩)
      exact saw.mono (List.suffix_append [_, _] trace)

theorem AttachEnds.no_valueError {pending : List Write} {user : UserObject}
    {provider providerUserId detail : String} {later : Trace Reply} :
    ¬ AttachEnds app pending user provider providerUserId trace later (.error (.valueError detail)) := by
  intro ends
  cases ends

theorem ResolveEnds.no_valueError {profile : YandexIdUserData} {later : Trace Reply} {detail : String} :
    ¬ ResolveEnds app profile trace later (.error (.valueError detail)) := by
  intro ends
  cases ends with
  | unlinked _ _ _ attached => exact attached.no_valueError
  | failed _ _ _ _ _ attached => exact attached.no_valueError

/-- A resolved user without a role was read without one. -/
theorem ResolveEnds.roleless {profile : YandexIdUserData} {later : Trace Reply} {user : UserObject}
    (ends : ResolveEnds app profile trace later (.ok (some user))) (roleless : Roleless user) :
    SawRoleless later := by
  cases ends with
  | found => exact .inl ⟨user, ⟨_, List.mem_cons_self, rfl, rfl⟩, roleless⟩
  | linked existing _ _ attached =>
    by_cases loaded : existing.role = .noValue
    · refine .inl ⟨existing, ⟨_, attached.grown.subset List.mem_cons_self, rfl, rfl⟩, ?_⟩
      unfold Roleless resolveRoleClaims
      rw [loaded]
      exact ⟨_, rfl⟩
    · exact .inl ⟨user, attached.saw.2 loaded, roleless⟩
  | added _ _ _ created stored _ attached =>
    exact .inr ⟨created, stored, attached.saw.1.mono (List.suffix_cons _ _), List.mem_cons_self, roleless⟩

theorem authorize_valueError (code : String) (state : UUID) (requestMeta : RequestMeta)
    (deviceInfo : DeviceInfo) :
    (YandexIdService.authorize app code state requestMeta deviceInfo).Along anyCall
      ValueErrorSeen trace := by
  have other {α : Type} {error : Exn} {later : Trace Reply}
      (differ : ∀ detail, error ≠ .valueError detail) :
      ValueErrorSeen later (.error error : Except Exn α) := by
    intro detail same
    cases same
    exact absurd rfl (differ detail)
  have domain {error : Exn} (yandex : error.isYandexError = true) (detail : String) :
      error ≠ .valueError detail := by
    rintro rfl
    cases yandex
  refine Along.bind (consumeCachedState_along state trivial) ?_
    fun error _ ends => other (domain ends.2)
  intro codeVerifier later _
  refine Along.bind (exchangeCode_along code codeVerifier deviceInfo trivial) ?_ ?_
  rotate_left
  · rintro error _ ⟨_, yandex | fault⟩
    · exact other (domain yandex)
    · obtain ⟨_, _, _, _, rfl⟩ | ⟨_, rfl⟩ | ⟨_, rfl⟩ := fault <;> exact other nofun
  intro tokenData later _
  refine Along.bind (fetchUserInfo_along tokenData.accessToken fun _ _ _ _ => trivial) ?_ ?_
  rotate_left
  · rintro error _ ⟨_, yandex | ⟨_, _, _, _, rfl⟩ | ⟨_, rfl⟩⟩
    · exact other (domain yandex)
    · exact other nofun
    · exact other nofun
  intro profile later _
  refine Along.bind (resolveUser_ends profile) ?_ ?_
  rotate_left
  · rintro error _ ends detail ⟨⟩
    exact absurd ends ResolveEnds.no_valueError
  intro resolved later ends
  cases resolved with
  | none => exact ⟨trivial, fun _ => nofun⟩
  | some user =>
    refine Along.bind (issueTokenPair_valueError ends.roleless) ?_ ?_
    · intro tokens later _
      refine Along.bind (saveLoginHistory_along (fun _ => trivial) (fun _ => trivial)
        (fun _ _ => trivial) _ _ _) ?_ ?_
      · exact fun _ _ _ => nofun
      · rintro error later ⟨_, ⟨⟩⟩
    · exact fun error later ends detail same => ends.2 detail (by cases same; rfl)

end Programs

/-- The requests that end by issuing a token pair. -/
def Request.issuesTokens {Token : Type} : Request Token → Bool
  | .loginUser .. => true
  | .refreshTokens _ => true
  | .userEndpoint _ .logoutOthers => true
  | .authorize .. => true
  | _ => false

section Runs

variable {Token : Type} {app : App Token} {world : World} {requests : Tid → Request Token}
  {config : ServiceConfig Token}

private theorem withSession_valueError {body : Action (TokenData Token)} {trace : Trace Reply}
    (along : body.Along anyCall ValueErrorSeen trace) :
    (withSession do return Outcome.tokens (← body)).Along anyCall ValueErrorSeen trace := by
  refine along_withSession (fun _ => trivial) (along.bind (fun _ _ _ => nofun) ?_)
  rintro error later ends detail same
  cases same
  exact (ends detail rfl).mono (List.suffix_cons _ _)

theorem Request.valueError {request : Request Token} (issues : request.issuesTokens = true) :
    (request.program app).Along anyCall ValueErrorSeen [] := by
  cases request with
  | loginUser data requestMeta deviceInfo =>
    exact withSession_valueError (loginUser_valueError data requestMeta deviceInfo)
  | refreshTokens refreshToken => exact withSession_valueError (refreshTokens_valueError refreshToken)
  | authorize code state requestMeta deviceInfo =>
    exact withSession_valueError (authorize_valueError code state requestMeta deviceInfo)
  | userEndpoint accessToken operation =>
    cases operation with
    | logoutOthers =>
      have closed {later : Trace Reply} {error : Exn}
          (ends : ValueErrorSeen later (.error error : Except Exn (Outcome Token))) :
          ValueErrorSeen (⟨.close, ()⟩ :: later) (.error error : Except Exn (Outcome Token)) :=
        fun detail same => (ends detail same).mono (List.suffix_cons _ _)
      refine along_withSession (fun _ => trivial) (Along.bind
        (getTokenUser_along (fun _ => trivial) accessToken fun _ _ _ => trivial) ?_ ?_)
      · rintro user _ ⟨time, payload, _, _, rfl⟩
        refine (logoutOthers_valueError ⟨_, List.mem_cons_self, rfl⟩).bind (fun _ _ _ => nofun) ?_
        exact fun error later ends => closed fun detail same => ends detail (by cases same; rfl)
      · rintro error later (⟨_, detail, _, _, rfl⟩ | ⟨_, _, _, _, _, ⟨_, rfl⟩ | ⟨_, _, _, rfl⟩⟩) <;>
          exact nofun
    | _ => cases issues
  | _ => cases issues

/-- Under the invariant no request meets an instance without claims. -/
theorem not_sawRoleless {past : List ServiceEvent}
    (lawful : ServiceLawful app heldRolesStay world requests past)
    (initial : EveryUserHasRole world.db) (tid : Tid) : ¬ SawRoleless (traceOf past tid) := by
  -- a joined role is absent only from a superuser's row
  have joined {user : UserObject} (saw : SawWithRole (traceOf past tid) user) {older : List ServiceEvent}
      (suffix : older <:+ past) (found : (stateAfter world older).db.user? user.id = some user.toUser)
      (role : user.role = .loaded ((stateAfter world older).db.roleOf user.toUser)) :
      (∃ row, user.role = .loaded (some row)) ∨
        user.role = .loaded none ∧ user.isSuperuser = true := by
    have member := Database.user?_mem found
    cases assigned : (stateAfter world older).db.roleOf user.toUser with
    | some row => exact .inl ⟨row, by rw [role, assigned]⟩
    | none =>
      refine .inr ⟨by rw [role, assigned], ?_⟩
      cases flag : user.isSuperuser with
      | true => rfl
      | false =>
        obtain ⟨row, _, set⟩ :=
          lawful_everyUserHasRole (lawful.suffix suffix) initial user.toUser member flag
        have present := (stateAfter world older).db.roleOf_isSome member (by simp [set])
        rw [assigned] at present
        cases present
  rintro (⟨user, saw, error, failed⟩ | ⟨user, found, saw, read, error, failed⟩)
  · obtain ⟨older, suffix, row, role⟩ := sawWithRole_state lawful saw
    obtain ⟨row, loaded⟩ | ⟨loaded, flag⟩ := joined saw suffix row role
    · simp [resolveRoleClaims, loaded] at failed
    · simp [resolveRoleClaims, loaded, flag] at failed
  · have sawFound : SawWithRole (traceOf past tid) found := ⟨_, read, rfl, rfl⟩
    obtain ⟨older, suffix, row, role⟩ := sawWithRole_state lawful sawFound
    have flags : user.isSuperuser = found.isSuperuser :=
      sawUser_flag lawful saw sawFound.saw (selectUserById_id lawful read).symm
    obtain ⟨row, loaded⟩ | ⟨loaded, flag⟩ := joined sawFound suffix row role
    · simp [resolveRoleClaims, loaded] at failed
    · simp [resolveRoleClaims, loaded, flags, flag] at failed

/-- A request that ends with the `ValueError` met an instance without claims. -/
theorem valueError_seen {condition : Condition Tid Reply World} {tid : Tid} {detail : String}
    (run : Reaches answers condition (started app world requests) config)
    (issues : (requests tid).issuesTokens = true)
    (raised : config.threads tid = .raise (.valueError detail)) :
    SawRoleless (traceOf config.past tid) := by
  have ends := course_of_along (fun _ => anyCall)
    (fun tid trace outcome => (requests tid).issuesTokens = true →
      ValueErrorSeen trace outcome) run fun tid => by
    by_cases issues : (requests tid).issuesTokens = true
    · exact (Request.valueError issues).mono (fun _ _ admitted => admitted) fun _ _ ends _ => ends
    · exact (Request.allowed app (requests tid)).mono (fun _ _ _ => trivial)
        fun _ _ _ held => absurd held issues
  exact ends.raised raised issues detail rfl

/-- In runs that delete no held role every user keeps a role, and no login, refresh, logout from
other devices or callback fails for the lack of one. -/
theorem users_keep_roles (boot : Bootstrapped world.db)
    (run : Reaches answers heldRolesStay (started app world requests) config) :
    EveryUserHasRole config.now.db ∧
      ∀ tid, (requests tid).issuesTokens = true →
        ∀ detail, config.threads tid ≠ .raise (.valueError detail) := by
  have course := service_course run
  refine ⟨?_, fun tid issues detail raised => ?_⟩
  · rw [course.now_eq]
    exact lawful_everyUserHasRole course.lawful boot.everyUserHasRole
  · exact not_sawRoleless course.lawful boot.everyUserHasRole tid (valueError_seen run issues raised)

end Runs

private theorem bootstrapped : Bootstrapped bootstrappedWorld.db :=
  ⟨⟨defaultRoleRow, rfl, rfl⟩, ⟨adminRow, rfl, rfl⟩⟩

/-- A new user logs in, in a run without deletions. -/
theorem users_keep_roles_login : ∃ config : ServiceConfig Claims,
    EveryUserHasRole config.now.db ∧
      (∀ detail, config.threads 1 ≠ .raise (.valueError detail)) ∧
      ∃ pair, config.threads 1 = .done (.tokens pair) := by
  have played : ((started transparentApp bootstrappedWorld (pool
      [.createUser ⟨"a@example.com", "pw"⟩,
        .loginUser ⟨"a@example.com", "pw"⟩ ⟨none, none⟩ none])).playAll World.answer heldRolesStay
      [move 0, move 0, move 0, move 0 3, move 0, move 0, move 0,
        move 1, move 1, move 1 4, move 1, move 1 5, move 1 6, move 1, move 1]).any
      (fun config => (returnedPair? (config.threads 1)).isSome) = true := by decide
  obtain ⟨config, run, finished⟩ := Config.playAll_exists played
  obtain ⟨roles, issued⟩ := users_keep_roles bootstrapped run
  obtain ⟨pair, ended⟩ := Option.isSome_iff_exists.mp finished
  exact ⟨config, roles, issued 1 rfl, pair, returnedPair?_eq_some.mp ended⟩

/-- Deleting an assigned role leaves its holder without one, and the holder cannot log in. -/
theorem removeRole_strips_holder : ∃ (requests : Tid → Request Claims) (config : ServiceConfig Claims),
    Bootstrapped bootstrappedWorld.db ∧
      Reaches answers sequentially (started transparentApp bootstrappedWorld requests) config ∧
      ¬ EveryUserHasRole config.now.db ∧
      config.threads 4 = .raise (.valueError
        "Non-superuser users must have a role before creating an access token") := by
  have played : ((started transparentApp bootstrappedWorld (pool
      [.createUser ⟨"a@example.com", "pw"⟩, .role (.createRole ⟨"editor", [.free]⟩),
        .role (.assignRole (numbered 3) (numbered 4)), .role (.removeRole (numbered 4)),
        .loginUser ⟨"a@example.com", "pw"⟩ ⟨none, none⟩ none])).playAll World.answer sequentially
      [move 0, move 0, move 0, move 0 3, move 0, move 0, move 0,
        move 1 4, move 1, move 1, move 2, move 2, move 2, move 2, move 3, move 3, move 3,
        move 4, move 4, move 4]).any
      (fun config => decide (¬ EveryUserHasRole config.now.db) &&
        decide ((config.threads 4).outcome? = some (.error (.valueError
          "Non-superuser users must have a role before creating an access token")))) = true := by
    decide
  obtain ⟨config, run, checked⟩ := Config.playAll_exists played
  rw [Bool.and_eq_true, decide_eq_true_iff, decide_eq_true_iff] at checked
  exact ⟨_, config, bootstrapped, run, checked.1, outcome?_eq_error.mp checked.2⟩

end AuthApi
