import AuthApi.Run.Provider
import AuthApi.Run.RoleOperations

/-! # Every write of the service

`Commits` lists what a commit of the service can contain and `Stores` lists its Redis commands that
write, together with what the request had seen before. Each program is checked against them once
(`Request.allowed`), so invariants of the tables and of the keyspace are proved by cases on these
lists and never look into a program again.
-/

namespace AuthApi

open Interleaving Interleaving.Program DbHelpers

namespace Request

variable {Token : Type}

/-- The request is a Yandex callback. -/
def isCallback : Request Token → Bool
  | .authorize .. => true
  | .confirmLoginYandex _ => true
  | _ => false

theorem roleOperation?_of_callback {request : Request Token} (callback : request.isCallback = true) :
    request.roleOperation? = none := by
  cases request <;> first | rfl | cases callback

/-- The refresh token a request puts on the blacklist. -/
def revokes? : Request Token → Option Token
  | .refreshTokens refreshToken => some refreshToken
  | .logout refreshToken => some refreshToken
  | _ => none

end Request

/-- The callback carries the state in its cookie and in its query. -/
def HttpRequest.Presents {Token : Type} (http : HttpRequest) (app : App Token) (state : UUID) : Prop :=
  (http.cookie? "state").bind UUID.parse = some state ∧
    (http.query? "state").bind app.pydantic.uuid = some state

section Commits

variable {Token : Type} (app : App Token) (request : Request Token) (trace : Trace Reply)

/-- How a request that read `user` may have changed it. -/
inductive UserChange (user : User) : User → Prop
  | email (token : Token) (data : UserChangeEmailIn)
      (requested : request = .userEndpoint token (.changeEmail data)) :
      UserChange user { user with email := data.email }
  | password (token : Token) (data : UserChangePasswordIn) (passwordHash : String)
      (requested : request = .userEndpoint token (.changePassword data)) :
      UserChange user
        { user with passwordHash := passwordHash, tokenVersion := user.tokenVersion + 1 }
  | logoutOthers (token : Token) (requested : request = .userEndpoint token .logoutOthers) :
      UserChange user { user with tokenVersion := user.tokenVersion + 1 }
  | assign (userId roleId : UUID4) (role : Role)
      (requested : request.roleOperation? = some (.assignRole userId roleId))
      (seen : ⟨.getRole roleId, some role⟩ ∈ trace) :
      UserChange user { user with roleId := some roleId }
  | strip (userId : UUID4) (requested : request.roleOperation? = some (.revokeRole userId))
      (superuser : user.isSuperuser = true) : UserChange user { user with roleId := none }
  | revoke (userId roleId : UUID4)
      (requested : request.roleOperation? = some (.revokeRole userId))
      (seen : SawDefaultRole trace roleId) : UserChange user { user with roleId := some roleId }

/-- What a commit can contain after the given trace. -/
inductive Commits : List Write → Prop
  | defaultRole (id : UUID4) (absent : ⟨.selectRoleByTitle DEFAULT_ROLE_TITLE, none⟩ ∈ trace) :
      Commits [.insertRole ⟨id, DEFAULT_ROLE_TITLE, DEFAULT_ROLE_ACCESS_LABELS⟩]
  | loginHistory (entry : NewLoginHistory) : Commits [.insertLoginHistory entry]
  | createUser (user : NewUser) (roleId : UUID4) (plain : user.isSuperuser = false)
      (holds : user.roleId = some roleId) (seen : SawDefaultRole trace roleId)
      (data : UserCreateIn) (requested : request = .createUser data) : Commits [.insertUser user]
  | createSuperuser (user : NewUser) (flag : user.isSuperuser = true)
      (email password : String) (requested : request = .createSuperuser email password) :
      Commits [.insertUser user]
  | changeUser (id : UUID4) (user : UserObject) (seen : ⟨.getUser id, some user⟩ ∈ trace)
      (changed : User) (change : UserChange request trace user.toUser changed) :
      Commits (userUpdate user.toUser changed)
  | createRole (role : NewRole)
      (requested : request.roleOperation? = some (.createRole ⟨role.title, role.accessLabels⟩)) :
      Commits [.insertRole role]
  | removeRole (id : UUID4) (role : Role) (seen : ⟨.getRole id, some role⟩ ∈ trace)
      (free : role.title ≠ DEFAULT_ROLE_TITLE)
      (requested : request.roleOperation? = some (.removeRole id)) : Commits [.deleteRole role.id]
  | modifyRole (id : UUID4) (role : Role) (data : RoleCreateIn)
      (seen : ⟨.getRole id, some role⟩ ∈ trace)
      (guarded : role.title = DEFAULT_ROLE_TITLE → data.title = DEFAULT_ROLE_TITLE)
      (requested : request.roleOperation? = some (.modifyRole id data)) :
      Commits (roleUpdate role { role with title := data.title, accessLabels := data.accessLabels })
  | link (profile : YandexIdUserData) (user : UserObject) (id : UUID4)
      (callback : request.isCallback = true) (fetched : SawProfile app trace profile)
      (found : ⟨.selectUserByEmail profile.defaultEmail true, some user⟩ ∈ trace) :
      Commits [.insertOAuthAccount ⟨id, YandexIdService.YANDEX, profile.id, user.id⟩]
  | newLink (profile : YandexIdUserData) (user : NewUser) (roleId id : UUID4)
      (callback : request.isCallback = true) (fetched : SawProfile app trace profile)
      (plain : user.isSuperuser = false) (email : user.email = profile.defaultEmail)
      (holds : user.roleId = some roleId) (seen : SawDefaultRole trace roleId) :
      Commits [.insertUser user,
        .insertOAuthAccount ⟨id, YandexIdService.YANDEX, profile.id, user.id⟩]

/-- The Redis commands that write. -/
inductive Stores : Call → Prop
  | revoke (token : Token) (claims : Claims) (now : Time) (ttl : ℤ)
      (presented : request.revokes? = some token) (verified : app.jwt.verify token = some claims)
      (seen : ⟨.now, now⟩ ∈ trace) (positive : 0 < ttl)
      (outlives : claims.exp - Time.seconds now ≤ ttl) :
      Stores (.redisSetex (AuthService.blacklistKey claims.jti.val.str) ttl (.text "true"))
  | issueState (http : HttpRequest) (state : UUID4) (codeVerifier : String) (rest : Trace Reply)
      (requested : request = .oauthLogin http)
      (drawn : trace = ⟨.tokenUrlsafe 64, codeVerifier⟩ :: ⟨.uuid4, state⟩ :: rest) :
      Stores (.redisSetex (YandexIdService.stateCacheKey state.val)
        app.yandexidSettings.confirmationCodeTtl (.codeVerifier codeVerifier))
  | consumeState (state : UUID) (callback : request.isCallback = true) :
      Stores (.redisGetdel (YandexIdService.stateCacheKey state))
  | count (identity : String) (windowMs : ℕ) :
      Stores (.redisIncrWithTtl (rateLimitKey app.rateLimitSettings
        (ipPerRouteRule app.rateLimitSettings) identity) windowMs)

/-- The code is exchanged right after the state was consumed, with the verifier found there. -/
structure Exchanges (data : YandexIdTokenRequestData) : Prop where
  callback : request.isCallback = true
  consumed : ∃ state rest, trace = ⟨.redisGetdel (YandexIdService.stateCacheKey state),
      .ok (some (.codeVerifier data.codeVerifier))⟩ :: rest ∧
    ∀ http, request = .confirmLoginYandex http → http.Presents app state

/-- The calls a request may issue after a trace, as far as others can notice them. -/
def Allowed (call : Call) : Prop :=
  match call with
  | .httpPost _ data _ => Exchanges app request trace data
  | .commit _ writes => Commits app request trace writes
  | .redisSetex key ttl value => Stores app request trace (.redisSetex key ttl value)
  | .redisGetdel key => Stores app request trace (.redisGetdel key)
  | .redisIncrWithTtl key windowMs => Stores app request trace (.redisIncrWithTtl key windowMs)
  | _ => True

end Commits

section Programs

variable {Token : Type} {app : App Token} {request : Request Token} {trace : Trace Reply}

theorem allowed_of_silent {call : Call} (silent : call.isSilent = true) : Allowed app request trace call := by
  cases call with
  | commit session writes => cases silent
  | redisSetex key ttl value => cases silent
  | redisGetdel key => cases silent
  | redisIncrWithTtl key windowMs => cases silent
  | httpPost url data authorization => cases silent
  | _ => trivial

private theorem userUpdate_allowed {user : UserObject} {changed : User} (id : UUID4)
    (seen : ⟨.getUser id, some user⟩ ∈ trace)
    (change : UserChange request trace user.toUser changed) :
    Allowed app request trace (.commit .request (userUpdate user.toUser changed)) :=
  .changeUser id user seen changed change

theorem loginUser_allowed (data : UserLoginData) (requestMeta : RequestMeta)
    (deviceInfo : Option DeviceInfo) :
    (AuthService.loginUser app data requestMeta deviceInfo).Along (Allowed app request)
      (fun _ _ => True) trace :=
  loginUser_along data requestMeta deviceInfo (fun _ _ => allowed_of_silent) fun _ _ => .loginHistory _

theorem refreshTokens_allowed (token : Token) (presented : request.revokes? = some token) :
    (AuthService.refreshTokens app token).Along (Allowed app request) (fun _ _ => True) trace := by
  apply refreshTokens_along (fun _ => trivial) (fun _ => trivial)
  · exact fun _ _ _ => trivial
  · exact fun _ _ _ => trivial
  · intro later claims moment ttl verified seen positive outlives
    exact .revoke token claims moment ttl presented verified seen positive outlives

theorem logout_allowed (token : Token) (presented : request.revokes? = some token) :
    (AuthService.logout app token).Along (Allowed app request) (fun _ _ => True) trace := by
  apply logout_along (fun _ => trivial)
  intro later claims moment ttl verified seen positive outlives
  exact .revoke token claims moment ttl presented verified seen positive outlives

theorem logoutOthers_allowed (token : Token) (id : UUID4) (user : UserObject)
    (requested : request = .userEndpoint token .logoutOthers)
    (seen : ⟨.getUser id, some user⟩ ∈ trace) :
    (AuthService.logoutOthers app user).Along (Allowed app request) (fun _ _ => True) trace :=
  logoutOthers_along user (fun _ => trivial) (fun _ => trivial) (fun _ => trivial)
    (userUpdate_allowed id seen (.logoutOthers token requested))

theorem getOrCreateDefaultRole_allowed :
    getOrCreateDefaultRole.Along (Allowed app request)
      (fun later outcome => trace <:+ later ∧ match outcome with
        | .ok role => SawDefaultRole later role.id
        | .error error => ⟨.selectRoleByTitle DEFAULT_ROLE_TITLE, none⟩ ∈ later ∧
            ∃ fault, error = .dbError fault) trace :=
  getOrCreateDefaultRole_along (fun _ => trivial) (fun _ => trivial) fun _ _ absent =>
    .defaultRole _ absent

theorem createUser_allowed (data : UserCreateIn) (requested : request = .createUser data) :
    (UserService.createUser app data).Along (Allowed app request) (fun _ _ => True) trace := by
  apply createUser_along data (fun _ => trivial) (fun _ => trivial) (fun _ => trivial) (fun _ => trivial)
  · exact fun _ _ absent => .defaultRole _ absent
  · exact fun _ user roleId _ plain holds seen => .createUser user roleId plain holds seen data requested
  · exact fun _ => trivial
  · exact fun _ _ => trivial

theorem createSuperuser_allowed (email password : String)
    (requested : request = .createSuperuser email password) :
    (createSuperuser app email password).Along (Allowed app request)
      (fun _ _ => True) trace := by
  apply createSuperuser_along email password (fun _ => trivial) (fun _ => trivial) (fun _ => trivial)
  · exact fun _ user _ flag => .createSuperuser user flag email password requested
  · exact fun _ => trivial

theorem changeEmail_allowed (token : Token) (data : UserChangeEmailIn) (id : UUID4)
    (user : UserObject) (requested : request = .userEndpoint token (.changeEmail data))
    (seen : ⟨.getUser id, some user⟩ ∈ trace) :
    (UserService.changeEmail app data user).Along (Allowed app request)
      (fun _ _ => True) trace :=
  changeEmail_along data user (fun _ => trivial)
    (userUpdate_allowed id seen (.email token data requested))

theorem changePassword_allowed (token : Token) (data : UserChangePasswordIn) (id : UUID4)
    (user : UserObject) (requested : request = .userEndpoint token (.changePassword data))
    (seen : ⟨.getUser id, some user⟩ ∈ trace) :
    (UserService.changePassword app data user).Along (Allowed app request)
      (fun _ _ => True) trace :=
  changePassword_along data user (fun _ => trivial) fun _ =>
    userUpdate_allowed id (List.mem_cons_of_mem _ seen) (.password token data _ requested)

theorem userOperation_allowed (token : Token) (operation : UserOperation) (id : UUID4)
    (user : UserObject) (requested : request = .userEndpoint token operation)
    (seen : ⟨.getUser id, some user⟩ ∈ trace) :
    (operation.program app user).Along (Allowed app request) (fun _ _ => True) trace := by
  cases operation with
  | checkAccess => trivial
  | getUserInfo =>
    refine ⟨trivial, fun found => ?_⟩
    cases found <;> trivial
  | changeEmail data =>
    exact (changeEmail_allowed token data id user requested seen).bind (fun _ _ _ => trivial)
      fun _ _ _ => trivial
  | changePassword data =>
    exact (changePassword_allowed token data id user requested seen).bind (fun _ _ _ => trivial)
      fun _ _ _ => trivial
  | getLoginHistory page pageSize => exact historyPage_along trivial
  | logoutOthers =>
    exact (logoutOthers_allowed token id user requested seen).bind (fun _ _ _ => trivial)
      fun _ _ _ => trivial

/-- What a role operation issues is listed. -/
theorem allowed_of_issues {operation : RoleOperation} {call : Call}
    (requested : request.roleOperation? = some operation) (issues : operation.Issues trace call) :
    Allowed app request trace call := by
  cases issues with
  | silent _ _ silent => exact allowed_of_silent silent
  | createRole data id => exact .createRole ⟨id, data.title, data.accessLabels⟩ requested
  | removeRole roleId role seen free => exact .removeRole roleId role seen free requested
  | modifyRole roleId data role seen guarded => exact .modifyRole roleId role data seen guarded requested
  | assignRole userId roleId user role seen found =>
    exact userUpdate_allowed userId seen (.assign userId roleId role requested found)
  | strip userId user seen superuser =>
    exact userUpdate_allowed userId seen (.strip userId requested superuser)
  | defaultRole userId id absent => exact .defaultRole id absent
  | revoke userId roleId user seen saw =>
    exact userUpdate_allowed userId seen (.revoke userId roleId requested saw)

theorem roleRequest_allowed {operation : RoleOperation}
    (requested : request.roleOperation? = some operation) :
    (request.program app).Along (Allowed app request) (fun _ _ => True) [] :=
  (request.ends_role requested).mono (fun _ _ issues => allowed_of_issues requested issues)
    fun _ _ _ => trivial

theorem resolveUser_allowed (profile : YandexIdUserData) (callback : request.isCallback = true)
    (fetched : SawProfile app trace profile) :
    (YandexIdService.resolveUser app profile).Along (Allowed app request) (ResolveEnds app profile trace)
      trace := by
  apply resolveUser_along profile fun _ _ => allowed_of_silent
  · exact fun _ id absent => .defaultRole id absent
  · exact fun _ user id grown found => .link profile user id callback (fetched.mono grown) found
  · intro _ user roleId id grown plain email holds saw
    exact .newLink profile user roleId id callback (fetched.mono grown) plain email holds saw

theorem authorize_allowed (code : String) (state : UUID) (requestMeta : RequestMeta)
    (deviceInfo : DeviceInfo) (callback : request.isCallback = true)
    (presents : ∀ http, request = .confirmLoginYandex http → http.Presents app state) :
    (YandexIdService.authorize app code state requestMeta deviceInfo).Along
      (Allowed app request) (fun _ _ => True) trace := by
  refine Along.bind (consumeCachedState_along state (.consumeState state callback)) ?_ fun _ _ _ => trivial
  rintro codeVerifier _ ⟨_, rfl⟩
  refine Along.bind (exchangeCode_along code codeVerifier deviceInfo
    ⟨callback, state, trace, rfl, presents⟩) ?_ fun _ _ _ => trivial
  intro tokenData _ _
  refine Along.bind (fetchUserInfo_along tokenData.accessToken fun _ _ _ _ => trivial) ?_
    fun _ _ _ => trivial
  rintro profile _ ⟨_, fetched⟩
  refine Along.bind (resolveUser_allowed profile callback fetched) ?_ fun _ _ _ => trivial
  intro resolved _ _
  cases resolved with
  | none => exact ⟨trivial, fun _ => trivial⟩
  | some user =>
    refine Along.bind (issueTokenPair_along (fun _ => trivial) (fun _ => trivial) user) ?_
      fun _ _ _ => trivial
    intro tokens _ _
    refine Along.bind (saveLoginHistory_along (fun _ => trivial) (fun _ => trivial)
      (fun _ _ => .loginHistory _) _ _ _) ?_ ?_
    · exact fun _ _ _ => trivial
    · exact fun _ _ _ => trivial

theorem oauthLogin_allowed (http : HttpRequest) (requested : request = .oauthLogin http) :
    (oauthLogin app http).Along (Allowed app request) (fun _ _ => True) [] := by
  apply oauthLogin_along http fun _ _ => allowed_of_silent
  · exact fun _ _ _ => .count _ _
  · exact fun _ state codeVerifier => .issueState http state codeVerifier _ requested rfl

/-- The check passes only if cookie and query agree. -/
theorem validateLoginState_ok {http : HttpRequest} {state : UUID}
    (valid : validateLoginState http state = .ok ()) :
    (http.cookie? "state").bind UUID.parse = some state := by
  unfold validateLoginState at valid
  split at valid
  · cases valid
  · next raw found =>
    split at valid
    · cases valid
    · next cookieState parsed =>
      split at valid
      · next same =>
        rw [found, Option.bind_some, same]
        split at parsed
        · cases parsed
        · exact parsed
      · cases valid

theorem confirmLoginYandex_allowed (http : HttpRequest) (requested : request = .confirmLoginYandex http) :
    (confirmLoginYandex app http).Along (Allowed app request) (fun _ _ => True) trace := by
  refine along_requestIdMiddleware (q := fun _ _ => True) (fun _ => trivial) ?_
    fun _ _ _ _ => trivial
  intro later _
  refine Along.bind (rateLimitRouteByIp_along http _ fun _ _ => .count _ _) ?_
    fun _ _ _ => trivial
  intro _ _ _
  simp only
  split
  · trivial
  · next passed =>
    refine Along.bind (getOrCreateDeviceId_along http trivial) ?_ fun _ _ _ => trivial
    intro deviceId _ _
    split
    · trivial
    · refine along_withSession (fun _ => trivial) ?_
      split
      · next code state _ query =>
        have presents (other : HttpRequest) (same : request = .confirmLoginYandex other) :
            other.Presents app state := by
          rw [requested] at same
          cases same
          refine ⟨validateLoginState_ok ?_, query⟩
          cases checked : validateLoginState http state with
          | ok _ => rfl
          | error error => exact absurd (by rw [query]; simp [checked]) (passed error)
        refine Along.bind (q := fun _ _ => True) (Along.handle
          (authorize_allowed _ _ _ _ (requested ▸ rfl) presents) (fun _ _ _ => trivial)
          fun _ _ _ => trivial) (fun _ _ _ => trivial) fun _ _ _ => trivial
      · trivial

/-- Every commit of every request is one of those listed. -/
theorem Request.allowed (app : App Token) (request : Request Token) :
    (request.program app).Along (Allowed app request) (fun _ _ => True) [] := by
  cases request with
  | loginUser data requestMeta deviceInfo =>
    exact along_withSession (fun _ => trivial)
      ((loginUser_allowed data requestMeta deviceInfo).bind (fun _ _ _ => trivial)
        fun _ _ _ => trivial)
  | refreshTokens refreshToken =>
    exact along_withSession (fun _ => trivial)
      ((refreshTokens_allowed refreshToken rfl).bind (fun _ _ _ => trivial) fun _ _ _ => trivial)
  | logout refreshToken =>
    exact along_withSession (fun _ => trivial)
      ((logout_allowed refreshToken rfl).bind (fun _ _ _ => trivial) fun _ _ _ => trivial)
  | createUser data =>
    exact along_withSession (fun _ => trivial)
      ((createUser_allowed data rfl).bind (fun _ _ _ => trivial) fun _ _ _ => trivial)
  | createSuperuser email password =>
    exact along_withSession (fun _ => trivial)
      ((createSuperuser_allowed email password rfl).bind (fun _ _ _ => trivial)
        fun _ _ _ => trivial)
  | getOrCreateDefaultRole =>
    exact getOrCreateDefaultRole_allowed.bind (fun _ _ _ => trivial) fun _ _ _ => trivial
  | userEndpoint accessToken operation =>
    refine along_withSession (fun _ => trivial) ?_
    refine Along.bind (getTokenUser_along (fun _ => trivial) accessToken fun _ _ _ => trivial) ?_
      fun _ _ _ => trivial
    rintro user _ ⟨time, payload, _, _, rfl⟩
    exact userOperation_allowed accessToken operation payload.sub user rfl (by simp)
  | role operation => exact roleRequest_allowed rfl
  | roleEndpoint accessToken operation => exact roleRequest_allowed rfl
  | authorize code state requestMeta deviceInfo =>
    exact along_withSession (fun _ => trivial)
      ((authorize_allowed code state requestMeta deviceInfo rfl (by simp)).bind (fun _ _ _ => trivial)
        fun _ _ _ => trivial)
  | oauthLogin http =>
    exact (oauthLogin_allowed http rfl).bind (fun _ _ _ => trivial) fun _ _ _ => trivial
  | confirmLoginYandex http =>
    exact (confirmLoginYandex_allowed http rfl).bind (fun _ _ _ => trivial) fun _ _ _ => trivial

end Programs

end AuthApi
