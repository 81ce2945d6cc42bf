import AuthApi.Run.Commits

/-! # The calls on what requests share

Which Redis keys the service names, and what it commits in the session of the default role, for any
specification that admits these calls. The keys are the counters of the limiter, the blacklist of the refresh
tokens and the login states of the provider.
-/

namespace AuthApi

open Interleaving Interleaving.Program DbHelpers AuthService YandexIdService

/-- The call is no Redis command and no commit in the session of the default role. -/
def Call.isOrdinary : Call → Bool
  | .commit .defaultRole _ => false
  | .redisGet _ => false
  | .redisSetex _ _ _ => false
  | .redisGetdel _ => false
  | .redisIncrWithTtl _ _ => false
  | _ => true

section Calls

variable {Token : Type} (app : App Token)

/-- The specification admits every such call that the service issues, and all other calls. -/
structure AdmitsShared (spec : Call → Prop) : Prop where
  silent : ∀ call, call.isOrdinary = true → spec call
  inserts : ∀ id, spec (.commit .defaultRole
    [.insertRole ⟨id, DEFAULT_ROLE_TITLE, DEFAULT_ROLE_ACCESS_LABELS⟩])
  counts : ∀ identity windowMs, spec (.redisIncrWithTtl
    (rateLimitKey app.rateLimitSettings (ipPerRouteRule app.rateLimitSettings) identity) windowMs)
  looksUp : ∀ jti : UUID4, spec (.redisGet (blacklistKey jti.val.str))
  revokes : ∀ (jti : UUID4) ttl, spec (.redisSetex (blacklistKey jti.val.str) ttl (.text "true"))
  issues : ∀ state ttl verifier, spec (.redisSetex (stateCacheKey state) ttl (.codeVerifier verifier))
  consumes : ∀ state, spec (.redisGetdel (stateCacheKey state))

variable {app} {spec : Call → Prop} {trace : Trace Reply} (admits : AdmitsShared app spec)
include admits

theorem AdmitsShared.of_silent {call : Call} (silent : call.isSilent = true) : spec call := by
  apply admits.silent
  cases call <;> first | rfl | cases silent

theorem AdmitsShared.loginUser (data : UserLoginData) (requestMeta : RequestMeta)
    (deviceInfo : Option DeviceInfo) :
    (AuthService.loginUser app data requestMeta deviceInfo).Along (fun _ => spec) (fun _ _ => True) trace :=
  loginUser_along data requestMeta deviceInfo (fun _ _ => admits.of_silent) fun _ _ => admits.silent _ rfl

theorem AdmitsShared.getOrCreateDefaultRole :
    DbHelpers.getOrCreateDefaultRole.Along (fun _ => spec) (fun _ _ => True) trace := by
  apply (getOrCreateDefaultRole_along (fun _ => admits.silent _ rfl) (fun _ => admits.silent _ rfl)
    fun _ id _ => admits.inserts id).mono
  · exact fun _ _ admitted => admitted
  · exact fun _ _ _ => trivial

theorem AdmitsShared.userOperation (operation : UserOperation) (user : UserObject) :
    (operation.program app user).Along (fun _ => spec) (fun _ _ => True) trace :=
  userOperation_along operation user (fun _ _ => admits.of_silent) fun _ _ => admits.silent _ rfl

theorem AdmitsShared.roleRequest {request : Request Token} {operation : RoleOperation}
    (requested : request.roleOperation? = some operation) :
    (request.program app).Along (fun _ => spec) (fun _ _ => True) [] := by
  apply (request.ends_role requested).mono
  · intro later call issues
    cases issues with
    | silent _ _ silent => exact admits.of_silent silent
    | defaultRole userId id absent => exact admits.inserts id
    | _ => exact admits.silent _ rfl
  · exact fun _ _ _ => trivial

theorem AdmitsShared.resolveUser (profile : YandexIdUserData) :
    (YandexIdService.resolveUser app profile).Along (fun _ => spec) (ResolveEnds app profile trace) trace :=
  resolveUser_along profile (fun _ _ => admits.of_silent)
    (fun _ id _ => admits.inserts id) (fun _ _ _ _ _ => admits.silent _ rfl)
    fun _ _ _ _ _ _ _ _ _ => admits.silent _ rfl

theorem AdmitsShared.authorize (code : String) (state : UUID) (requestMeta : RequestMeta)
    (deviceInfo : DeviceInfo) :
    (YandexIdService.authorize app code state requestMeta deviceInfo).Along (fun _ => spec)
      (fun _ _ => True) trace := by
  refine Along.bind (consumeCachedState_along state (admits.consumes state)) ?_ fun _ _ _ => trivial
  intro codeVerifier _ _
  refine Along.bind (exchangeCode_along code codeVerifier deviceInfo (admits.silent _ rfl)) ?_
    fun _ _ _ => trivial
  intro tokenData _ _
  refine Along.bind (fetchUserInfo_along tokenData.accessToken fun _ _ _ _ => admits.silent _ rfl) ?_
    fun _ _ _ => trivial
  intro profile _ _
  refine Along.bind (admits.resolveUser profile) ?_ fun _ _ _ => trivial
  intro resolved _ _
  cases resolved with
  | none => exact ⟨admits.silent _ rfl, fun _ => trivial⟩
  | some user =>
    refine Along.bind (issueTokenPair_along (fun _ => admits.silent _ rfl) (fun _ => admits.silent _ rfl)
      user) ?_ fun _ _ _ => trivial
    intro tokens _ _
    exact Along.bind (saveLoginHistory_along (fun _ => admits.silent _ rfl) (fun _ => admits.silent _ rfl)
      (fun _ _ => admits.silent _ rfl) _ _ _) (fun _ _ _ => trivial) fun _ _ _ => trivial

theorem AdmitsShared.oauthLogin (http : HttpRequest) :
    (AuthApi.oauthLogin app http).Along (fun _ => spec) (fun _ _ => True) trace :=
  oauthLogin_along http (fun _ _ => admits.of_silent) (fun _ _ _ => admits.counts _ _)
    fun _ _ _ => admits.issues _ _ _

theorem AdmitsShared.confirmLoginYandex (http : HttpRequest) :
    (AuthApi.confirmLoginYandex app http).Along (fun _ => spec) (fun _ _ => True) trace := by
  refine along_requestIdMiddleware (q := fun _ _ => True) (fun _ => admits.silent _ rfl) ?_
    fun _ _ _ _ => trivial
  intro later _
  refine Along.bind (rateLimitRouteByIp_along http _ fun _ _ => admits.counts _ _) ?_ fun _ _ _ => trivial
  intro _ _ _
  simp only
  split
  · trivial
  · refine Along.bind (getOrCreateDeviceId_along http (admits.silent _ rfl)) ?_ fun _ _ _ => trivial
    intro deviceId _ _
    split
    · trivial
    · apply along_withSession fun _ => admits.silent _ rfl
      split
      · exact Along.bind (q := fun _ _ => True) (Along.handle (admits.authorize _ _ _ _)
          (fun _ _ _ => trivial) fun _ _ _ => trivial) (fun _ _ _ => trivial) fun _ _ _ => trivial
      · trivial

/-- Every request issues admitted calls only. -/
theorem Request.shared_calls (request : Request Token) :
    (request.program app).Along (fun _ => spec) (fun _ _ => True) [] := by
  have session {α : Type} {trace : Trace Reply} {body : Action α} {result : α → Outcome Token}
      (along : body.Along (fun _ => spec) (fun _ _ => True) trace) :
      (withSession do return result (← body)).Along (fun _ => spec) (fun _ _ => True) trace :=
    along_withSession (fun _ => admits.silent _ rfl)
      (Along.bind along (fun _ _ _ => trivial) fun _ _ _ => trivial)
  cases request with
  | loginUser data requestMeta deviceInfo => exact session (admits.loginUser data requestMeta deviceInfo)
  | refreshTokens token =>
    exact session (refreshTokens_along (fun _ => admits.silent _ rfl) (fun _ => admits.silent _ rfl)
      (fun _ claims _ => admits.looksUp claims.jti) (fun _ _ _ => admits.silent _ rfl)
      fun _ claims _ ttl _ _ _ _ => admits.revokes claims.jti ttl)
  | logout token =>
    exact session (logout_along (fun _ => admits.silent _ rfl)
      fun _ claims _ ttl _ _ _ _ => admits.revokes claims.jti ttl)
  | createUser data =>
    exact session (createUser_along data (fun _ => admits.silent _ rfl) (fun _ => admits.silent _ rfl)
      (fun _ => admits.silent _ rfl) (fun _ => admits.silent _ rfl) (fun _ id _ => admits.inserts id)
      (fun _ _ _ _ _ _ _ => admits.silent _ rfl) (fun _ => admits.silent _ rfl)
      fun _ _ => admits.silent _ rfl)
  | createSuperuser email password =>
    exact session (createSuperuser_along email password (fun _ => admits.silent _ rfl)
      (fun _ => admits.silent _ rfl) (fun _ => admits.silent _ rfl) (fun _ _ _ _ => admits.silent _ rfl)
      fun _ => admits.silent _ rfl)
  | getOrCreateDefaultRole =>
    exact Along.bind admits.getOrCreateDefaultRole (fun _ _ _ => trivial) fun _ _ _ => trivial
  | userEndpoint token operation =>
    apply along_withSession fun _ => admits.silent _ rfl
    apply Along.bind (getTokenUser_along (fun _ => admits.silent _ rfl) token
      fun _ _ _ => admits.silent _ rfl)
    · exact fun user _ _ => admits.userOperation operation user
    · exact fun _ _ _ => trivial
  | role operation => exact admits.roleRequest rfl
  | roleEndpoint token operation => exact admits.roleRequest rfl
  | authorize code state requestMeta deviceInfo =>
    exact session (admits.authorize code state requestMeta deviceInfo)
  | oauthLogin http =>
    exact Along.bind (admits.oauthLogin http) (fun _ _ _ => trivial) fun _ _ _ => trivial
  | confirmLoginYandex http =>
    exact Along.bind (admits.confirmLoginYandex http) (fun _ _ _ => trivial) fun _ _ _ => trivial

end Calls

/-- The session of the default role commits one insertion of it. -/
def Call.InsertsDefaultRole (call : Call) : Prop :=
  ∀ writes, call = .commit .defaultRole writes →
    ∃ id, writes = [.insertRole ⟨id, DEFAULT_ROLE_TITLE, DEFAULT_ROLE_ACCESS_LABELS⟩]

theorem admitsShared_insertsDefaultRole {Token : Type} (app : App Token) :
    AdmitsShared app Call.InsertsDefaultRole where
  silent call ordinary writes same := by
    rw [same] at ordinary
    cases ordinary
  inserts id writes same := by
    cases same
    exact ⟨id, rfl⟩
  counts _ _ _ same := by cases same
  looksUp _ _ same := by cases same
  revokes _ _ _ same := by cases same
  issues _ _ _ _ same := by cases same
  consumes _ _ same := by cases same

end AuthApi
