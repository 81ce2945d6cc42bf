import AuthApi.Run.ApiRoutes

/-! # Every route and its service

Each of the routes opens the services that `ApiRequest.Asks` lists, and turns away what `ApiRequest.TurnedAway`
lists (`ApiRequest.opens`).
-/

namespace AuthApi

open Interleaving Interleaving.Program Dependencies

variable {Token : Type} {app : App Token}

section Shared

variable {trace : Trace Reply}

theorem Call.isShared_of_silent {call : Call} (silent : call.isSilent = true) : call.IsShared := by
  cases call with
  | redisGet key => cases silent
  | redisSetex key ttl value => cases silent
  | redisGetdel key => cases silent
  | redisIncrWithTtl key windowMs => cases silent
  | _ => trivial

theorem loginUser_shared (data : UserLoginData) (requestMeta : RequestMeta) (deviceInfo : Option DeviceInfo) :
    (AuthService.loginUser app data requestMeta deviceInfo).Along (fun _ => Call.IsShared)
      (fun _ _ => True) trace :=
  loginUser_along data requestMeta deviceInfo (fun _ _ => Call.isShared_of_silent) fun _ _ => trivial

theorem refreshTokens_shared (token : Token) :
    (AuthService.refreshTokens app token).Along (fun _ => Call.IsShared) (fun _ _ => True) trace := by
  apply refreshTokens_along (fun _ => trivial) (fun _ => trivial)
  · exact fun _ claims _ => underscore_not_mem_blacklistKey claims.jti
  · exact fun _ _ _ => trivial
  · exact fun _ claims _ _ _ _ _ _ => underscore_not_mem_blacklistKey claims.jti

theorem logout_shared (token : Token) :
    (AuthService.logout app token).Along (fun _ => Call.IsShared) (fun _ _ => True) trace :=
  logout_along (fun _ => trivial) fun _ claims _ _ _ _ _ _ => underscore_not_mem_blacklistKey claims.jti

theorem logoutOthers_shared (user : UserObject) (trace : Trace Reply) :
    (AuthService.logoutOthers app user).Along (fun _ => Call.IsShared) (fun _ _ => True) trace :=
  logoutOthers_along user (fun _ => trivial) (fun _ => trivial) (fun _ => trivial) trivial

theorem changeEmail_shared (data : UserChangeEmailIn) (user : UserObject) (trace : Trace Reply) :
    (UserService.changeEmail app data user).Along (fun _ => Call.IsShared) (fun _ _ => True) trace :=
  changeEmail_along data user (fun _ => trivial) trivial

theorem changePassword_shared (data : UserChangePasswordIn) (user : UserObject) (trace : Trace Reply) :
    (UserService.changePassword app data user).Along (fun _ => Call.IsShared) (fun _ _ => True) trace :=
  changePassword_along data user (fun _ => trivial) fun _ => trivial

theorem getUserInfo_shared (user : UserObject) (trace : Trace Reply) :
    (UserService.getUserInfo user).Along (fun _ => Call.IsShared) (fun _ _ => True) trace := by
  refine ⟨trivial, fun found => ?_⟩
  cases found <;> trivial

theorem getLoginHistory_shared (user : UserObject) (page pageSize : ℕ) :
    (UserService.getLoginHistory user.id page pageSize).Along (fun _ => Call.IsShared)
      (fun _ _ => True) trace := getLoginHistory_along trivial

theorem createUser_shared (data : UserCreateIn) :
    (UserService.createUser app data).Along (fun _ => Call.IsShared) (fun _ _ => True) trace :=
  createUser_along data (fun _ => trivial) (fun _ => trivial) (fun _ => trivial) (fun _ => trivial)
    (fun _ _ _ => trivial) (fun _ _ _ _ _ _ _ => trivial) (fun _ => trivial) fun _ _ => trivial

theorem ensureSuperuser_shared (accessToken : Token) :
    (ensureSuperuser app accessToken).Along (fun _ => Call.IsShared) (fun _ outcome => ∀ error,
      outcome = .error error → ∃ detail, error = .httpException (credentialsHttpException detail)) [] := by
  have gate := @ensureSuperuser_along _ app [] (fun _ => Call.IsShared) (fun _ => trivial) accessToken
  apply gate.mono
  · exact fun _ _ issued => issued
  · rintro _ _ ⟨time, rfl, refusal⟩ error rfl
    exact refusal.2

theorem roleOperation_shared (operation : RoleOperation) :
    (operation.program app).Along (fun _ => Call.IsShared) (fun _ _ => True) [] := by
  apply (operation.ends (by simp [RoleOperation.Quiet])).mono
  · intro later call issues
    cases issues with
    | silent _ _ silent => exact Call.isShared_of_silent silent
    | _ => trivial
  · exact fun _ _ _ => trivial

theorem buildLoginRedirect_shared (state : UUID) :
    (YandexIdService.buildLoginRedirect app state).Along (fun _ => Call.IsShared) (fun _ _ => True) trace := by
  refine ⟨trivial, fun codeVerifier => ?_⟩
  simp only [done_bind]
  cases YandexIdService.buildLoginParams app state codeVerifier with
  | error error => trivial
  | ok loginParams =>
    refine ⟨underscore_not_mem_stateCacheKey state, fun reply => ?_⟩
    cases reply <;> trivial

theorem authorize_shared (code : String) (state : UUID) (requestMeta : RequestMeta) (deviceInfo : DeviceInfo) :
    (YandexIdService.authorize app code state requestMeta deviceInfo).Along (fun _ => Call.IsShared)
      (fun _ _ => True) trace := by
  refine Along.bind (consumeCachedState_along state (underscore_not_mem_stateCacheKey state)) ?_
    fun _ _ _ => trivial
  intro codeVerifier _ _
  refine Along.bind (exchangeCode_along code codeVerifier deviceInfo trivial) ?_ fun _ _ _ => trivial
  intro tokenData _ _
  refine Along.bind (fetchUserInfo_along tokenData.accessToken fun _ _ _ _ => trivial) ?_ fun _ _ _ => trivial
  intro profile _ _
  refine Along.bind (resolveUser_along profile (fun _ _ => Call.isShared_of_silent) (fun _ _ _ => trivial)
    (fun _ _ _ _ _ => trivial) fun _ _ _ _ _ _ _ _ _ => trivial) ?_ fun _ _ _ => trivial
  intro resolved _ _
  cases resolved with
  | none => exact ⟨trivial, fun _ => trivial⟩
  | some user =>
    refine Along.bind (issueTokenPair_along (fun _ => trivial) (fun _ => trivial) user) ?_ fun _ _ _ => trivial
    intro tokens _ _
    exact Along.bind (saveLoginHistory_along (fun _ => trivial) (fun _ => trivial) (fun _ _ => trivial) _ _ _)
      (fun _ _ _ => trivial) fun _ _ _ => trivial

end Shared

section Bare

open ApiRequest

theorem bare_bind {α : Type} (body : Action α) (rest : α → Action (HttpResponse Token)) :
    bare (body.bind rest) = body.bind fun value => bare (rest value) := bind_bind _ _ _

theorem bare_withSession (body : Action (HttpResponse Token)) :
    bare (withSession body) = withSession (bare body) := withSession_map body _

/-- A request in one session, and what the service makes of it. -/
theorem service_served {γ : Type} (program : Action γ) (wrap : γ → Outcome Token) :
    ((withSession (program.bind fun value => .done (wrap value))).bind fun outcome =>
        .done (ServiceResult.outcome outcome)) =
      withSession (program.finish fun outcome => ended (outcome.map fun value => .outcome (wrap value))) := by
  rw [withSession_map, bind_bind]
  exact congrArg withSession (map_eq_finish program fun value => ServiceResult.outcome (wrap value))

end Bare

section Routes

variable {request : ApiRequest Token}

/-- A request has its device unless its cookie holds an id that `DeviceInfo` does not admit. -/
theorem device_opens {http : HttpRequest} (own : request.http = http) (reads : request.readsDevice = true)
    {after : UUID → Action (ApiResponse Token)}
    (refused : ∀ deviceId error, getDeviceInfo app deviceId (getRequestMeta app http) = .error error →
      after deviceId = .raise error)
    (opens : ∀ deviceId deviceInfo, getDeviceInfo app deviceId (getRequestMeta app http) = .ok deviceInfo →
      RouteOpens app request (after deviceId)) :
    RouteOpens app request ((getOrCreateDeviceId http).bind after) := by
  have draws : (getOrCreateDeviceId http).Along (fun _ => Call.IsHidden app)
      (fun _ outcome => ∃ deviceId : UUID, outcome = .ok deviceId ∧ (deviceId.toUUID4 = none →
        (http.cookie? "device_id").bind UUID.parse = some deviceId)) [] := by
    have fresh (id : UUID4) : ∃ deviceId : UUID, (.ok id.val : Except Exn UUID) = .ok deviceId ∧
        (deviceId.toUUID4 = none → (http.cookie? "device_id").bind UUID.parse = some deviceId) := by
      refine ⟨_, rfl, fun other => ?_⟩
      rw [id.toUUID4_val] at other
      cases other
    unfold getOrCreateDeviceId
    split
    · exact ⟨.inl rfl, fresh⟩
    · next raw sent =>
      split
      · exact ⟨.inl rfl, fresh⟩
      · split
        · next deviceId parsed => exact ⟨deviceId, rfl, fun _ => by rw [sent, Option.bind_some, parsed]⟩
        · exact ⟨.inl rfl, fresh⟩
  rw [bind_eq_finish]
  refine Opens.of_along draws ?_
  rintro _ _ ⟨deviceId, rfl, sent⟩
  simp only
  cases made : getDeviceInfo app deviceId (getRequestMeta app http) with
  | ok deviceInfo => exact opens deviceId deviceInfo made
  | error error =>
    rw [refused deviceId error made]
    unfold getDeviceInfo at made
    split at made
    · cases made
    · next other =>
      cases made
      exact turnedAway_opens (.badDevice deviceId reads (own ▸ sent other) other)

theorem issueTokens_opens (http : HttpRequest) (body : RequestBody UserLoginData) :
    ProgramOpens app (.issueTokens http body) ((ApiRequest.issueTokens http body).program app) := by
  refine receiving_opens rfl rfl ?_
  intro data read
  unfold issueTokens
  rw [bare_requestIdMiddleware]
  refine middleware_opens rfl ?_
  simp only [bind_eq, bare_bind]
  apply limited_opens rfl
  apply @device_opens Token app (.issueTokens http body) http rfl rfl
  · intro deviceId error failed
    simp only [failed]
    rfl
  · intro deviceId deviceInfo made
    simp only [made, bare_withSession]
    cases data with
    | none => exact idle_opens rfl
    | some loginData =>
      have asked : body = .data loginData := by
        cases body <;> cases read
        rfl
      subst asked
      have asks : ApiRequest.Asks app (.issueTokens http (.data loginData))
          (.request (.loginUser loginData (getRequestMeta app http) (some deviceInfo))) :=
        .issueTokens http loginData deviceInfo ⟨deviceId, made⟩
      apply session_opens asks rfl (loginUser_shared loginData _ _) (service_served _ .tokens)
      congr 1
      unfold ApiRequest.bare
      simp only [bind_eq, tryCatch_eq, bind_eq_finish, handle_eq_finish, finish_finish]
      congr 1
      funext outcome
      cases outcome with
      | ok tokens => rfl
      | error error => cases error <;> rfl

/-- A body that has been read is valid or not. -/
theorem RequestBody.read_eq_some {α : Type} {body : RequestBody α} {value : α}
    (read : body.read = .ok (some value)) : body = .data value := by
  cases body <;> cases read
  rfl

/-- Without its cookie a route that needs a refresh token turns the request away. -/
theorem refreshCookie_opens {http : HttpRequest} {refreshCookie : Option Token}
    (turnsAway : refreshCookie = none → request = .refreshTokens http none ∨ request = .logout http none)
    {rest : Token → Action (ApiResponse Token)}
    (opens : ∀ refreshToken, refreshCookie = some refreshToken → RouteOpens app request (rest refreshToken)) :
    RouteOpens app request ((RoutesAuth.getRefreshToken refreshCookie).bind rest) := by
  cases refreshCookie with
  | none => exact turnedAway_opens (.noRefreshCookie http (turnsAway rfl))
  | some refreshToken => exact opens refreshToken rfl

theorem refreshTokens_opens (http : HttpRequest) (refreshCookie : Option Token) :
    ProgramOpens app (.refreshTokens http refreshCookie)
      ((ApiRequest.refreshTokens http refreshCookie).program app) := by
  change ProgramOpens app _ (ApiRequest.bare (RoutesAuth.refreshTokens app http refreshCookie))
  unfold RoutesAuth.refreshTokens
  rw [bare_requestIdMiddleware]
  refine middleware_opens rfl ?_
  simp only [bind_eq, bare_bind]
  apply limited_opens rfl
  refine @refreshCookie_opens _ app (.refreshTokens http refreshCookie) http refreshCookie
    (fun missing => .inl (by rw [missing])) _ ?_
  intro refreshToken presented
  subst presented
  rw [bare_withSession]
  apply session_opens (.refreshTokens http refreshToken) rfl (refreshTokens_shared refreshToken)
    (service_served _ .tokens)
  congr 1
  unfold ApiRequest.bare
  simp only [bind_eq, raising_eq_finish, bind_eq_finish, finish_finish]
  congr 1
  funext outcome
  cases outcome <;> rfl

theorem logout_opens (http : HttpRequest) (refreshCookie : Option Token) :
    ProgramOpens app (.logout http refreshCookie) ((ApiRequest.logout http refreshCookie).program app) := by
  change ProgramOpens app _ (ApiRequest.bare (RoutesAuth.logout app http refreshCookie))
  unfold RoutesAuth.logout
  rw [bare_requestIdMiddleware]
  refine middleware_opens rfl ?_
  simp only [bind_eq, bare_bind]
  apply limited_opens rfl
  refine @refreshCookie_opens _ app (.logout http refreshCookie) http refreshCookie
    (fun missing => .inr (by rw [missing])) _ ?_
  intro refreshToken presented
  subst presented
  rw [bare_withSession]
  apply session_opens (.logout http refreshToken) rfl (logout_shared refreshToken)
    (service_served _ fun _ => .unit)
  congr 1
  unfold ApiRequest.bare
  simp only [bind_eq, raising_eq_finish, bind_eq_finish, finish_finish]
  congr 1
  funext outcome
  cases outcome <;> rfl

theorem createUser_opens (http : HttpRequest) (body : RequestBody UserCreateIn) :
    ProgramOpens app (.createUser http body) ((ApiRequest.createUser http body).program app) := by
  refine receiving_opens rfl rfl ?_
  intro data read
  refine middleware_opens rfl ?_
  apply limited_opens rfl
  cases data with
  | none => exact idle_opens rfl
  | some userData =>
    rw [RequestBody.read_eq_some read]
    apply session_opens (.createUser http userData) rfl (createUser_shared userData) (service_served _ .user)
    congr 1
    simp only [bind_eq, raising_eq_finish, bind_eq_finish, finish_finish]
    congr 1
    funext outcome
    cases outcome with
    | error error => rfl
    | ok user =>
      change _ = ended ((RoutesUser.UserCreateOut.modelValidate app user).map _)
      dsimp only [Except.mapError, ended, finish]
      cases RoutesUser.UserCreateOut.modelValidate app user <;> rfl

theorem oauthLogin_opens (http : HttpRequest) :
    ProgramOpens app (.oauthLogin http) ((ApiRequest.oauthLogin http).program app) := by
  change ProgramOpens app _ (ApiRequest.bare (AuthApi.oauthLogin app http))
  unfold AuthApi.oauthLogin
  rw [bare_requestIdMiddleware]
  refine middleware_opens rfl ?_
  simp only [bind_eq, bare_bind]
  apply limited_opens rfl
  refine .hide (.inl rfl) fun state => ?_
  simp only [done_bind, bare_withSession]
  apply session_opens (.oauthLogin http state) rfl (buildLoginRedirect_shared state.val)
  · exact congrArg withSession (map_eq_finish _ ServiceResult.redirect)
  · congr 1
    unfold ApiRequest.bare
    simp only [bind_eq, tryCatch_eq, bind_eq_finish, handle_eq_finish, finish_finish]
    congr 1
    funext outcome
    cases outcome with
    | ok url => rfl
    | error error => cases error <;> rfl

theorem logoutOthers_opens (http : HttpRequest) (credentials : AuthorizationCredentials Token) :
    ProgramOpens app (.logoutOthers http credentials) ((ApiRequest.logoutOthers http credentials).program app) := by
  change ProgramOpens app _ (ApiRequest.bare (RoutesAuth.logoutOthers app http credentials))
  unfold RoutesAuth.logoutOthers
  rw [bare_requestIdMiddleware]
  refine middleware_opens rfl ?_
  simp only [bind_eq, bare_bind, bare_withSession]
  apply limited_opens rfl
  apply authenticate_opens rfl
  intro accessToken presented
  subst presented
  apply ownAccount_opens (.logoutOthers http accessToken) (fun _ => rfl) rfl (AuthService.logoutOthers app) .tokens
    logoutOthers_shared (fun _ => rfl)
  intro user
  rw [bind_eq_finish]
  congr 1
  funext outcome
  cases outcome <;> rfl

theorem userInfo_opens (http : HttpRequest) (credentials : AuthorizationCredentials Token) :
    ProgramOpens app (.userInfo http credentials) ((ApiRequest.userInfo http credentials).program app) := by
  refine middleware_opens rfl ?_
  apply authenticate_opens rfl
  intro accessToken presented
  subst presented
  apply ownAccount_opens (.userInfo http accessToken) (fun _ => rfl) rfl UserService.getUserInfo .user
    getUserInfo_shared (fun _ => rfl)
  intro user
  simp only [bind_eq, raising_eq_finish, bind_eq_finish, finish_finish]
  congr 1
  funext outcome
  cases outcome with
  | error error => rfl
  | ok found =>
    change _ = ended ((RoutesUser.UserReadOut.modelValidate app found).map _)
    dsimp only [Except.mapError, ended, finish]
    cases RoutesUser.UserReadOut.modelValidate app found <;> rfl

theorem getLoginHistory_opens (http : HttpRequest) (credentials : AuthorizationCredentials Token) :
    ProgramOpens app (.getLoginHistory http credentials)
      ((ApiRequest.getLoginHistory http credentials).program app) := by
  refine middleware_opens rfl ?_
  apply authenticate_opens rfl
  intro accessToken presented
  subst presented
  cases paged : RoutesUser.boundedParam app http "page" 1 none with
  | none => exact checkAccess_opens rfl rfl (fun _ => rfl) _
  | some page =>
    cases sized : RoutesUser.boundedParam app http "page_size" 10 (some 100) with
    | none => exact checkAccess_opens rfl rfl (fun _ => rfl) _
    | some pageSize =>
      apply ownAccount_opens (.getLoginHistory http accessToken page pageSize paged sized)
        (fun _ => rfl) rfl (fun user => UserService.getLoginHistory user.id page pageSize) .loginHistory
        (fun user _ => getLoginHistory_shared user page pageSize) (fun _ => rfl)
      intro user
      simp only [bind_eq, bind_eq_finish]
      congr 1
      funext outcome
      cases outcome <;> rfl

/-- A route that changes the own account: the body and the credentials come first. -/
theorem ownAccountRoute_opens {Body : Type} {http : HttpRequest} {credentials : AuthorizationCredentials Token}
    {body : RequestBody Body} {change : Body → UserObject → Action Unit} {operation : Body → UserOperation}
    (own : request.http = http) (same : request.unreadable? = body.unreadable?)
    (validates : request.validates = true) (presented : request.credentials? = some credentials)
    (asked : ∀ accessToken data, credentials = .bearer accessToken → body = .data data →
      request.Asks app (.request (.userEndpoint accessToken (operation data))))
    (gate : ∀ exception, request.translate (.httpException exception) = .httpException exception)
    (something : ∀ (accessToken : Token) data,
      (Service.request (.userEndpoint accessToken (operation data))).asksNothing = false)
    (answers : ∀ service result, request.answer app service result =
      .ok { status := 200, headers := [], body := .empty })
    (along : ∀ data user trace, (change data user).Along (fun _ => Call.IsShared) (fun _ _ => True) trace)
    (served : ∀ data user, (operation data).program app user = (change data user).bind fun _ => .done .unit) :
    ProgramOpens app request (ApiRequest.receiving app http body fun data =>
      ApiRequest.withCredentials app http credentials fun token =>
        ownAccountRoute app http token data change request.translate) := by
  refine receiving_opens own same ?_
  intro data read
  cases credentials with
  | otherScheme =>
    refine middleware_opens own ?_
    refine turnedAway_opens (.unauthenticated _ presented ?_ "Invalid authentication credentials")
    intro accessToken same
    cases same
  | missing =>
    change ProgramOpens app request (ApiRequest.bare (requestIdMiddleware app http _))
    rw [bare_requestIdMiddleware]
    refine middleware_opens own ?_
    refine turnedAway_opens (.unauthenticated _ presented ?_ "Not authenticated")
    intro accessToken same
    cases same
  | bearer accessToken =>
    change ProgramOpens app request (ApiRequest.bare (requestIdMiddleware app http _))
    rw [bare_requestIdMiddleware]
    refine middleware_opens own ?_
    simp only [httpBearer, pure_eq, bind_eq, done_bind, bare_withSession, bare_bind]
    cases data with
    | none => exact checkAccess_opens validates presented gate ["body"]
    | some data =>
      apply ownAccount_opens (asked accessToken data rfl (RequestBody.read_eq_some read)) gate
        (something accessToken data) (change data) (fun _ => .unit) (along data) (served data)
      intro user
      unfold ApiRequest.bare
      simp only [bind_eq, tryCatch_eq, bind_eq_finish, handle_eq_finish, finish_finish]
      congr 1
      funext outcome
      cases outcome with
      | ok value => exact (congrArg ended (answers _ _)).symm
      | error error => rfl

theorem changeEmail_opens (http : HttpRequest) (credentials : AuthorizationCredentials Token)
    (body : RequestBody UserChangeEmailIn) :
    ProgramOpens app (.changeEmail http credentials body)
      ((ApiRequest.changeEmail http credentials body).program app) := by
  apply @ownAccountRoute_opens _ app (.changeEmail http credentials body) _ http credentials body
    (UserService.changeEmail app) .changeEmail rfl rfl rfl rfl
  · intro accessToken data presented read
    subst presented read
    exact .changeEmail http accessToken data
  · exact fun _ => rfl
  · exact fun _ _ => rfl
  · exact fun _ _ => rfl
  · exact changeEmail_shared
  · exact fun _ _ => rfl

theorem changePassword_opens (http : HttpRequest) (credentials : AuthorizationCredentials Token)
    (body : RequestBody UserChangePasswordIn) :
    ProgramOpens app (.changePassword http credentials body)
      ((ApiRequest.changePassword http credentials body).program app) := by
  apply @ownAccountRoute_opens _ app (.changePassword http credentials body) _ http credentials body
    (UserService.changePassword app) .changePassword rfl rfl rfl rfl
  · intro accessToken data presented read
    subst presented read
    exact .changePassword http accessToken data
  · exact fun _ => rfl
  · exact fun _ _ => rfl
  · exact fun _ _ => rfl
  · exact changePassword_shared
  · exact fun _ _ => rfl

/-- A route behind `ensure_superuser`. -/
theorem behindGate_opens {http : HttpRequest} (own : request.http = http) {credentials : AuthorizationCredentials Token}
    {operation : Except (List String) RoleOperation} (presented : request.credentials? = some credentials)
    (gate : ∀ exception, request.translate (.httpException exception) = .httpException exception)
    (invalid : ∀ params, operation = .error params → request.validates = true)
    (asks : ∀ valid, operation = .ok valid → request.roleOperation? app = some valid)
    (translates : ∀ valid, operation = .ok valid → request.translate = valid.routeError)
    (answers : ∀ accessToken valid outcome, request.answer app (.request (.roleEndpoint accessToken valid))
      (.outcome outcome) = .ok (RoutesRole.answered outcome)) :
    ProgramOpens app request (RoutesRole.behindGate app http credentials operation) := by
  refine middleware_opens own ?_
  apply authenticate_opens presented
  intro accessToken bearer
  subst bearer
  -- what the gate raises is answered as it is
  have refused {service : Service Token} {error : Exn}
      (status : ∃ detail, error = .httpException (credentialsHttpException detail)) :
      Mirrors (Call.IsHidden app) Call.IsShared (fun outcome image => request.Replies app service image outcome)
        (.raise error : Action (ApiResponse Token)) (.raise error : Action (ServiceResult Token)) := by
    obtain ⟨detail, rfl⟩ := status
    have failed : request.Replies app service (.error (.httpException (credentialsHttpException detail)))
        (.error (request.translate (.httpException (credentialsHttpException detail)))) := .failed _
    rw [gate] at failed
    exact @Mirrors.done _ _ _ _ _ Reply _ _ _ (.error _) (.error _) failed
  cases operation with
  | error params =>
    refine .opens (.gate accessToken) (.gate request accessToken (invalid params rfl) presented) ?_
    simp only [bind_eq, Service.program]
    rw [bind_eq_finish, bind_eq_finish]
    apply Mirrors.of_along (ensureSuperuser_shared accessToken)
    intro later outcome refusal
    cases outcome with
    | error error => exact refused (refusal error rfl)
    | ok value =>
      exact @session_refines Token app _ _ _
        (fun outcome image => request.Replies app (.gate accessToken) image outcome) (.done ())
        (fun _ => .error (.requestValidationError params)) (fun _ => .ok (.outcome .unit)) [] trivial
        fun _ => .invalid rfl _ params
  | ok valid =>
    refine .opens (.request (.roleEndpoint accessToken valid))
      (.role request accessToken valid presented (asks valid rfl)) ?_
    have program : (Service.request (.roleEndpoint accessToken valid)).program app =
        (ensureSuperuser app accessToken).bind fun _ => withSession ((valid.program app).finish fun outcome =>
          ended (outcome.map ServiceResult.outcome)) := by
      change ((ensureSuperuser app accessToken).bind fun _ => withSession (valid.program app)).bind _ = _
      rw [bind_bind]
      congr 1
      funext _
      exact (withSession_map _ _).trans (congrArg withSession (map_eq_finish _ _))
    have shape : ((valid.route app).bind fun outcome => .done (RoutesRole.answered outcome)) =
        ((valid.program app).finish fun outcome =>
          ended (routed app request (.request (.roleEndpoint accessToken valid)) .outcome outcome)) := by
      rw [RoleOperation.route_eq]
      simp only [raising_eq_finish, bind_eq_finish, finish_finish]
      congr 1
      funext outcome
      cases outcome with
      | ok outcome => exact (congrArg ended (answers _ _ _)).symm
      | error error => exact congrArg (fun translate => ended (.error (translate error))) (translates valid rfl).symm
    simp only [program, bind_eq, pure_eq, shape]
    rw [bind_eq_finish, bind_eq_finish]
    apply Mirrors.of_along (ensureSuperuser_shared accessToken)
    intro later outcome refusal
    cases outcome with
    | error error => exact refused (refusal error rfl)
    | ok value =>
      exact session_refines (roleOperation_shared valid) fun outcome => replies_routed rfl _ outcome

/-- A route behind the gate whose operation is read from the body alone. -/
theorem bodyRole_opens {α : Type} {http : HttpRequest} (own : request.http = http)
    {credentials : AuthorizationCredentials Token} (presented : request.credentials? = some credentials)
    {body : RequestBody α} (unread : request.unreadable? = body.unreadable?) {operation : α → RoleOperation}
    (validates : request.validates = true)
    (gate : ∀ exception, request.translate (.httpException exception) = .httpException exception)
    (asks : ∀ data, body = .data data → request.roleOperation? app = some (operation data))
    (translates : ∀ data, request.translate = (operation data).routeError)
    (answers : ∀ accessToken valid outcome, request.answer app (.request (.roleEndpoint accessToken valid))
      (.outcome outcome) = .ok (RoutesRole.answered outcome)) :
    ProgramOpens app request (ApiRequest.receiving app http body fun data =>
      RoutesRole.behindGate app http credentials
        (ApiRequest.validated [("body", data.isSome)] (data.map operation))) := by
  refine receiving_opens own unread ?_
  intro data read
  refine behindGate_opens own presented gate (fun _ _ => validates) ?_ ?_ answers
  · intro valid parsed
    cases data <;> cases parsed
    exact asks _ (RequestBody.read_eq_some read)
  · intro valid parsed
    cases data <;> cases parsed
    exact translates _

theorem createRole_opens (http : HttpRequest) (credentials : AuthorizationCredentials Token)
    (body : RequestBody RoleCreateIn) :
    ProgramOpens app (.createRole http credentials body)
      ((ApiRequest.createRole http credentials body).program app) := by
  refine bodyRole_opens rfl rfl rfl rfl (fun _ => rfl) ?_ (fun _ => rfl) fun _ _ _ => rfl
  rintro data rfl
  rfl

theorem listRoles_opens (http : HttpRequest) (credentials : AuthorizationCredentials Token) :
    ProgramOpens app (.listRoles http credentials) ((ApiRequest.listRoles http credentials).program app) := by
  change ProgramOpens app _ (RoutesRole.behindGate app http credentials (.ok .getAllRoles))
  refine behindGate_opens rfl rfl (fun _ => rfl) (fun _ same => by cases same) ?_ ?_ fun _ _ _ => rfl
  · intro valid parsed
    cases parsed
    rfl
  · intro valid parsed
    cases parsed
    rfl

theorem deleteRole_opens (http : HttpRequest) (credentials : AuthorizationCredentials Token) (roleId : String) :
    ProgramOpens app (.deleteRole http credentials roleId)
      ((ApiRequest.deleteRole http credentials roleId).program app) := by
  refine behindGate_opens rfl rfl (fun _ => rfl) (fun _ _ => rfl) ?_ ?_ fun _ _ _ => rfl
  · intro valid parsed
    change (ApiRequest.roleIdParam app roleId).map _ = _
    cases roleParam : ApiRequest.roleIdParam app roleId <;> rw [roleParam] at parsed <;> cases parsed
    rfl
  · intro valid parsed
    cases roleParam : ApiRequest.roleIdParam app roleId <;> rw [roleParam] at parsed <;> cases parsed
    rfl

theorem modifyRole_opens (http : HttpRequest) (credentials : AuthorizationCredentials Token) (roleId : String)
    (body : RequestBody RoleCreateIn) :
    ProgramOpens app (.modifyRole http credentials roleId body)
      ((ApiRequest.modifyRole http credentials roleId body).program app) := by
  refine receiving_opens rfl rfl ?_
  intro data read
  refine behindGate_opens rfl rfl (fun _ => rfl) (fun _ _ => rfl) ?_ ?_ fun _ _ _ => rfl
  · intro valid parsed
    cases roleParam : ApiRequest.roleIdParam app roleId <;> rw [roleParam] at parsed <;> cases data <;> cases parsed
    rw [RequestBody.read_eq_some read]
    change (ApiRequest.roleIdParam app roleId).map _ = _
    rw [roleParam]
    rfl
  · intro valid parsed
    cases roleParam : ApiRequest.roleIdParam app roleId <;> rw [roleParam] at parsed <;> cases data <;> cases parsed
    rfl

theorem assignRole_opens (http : HttpRequest) (credentials : AuthorizationCredentials Token)
    (body : RequestBody AssignRoleIn) :
    ProgramOpens app (.assignRole http credentials body)
      ((ApiRequest.assignRole http credentials body).program app) := by
  refine bodyRole_opens rfl rfl rfl rfl (fun _ => rfl) ?_ (fun _ => rfl) fun _ _ _ => rfl
  rintro data rfl
  rfl

theorem revokeRole_opens (http : HttpRequest) (credentials : AuthorizationCredentials Token)
    (body : RequestBody UUID4) :
    ProgramOpens app (.revokeRole http credentials body)
      ((ApiRequest.revokeRole http credentials body).program app) := by
  refine bodyRole_opens rfl rfl rfl rfl (fun _ => rfl) ?_ (fun _ => rfl) fun _ _ _ => rfl
  rintro data rfl
  rfl

/-- A callback is answered from its device on. -/
theorem callback_opens (http : HttpRequest) (code : Option String) (state : Option UUID) :
    http.query? "code" = code → (http.query? "state").bind app.pydantic.uuid = state →
    (∀ value, state = some value → validateLoginState http value = .ok ()) →
    RouteOpens app (.confirmLoginYandex http) (ApiRequest.bare ((getOrCreateDeviceId http).bind fun deviceId =>
      match getDeviceInfo app deviceId (getRequestMeta app http) with
      | .error error => throw error
      | .ok deviceInfo => withSession (match code, state with
        | some code, some state =>
          (tryCatch (YandexIdService.authorize app code state (getRequestMeta app http) deviceInfo)
            fun error => throw (callbackError error)).bind fun tokens => .done (loginConfirmed app tokens deviceInfo)
        | code, state => throw (.requestValidationError ((if state.isNone then ["state"] else []) ++
            (if code.isNone then ["code"] else []) ++ if state.isNone then ["state"] else []))))) := by
  intro granted stated presented
  rw [bare_bind]
  apply @device_opens Token app (.confirmLoginYandex http) http rfl rfl
  · intro deviceId error failed
    simp only [failed]
    rfl
  · intro deviceId deviceInfo made
    simp only [made, bare_withSession]
    cases code with
    | none => exact idle_opens rfl
    | some code =>
      cases state with
      | none => exact idle_opens rfl
      | some state =>
        have asks : ApiRequest.Asks app (.confirmLoginYandex http)
            (.request (.authorize code state (getRequestMeta app http) deviceInfo)) :=
          .confirmLoginYandex http code state deviceInfo ⟨deviceId, made⟩ granted stated (presented state rfl)
        apply session_opens asks rfl (authorize_shared code state _ _) (service_served _ .tokens)
        congr 1
        unfold ApiRequest.bare
        simp only [bind_eq, tryCatch_eq, bind_eq_finish, handle_eq_finish, finish_finish]
        congr 1
        funext outcome
        cases outcome <;> rfl

theorem confirmLoginYandex_opens (http : HttpRequest) :
    ProgramOpens app (.confirmLoginYandex http) ((ApiRequest.confirmLoginYandex http).program app) := by
  change ProgramOpens app _ (ApiRequest.bare (AuthApi.confirmLoginYandex app http))
  unfold AuthApi.confirmLoginYandex
  rw [bare_requestIdMiddleware]
  refine middleware_opens rfl ?_
  simp only [bind_eq, bare_bind]
  apply limited_opens rfl
  cases stated : (http.query? "state").bind app.pydantic.uuid with
  | none => exact callback_opens http _ none rfl stated fun _ same => by cases same
  | some state =>
    cases presented : validateLoginState http state with
    | error error =>
      simp only [Option.map_some, presented]
      exact turnedAway_opens (.badState http state rfl stated error presented)
    | ok value =>
      simp only [Option.map_some, presented]
      exact callback_opens http _ (some state) rfl stated fun _ same => by cases same; exact presented

variable (app) in
/-- Every route opens the services that its request may ask. -/
theorem ApiRequest.opens (request : ApiRequest Token) : ProgramOpens app request (request.program app) := by
  cases request with
  | issueTokens http body => exact issueTokens_opens http body
  | refreshTokens http refreshCookie => exact refreshTokens_opens http refreshCookie
  | logout http refreshCookie => exact logout_opens http refreshCookie
  | logoutOthers http credentials => exact logoutOthers_opens http credentials
  | createUser http body => exact createUser_opens http body
  | userInfo http credentials => exact userInfo_opens http credentials
  | changeEmail http credentials body => exact changeEmail_opens http credentials body
  | changePassword http credentials body => exact changePassword_opens http credentials body
  | getLoginHistory http credentials => exact getLoginHistory_opens http credentials
  | createRole http credentials body => exact createRole_opens http credentials body
  | listRoles http credentials => exact listRoles_opens http credentials
  | deleteRole http credentials roleId => exact deleteRole_opens http credentials roleId
  | modifyRole http credentials roleId body => exact modifyRole_opens http credentials roleId body
  | assignRole http credentials body => exact assignRole_opens http credentials body
  | revokeRole http credentials body => exact revokeRole_opens http credentials body
  | oauthLogin http => exact oauthLogin_opens http
  | confirmLoginYandex http => exact confirmLoginYandex_opens http

end Routes

end AuthApi
