import AuthApi.Run.Effects

/-! # The programs that requests share

One lemma for each function that several requests call, for any specification that admits its calls:
what it returns, in terms of the replies on the trace. Callers cite these and do not unfold.
-/

namespace AuthApi

open Interleaving Interleaving.Program DbHelpers Dependencies

variable {Token : Type} {app : App Token} {trace : Trace Reply} {spec : Trace Reply → Call → Prop}

theorem along_withSession {α : Type} {body : Action α} {post : Trace Reply → Except Exn α → Prop}
    (closes : ∀ trace, spec trace .close)
    (along : body.Along spec (fun later outcome => post (⟨.close, ()⟩ :: later) outcome) trace) :
    (withSession body).Along spec post trace := by
  refine Along.bind (q := fun later outcome => match outcome with
    | .ok value => post (⟨.close, ()⟩ :: later) (.ok value)
    | .error error => post later (.error error)) (Along.handle along ?_ ?_) ?_ ?_
  · exact fun value later holds => holds
  · exact fun error later holds => ⟨closes later, fun _ => holds⟩
  · exact fun value later holds => ⟨closes later, fun _ => holds⟩
  · exact fun error later holds => holds

/-- Values that a statement cannot take end the program, and no call has been made for them. -/
theorem along_accept {α : Type} {values : Bool} {rest : Action α} {post : Trace Reply → Except Exn α → Prop}
    (taken : values = true → rest.Along spec post trace)
    (refused : values = false → post trace (.error (.dbError .data))) :
    ((accept values).bind fun _ => rest).Along spec post trace := by
  cases values with
  | true => exact taken rfl
  | false => exact refused rfl

/-- The response the middleware lets out for an outcome of the route. -/
def App.sent (app : App Token) (requestId : String) :
    Except Exn (HttpResponse Token) → HttpResponse Token
  | .ok response => response.withRequestId app.settings.requestIdHeader requestId
  | .error error =>
      let (outside, response) := exceptionResponse error
      if outside then response else response.withRequestId app.settings.requestIdHeader requestId

/-- An error has no cookies. -/
theorem App.sent_error_cookies (app : App Token) (requestId : String) (error : Exn) :
    (app.sent requestId (.error error)).cookies = [] := by
  have bare : (exceptionResponse error : Bool × HttpResponse Token).2.cookies = [] := by
    cases error <;> rfl
  have renamed := (exceptionResponse error : Bool × HttpResponse Token).2.withRequestId_cookies_subset
    app.settings.requestIdHeader requestId
  rw [bare] at renamed
  have shape : app.sent requestId (.error error) =
      if (exceptionResponse error : Bool × HttpResponse Token).1 then (exceptionResponse error).2
      else (exceptionResponse error).2.withRequestId app.settings.requestIdHeader requestId := rfl
  rw [shape]
  split
  · exact bare
  · exact List.subset_nil.mp renamed

/-- The middleware draws an id at most and turns every outcome of the route into a response. -/
theorem along_requestIdMiddleware {http : HttpRequest} {route : Action (HttpResponse Token)}
    {q : Trace Reply → Except Exn (HttpResponse Token) → Prop}
    {post : Trace Reply → Except Exn (HttpResponse Token) → Prop}
    (uuid4 : ∀ trace, spec trace .uuid4)
    (along : ∀ drawn : Trace Reply, (∀ exchange ∈ drawn, exchange.request = .uuid4) →
      route.Along spec q (drawn ++ trace))
    (ends : ∀ later outcome requestId, q later outcome →
      post later (.ok (app.sent requestId outcome))) :
    (requestIdMiddleware app http route).Along spec post trace := by
  have drawn : (getRequestId app http).Along spec
      (fun later outcome => (∃ drawn : Trace Reply,
        (∀ exchange ∈ drawn, exchange.request = .uuid4) ∧ later = drawn ++ trace) ∧
          ∃ id, outcome = .ok id) trace := by
    unfold getRequestId
    split
    · exact ⟨uuid4 _, fun id => ⟨⟨[⟨.uuid4, id⟩], by simp, rfl⟩, _, rfl⟩⟩
    · split
      · exact ⟨uuid4 _, fun id => ⟨⟨[⟨.uuid4, id⟩], by simp, rfl⟩, _, rfl⟩⟩
      · exact ⟨⟨[], by simp, rfl⟩, _, rfl⟩
  refine Along.bind drawn ?_ (by rintro error later ⟨_, _, ⟨⟩⟩)
  rintro requestId _ ⟨⟨drawn, draws, rfl⟩, _⟩
  have answered : Along spec
      (fun later outcome => ∃ result, q later result ∧ outcome = .ok (match result with
        | .ok response => (false, response)
        | .error error => exceptionResponse error))
      (tryCatch ((fun response => (false, response)) <$> route)
        fun error => pure (exceptionResponse error)) (drawn ++ trace) := by
    refine Along.handle (q := fun later outcome => ∃ result, q later result ∧ outcome =
      result.map fun response => (false, response)) (Along.bind (along drawn draws) ?_ ?_) ?_ ?_
    · exact fun value later holds => ⟨.ok value, holds, rfl⟩
    · exact fun error later holds => ⟨.error error, holds, rfl⟩
    · rintro value later ⟨_ | response, holds, ⟨⟩⟩
      exact ⟨.ok response, holds, rfl⟩
    · rintro error later ⟨_ | response, holds, ⟨⟩⟩
      exact ⟨.error error, holds, rfl⟩
  refine Along.bind answered ?_ (by rintro error later ⟨_, _, ⟨⟩⟩)
  rintro made later ⟨result, holds, same⟩
  have sent := ends later result requestId holds
  cases same
  cases result with
  | ok response => exact sent
  | error error =>
    unfold App.sent at sent
    cases outside : (exceptionResponse error : Bool × HttpResponse Token).1 with
    | true => simpa [outside] using sent
    | false => simpa [outside] using sent

/-- The claims of an access token made for an instance at a time. -/
def accessClaims (app : App Token) (user : UserObject) (now : Time) (jti : UUID4)
    (roleClaims : Option String × List AccessLabel) : Claims :=
  AccessTokenPayload.modelDump
    { sub := user.id, iat := Time.seconds now
      exp := Time.seconds now + app.jwtSettings.accessTokenExpireMinutes * 60
      jti, tv := user.tokenVersion, isSuperuser := user.isSuperuser
      role := roleClaims.1, accessLabels := roleClaims.2 }

def refreshClaims (app : App Token) (user : UserObject) (now : Time) (jti : UUID4) : Claims :=
  RefreshTokenPayload.modelDump
    { sub := user.id, iat := Time.seconds now
      exp := Time.seconds now + app.jwtSettings.refreshTokenExpireDays * 86400
      jti, tv := user.tokenVersion }

/-- The pair was made for this instance, at moments the request saw. -/
def IssuedFor (app : App Token) (trace : Trace Reply) (user : UserObject) (pair : TokenData Token) :
    Prop :=
  ∃ accessTime refreshTime accessId refreshId roleClaims,
    ⟨.now, accessTime⟩ ∈ trace ∧ ⟨.now, refreshTime⟩ ∈ trace ∧
    resolveRoleClaims user = .ok roleClaims ∧
    pair.access = app.jwt.encode (accessClaims app user accessTime accessId roleClaims) ∧
    pair.refresh = app.jwt.encode (refreshClaims app user refreshTime refreshId)

theorem IssuedFor.mono {later : Trace Reply} {user : UserObject} {pair : TokenData Token}
    (issued : IssuedFor app trace user pair) (grown : trace <:+ later) :
    IssuedFor app later user pair := by
  obtain ⟨accessTime, refreshTime, accessId, refreshId, roleClaims, access, refresh, rest⟩ := issued
  exact ⟨accessTime, refreshTime, accessId, refreshId, roleClaims, grown.subset access,
    grown.subset refresh, rest⟩

/-- Both tokens of an issued pair carry the id and the version of the instance. -/
theorem IssuedFor.claims {user : UserObject} {pair : TokenData Token}
    (issued : IssuedFor app trace user pair) {token : Token}
    (among : token ∈ [pair.access, pair.refresh]) {claims : Claims}
    (verified : app.jwt.verify token = some claims) :
    claims.sub = user.id ∧ claims.tv = user.tokenVersion := by
  obtain ⟨_, _, _, _, _, _, _, _, access, refresh⟩ := issued
  simp only [List.mem_cons, List.not_mem_nil, or_false] at among
  obtain rfl | rfl := among
  · rw [access, app.jwt.verify_encode] at verified
    cases verified
    exact ⟨rfl, rfl⟩
  · rw [refresh, app.jwt.verify_encode] at verified
    cases verified
    exact ⟨rfl, rfl⟩

theorem resolveRoleClaims_error {user : UserObject} {error : Exn}
    (failed : resolveRoleClaims user = .error error) : ∃ detail, error = .valueError detail := by
  unfold resolveRoleClaims at failed
  split at failed
  · cases failed
    exact ⟨_, rfl⟩
  · split at failed
    · cases failed
    · cases failed
      exact ⟨_, rfl⟩
  · cases failed

theorem issueTokenPair_along (now : ∀ trace, spec trace .now) (uuid4 : ∀ trace, spec trace .uuid4)
    (user : UserObject) :
    (issueTokenPair app user).Along spec
      (fun later outcome => trace <:+ later ∧ match outcome with
        | .ok pair => IssuedFor app later user pair
        | .error error => resolveRoleClaims user = .error error) trace := by
  refine ⟨now _, fun accessTime => ?_⟩
  cases claims : resolveRoleClaims user with
  | error error => exact ⟨List.suffix_cons _ _, rfl⟩
  | ok roleClaims =>
    refine ⟨uuid4 _, fun accessId => ⟨now _, fun refreshTime => ⟨uuid4 _, fun refreshId => ?_⟩⟩⟩
    refine ⟨⟨[_, _, _, _], rfl⟩, accessTime, refreshTime, accessId, refreshId, roleClaims, ?_, ?_,
      claims, rfl, rfl⟩ <;> simp

theorem saveLoginHistory_along (uuid4 : ∀ trace, spec trace .uuid4)
    (rollback : ∀ trace, spec trace .rollback)
    (records : ∀ trace entry, spec trace (.commit .request [.insertLoginHistory entry]))
    (userId : UUID4) (requestMeta : RequestMeta) (deviceInfo : Option DeviceInfo) :
    (saveLoginHistory userId requestMeta deviceInfo).Along spec
      (fun later outcome => trace <:+ later ∧ outcome = .ok ()) trace := by
  refine ⟨uuid4 _, fun id => ⟨records _ _, fun reply => ?_⟩⟩
  cases reply with
  | ok _ => exact ⟨⟨[_, _], rfl⟩, rfl⟩
  | error error => exact ⟨rollback _, fun _ => ⟨⟨[_, _, _], rfl⟩, rfl⟩⟩

theorem loginUser_along (data : UserLoginData) (requestMeta : RequestMeta) (deviceInfo : Option DeviceInfo)
    (silent : ∀ later call, call.isSilent = true → spec later call)
    (records : ∀ later entry, spec later (.commit .request [.insertLoginHistory entry])) :
    (AuthService.loginUser app data requestMeta deviceInfo).Along spec (fun _ _ => True) trace := by
  refine ⟨silent _ _ rfl, fun found => ?_⟩
  cases found with
  | none => trivial
  | some user =>
    simp only [done_bind]
    split
    · apply Along.bind (issueTokenPair_along (fun _ => silent _ _ rfl) (fun _ => silent _ _ rfl) user)
      · intro tokens middle _
        exact Along.bind (saveLoginHistory_along (fun _ => silent _ _ rfl) (fun _ => silent _ _ rfl)
          records user.id requestMeta deviceInfo) (fun _ _ _ => trivial) fun _ _ _ => trivial
      · exact fun _ _ _ => trivial
    · trivial

/-- The request found or created the default role with this id. -/
def SawDefaultRole (trace : Trace Reply) (roleId : UUID4) : Prop :=
  (∃ role : Role, role.id = roleId ∧
    ⟨.selectRoleByTitle DEFAULT_ROLE_TITLE, some role⟩ ∈ trace) ∨
  ⟨.commit .defaultRole [.insertRole ⟨roleId, DEFAULT_ROLE_TITLE, DEFAULT_ROLE_ACCESS_LABELS⟩],
    .ok ()⟩ ∈ trace

theorem SawDefaultRole.mono {later : Trace Reply} {roleId : UUID4}
    (seen : SawDefaultRole trace roleId) (grown : trace <:+ later) :
    SawDefaultRole later roleId := by
  obtain ⟨role, same, member⟩ | member := seen
  · exact .inl ⟨role, same, grown.subset member⟩
  · exact .inr (grown.subset member)

/-- It fails only if the role was absent and its insertion was refused. -/
theorem getOrCreateDefaultRole_along
    (selects : ∀ trace, spec trace (.selectRoleByTitle DEFAULT_ROLE_TITLE))
    (uuid4 : ∀ trace, spec trace .uuid4)
    (creates : ∀ trace id, ⟨.selectRoleByTitle DEFAULT_ROLE_TITLE, none⟩ ∈ trace →
      spec trace (.commit .defaultRole
        [.insertRole ⟨id, DEFAULT_ROLE_TITLE, DEFAULT_ROLE_ACCESS_LABELS⟩])) :
    getOrCreateDefaultRole.Along spec
      (fun later outcome => trace <:+ later ∧ match outcome with
        | .ok role => SawDefaultRole later role.id
        | .error error => ⟨.selectRoleByTitle DEFAULT_ROLE_TITLE, none⟩ ∈ later ∧
            ∃ fault, error = .dbError fault) trace := by
  refine ⟨selects _, fun found => ?_⟩
  cases found with
  | some role => exact ⟨List.suffix_cons _ _, .inl ⟨role, rfl, List.mem_cons_self⟩⟩
  | none =>
    refine ⟨uuid4 _, fun id => ⟨creates _ _ (by simp), fun reply => ?_⟩⟩
    cases reply with
    | ok _ => exact ⟨⟨[_, _, _], rfl⟩, .inr List.mem_cons_self⟩
    | error error => exact ⟨⟨[_, _, _], rfl⟩, by simp, error, rfl⟩

/-- The payload a token carries, whatever the time. -/
def App.accessPayload (app : App Token) (token : Token) : Option AccessTokenPayload :=
  (app.jwt.verify token).bind AccessTokenPayload.modelValidate

/-- The payload is about the subject of the token. -/
theorem App.accessPayload_sub {token : Token} {claims : Claims} {payload : AccessTokenPayload}
    (verified : app.jwt.verify token = some claims) (valid : app.accessPayload token = some payload) :
    payload.sub = claims.sub := by
  rw [accessPayload, verified] at valid
  exact (AccessTokenPayload.modelValidate_eq_some valid).1

/-- The gate accepts the token at a time: it is signed, of the right type and unexpired. -/
def App.acceptsAt (app : App Token) (token : Token) (now : Time) (payload : AccessTokenPayload) :
    Prop :=
  app.accessPayload token = some payload ∧ payload.iat * 1000000 ≤ (now : ℤ) ∧
    (now : ℤ) < payload.exp * 1000000

theorem getAccessTokenPayload_along (now : ∀ trace, spec trace .now) (token : Token) :
    (getAccessTokenPayload app token).Along spec
      (fun later outcome => ∃ time, later = ⟨.now, time⟩ :: trace ∧ match outcome with
        | .ok payload => app.acceptsAt token time payload
        | .error error => (∀ payload, ¬ app.acceptsAt token time payload) ∧
            ∃ detail, error = .httpException (credentialsHttpException detail)) trace := by
  refine ⟨now _, fun time => ?_⟩
  have opened (payload : AccessTokenPayload) : app.acceptsAt token time payload ↔
      ∃ claims, app.jwt.decode token time = .ok claims ∧
        AccessTokenPayload.modelValidate claims = some payload := by
    simp only [App.acceptsAt, App.accessPayload, Option.bind_eq_some_iff, PyJwt.decode_eq_ok]
    constructor
    · rintro ⟨⟨claims, verified, valid⟩, early, late⟩
      obtain ⟨_, iat, exp, _⟩ := AccessTokenPayload.modelValidate_eq_some valid
      exact ⟨claims, ⟨verified, iat ▸ early, exp ▸ late⟩, valid⟩
    · rintro ⟨claims, ⟨verified, early, late⟩, valid⟩
      obtain ⟨_, iat, exp, _⟩ := AccessTokenPayload.modelValidate_eq_some valid
      exact ⟨⟨claims, verified, valid⟩, iat ▸ early, exp ▸ late⟩
  simp only [done_bind]
  cases decoded : app.jwt.decode token time with
  | error error =>
    have closed (payload : AccessTokenPayload) : ¬ app.acceptsAt token time payload := by
      rintro accepted
      obtain ⟨_, ok, _⟩ := (opened payload).mp accepted
      rw [decoded] at ok
      cases ok
    cases error <;> exact ⟨time, rfl, closed, _, rfl⟩
  | ok claims =>
    cases valid : AccessTokenPayload.modelValidate claims with
    | none =>
      have closed (payload : AccessTokenPayload) : ¬ app.acceptsAt token time payload := by
        rintro accepted
        obtain ⟨_, ok, other⟩ := (opened payload).mp accepted
        rw [decoded] at ok
        cases ok
        rw [valid] at other
        cases other
      simp only [valid]
      exact ⟨time, rfl, closed, _, rfl⟩
    | some payload =>
      simp only [valid]
      exact ⟨time, rfl, (opened payload).mpr ⟨claims, decoded, valid⟩⟩

/-- `get_token_user` returns the row it read, and only if the versions agree. -/
theorem getTokenUser_along (now : ∀ trace, spec trace .now)
    (token : Token) (reads : ∀ time payload, app.acceptsAt token time payload →
      spec (⟨.now, time⟩ :: trace) (.getUser payload.sub)) :
    (getTokenUser app token).Along spec
      (fun later outcome => match outcome with
        | .ok user => ∃ time payload, app.acceptsAt token time payload ∧
            payload.tv = user.tokenVersion ∧
            later = ⟨.getUser payload.sub, some user⟩ :: ⟨.now, time⟩ :: trace
        | .error error =>
            (∃ time detail, later = ⟨.now, time⟩ :: trace ∧
              (∀ payload, ¬ app.acceptsAt token time payload) ∧
              error = .httpException (credentialsHttpException detail)) ∨
            ∃ time payload found, app.acceptsAt token time payload ∧
              later = ⟨.getUser payload.sub, found⟩ :: ⟨.now, time⟩ :: trace ∧
              ((found = none ∧ error = .httpException (credentialsHttpException "User not found")) ∨
                ∃ user, found = some user ∧ payload.tv ≠ user.tokenVersion ∧
                  error = .httpException (credentialsHttpException "Token version mismatch")))
      trace := by
  refine Along.bind (getAccessTokenPayload_along now token) ?_ ?_
  · rintro payload _ ⟨time, rfl, accepted⟩
    refine ⟨reads _ _ accepted, fun found => ?_⟩
    cases found with
    | none => exact .inr ⟨time, payload, none, accepted, rfl, .inl ⟨rfl, rfl⟩⟩
    | some user =>
      simp only [done_bind]
      split
      · next same => exact ⟨time, payload, accepted, same, rfl⟩
      · next differ =>
        exact .inr ⟨time, payload, some user, accepted, rfl, .inr ⟨user, rfl, differ, rfl⟩⟩
  · rintro error _ ⟨time, rfl, refused, detail, rfl⟩
    exact .inl ⟨time, detail, rfl, refused, rfl⟩

/-- `ensure_superuser` reads the clock only, and refuses with a 401 when no payload opens it. -/
theorem ensureSuperuser_along (now : ∀ trace, spec trace .now) (token : Token) :
    (ensureSuperuser app token).Along spec
      (fun later outcome => ∃ time, later = ⟨.now, time⟩ :: trace ∧ match outcome with
        | .ok _ => ∃ payload, app.acceptsAt token time payload ∧ payload.isSuperuser = true
        | .error error =>
            (∀ payload, app.acceptsAt token time payload → payload.isSuperuser = false) ∧
              ∃ detail, error = .httpException (credentialsHttpException detail)) trace := by
  refine Along.bind (getAccessTokenPayload_along now token) ?_ ?_
  · rintro payload _ ⟨time, rfl, accepted⟩
    split
    · next flag => exact ⟨time, rfl, payload, accepted, flag⟩
    · next plain =>
      refine ⟨time, rfl, fun other accepted' => ?_, _, rfl⟩
      have same := accepted.1.symm.trans accepted'.1
      cases same
      simpa using plain
  · rintro error _ ⟨time, rfl, closed, detail, rfl⟩
    exact ⟨time, rfl, fun payload accepted => absurd accepted (closed payload), detail, rfl⟩

section Sessions

variable {token : Token}

/-- `refresh_tokens` reads the row of the subject and uses one key, that of the token; it revokes the
token for the time that is left, and for one second at least. -/
theorem refreshTokens_along (now : ∀ trace, spec trace .now) (uuid4 : ∀ trace, spec trace .uuid4)
    (looks : ∀ trace claims, app.jwt.verify token = some claims →
      spec trace (.redisGet (AuthService.blacklistKey claims.jti.val.str)))
    (reads : ∀ trace claims, app.jwt.verify token = some claims →
      spec trace (.selectUserById claims.sub true))
    (revokes : ∀ trace claims moment ttl, app.jwt.verify token = some claims → ⟨.now, moment⟩ ∈ trace →
      0 < ttl → claims.exp - Time.seconds moment ≤ ttl →
      spec trace (.redisSetex (AuthService.blacklistKey claims.jti.val.str) ttl (.text "true"))) :
    (AuthService.refreshTokens app token).Along spec (fun _ _ => True) trace := by
  refine ⟨now _, fun decodedAt => ?_⟩
  simp only [done_bind]
  split
  · trivial
  · trivial
  · next claims decoded =>
    have verified := (PyJwt.decode_eq_ok.mp decoded).1
    split
    · trivial
    · next payload valid =>
      rw [RefreshTokenPayload.modelValidate_eq_some valid]
      refine ⟨looks _ claims verified, fun entry => ?_⟩
      cases entry with
      | error error => trivial
      | ok entry =>
        simp only [attempt_ok, done_bind, pure_eq]
        split
        · trivial
        · refine ⟨reads _ claims verified, fun row => ?_⟩
          cases row with
          | none => trivial
          | some user =>
            simp only [done_bind]
            split
            · refine ⟨now _, fun moment => ⟨revokes _ claims moment _ verified List.mem_cons_self
                (lt_of_lt_of_le Int.one_pos (le_max_left _ _)) (le_max_right _ _), fun reply => ?_⟩⟩
              cases reply with
              | error error => trivial
              | ok _ =>
                exact (issueTokenPair_along now uuid4 user).mono (fun _ _ admitted => admitted)
                  fun _ _ _ => trivial
            · trivial

/-- `logout` revokes the token for the time that is left, if any is. -/
theorem logout_along (now : ∀ trace, spec trace .now)
    (revokes : ∀ trace claims moment ttl, app.jwt.verify token = some claims → ⟨.now, moment⟩ ∈ trace →
      0 < ttl → claims.exp - Time.seconds moment ≤ ttl →
      spec trace (.redisSetex (AuthService.blacklistKey claims.jti.val.str) ttl (.text "true"))) :
    (AuthService.logout app token).Along spec (fun _ _ => True) trace := by
  refine ⟨now _, fun decodedAt => ?_⟩
  simp only [done_bind]
  split
  · trivial
  · next claims decoded =>
    have verified := (PyJwt.decode_eq_ok.mp decoded).1
    split
    · trivial
    · next payload valid =>
      rw [RefreshTokenPayload.modelValidate_eq_some valid]
      refine ⟨now _, fun moment => ?_⟩
      simp only [done_bind]
      split
      · trivial
      · next positive =>
        refine ⟨revokes _ claims moment _ verified List.mem_cons_self (by simpa using positive) le_rfl,
          fun reply => ?_⟩
        cases reply <;> trivial

theorem logoutOthers_along (user : UserObject) (now : ∀ trace, spec trace .now)
    (uuid4 : ∀ trace, spec trace .uuid4) (reads : ∀ trace, spec trace (.selectUserById user.id true))
    (commits : spec trace (.commit .request
      (userUpdate user.toUser { user.toUser with tokenVersion := user.tokenVersion + 1 }))) :
    (AuthService.logoutOthers app user).Along spec (fun _ _ => True) trace := by
  refine ⟨commits, fun reply => ?_⟩
  cases reply with
  | error error => trivial
  | ok _ =>
    refine ⟨reads _, fun found => ?_⟩
    cases found with
    | none => trivial
    | some found =>
      exact (issueTokenPair_along now uuid4 _).mono (fun _ _ admitted => admitted) fun _ _ _ => trivial

/-- The row it inserts has the email of the request, its password hashed, and the default role. -/
theorem createUser_along (data : UserCreateIn)
    (looks : ∀ trace, spec trace (.selectUserByEmail data.email false))
    (salted : ∀ trace, spec trace .salt) (uuid4 : ∀ trace, spec trace .uuid4)
    (selects : ∀ trace, spec trace (.selectRoleByTitle DEFAULT_ROLE_TITLE))
    (creates : ∀ trace id, ⟨.selectRoleByTitle DEFAULT_ROLE_TITLE, none⟩ ∈ trace →
      spec trace (.commit .defaultRole
        [.insertRole ⟨id, DEFAULT_ROLE_TITLE, DEFAULT_ROLE_ACCESS_LABELS⟩]))
    (commits : ∀ later (user : NewUser) roleId, user.email = data.email → user.isSuperuser = false →
      user.roleId = some roleId → SawDefaultRole later roleId →
        spec later (.commit .request [.insertUser user]))
    (rollback : ∀ trace, spec trace .rollback) (refreshes : ∀ trace id, spec trace (.refreshUser id false)) :
    (UserService.createUser app data).Along spec (fun _ _ => True) trace := by
  refine ⟨looks _, fun found => ?_⟩
  cases found with
  | some user => trivial
  | none =>
    refine ⟨salted _, fun salt => ?_⟩
    simp only [done_bind]
    refine Along.bind (getOrCreateDefaultRole_along selects uuid4 creates) ?_ fun _ _ _ => trivial
    rintro role later ⟨_, seen⟩
    refine ⟨uuid4 _, fun id => ⟨?_, fun reply => ?_⟩⟩
    · exact commits _ _ role.id rfl rfl rfl (seen.mono (List.suffix_cons _ _))
    · cases reply with
      | ok _ =>
        refine ⟨refreshes _ _, fun found => ?_⟩
        cases found <;> trivial
      | error error =>
        cases error with
        | integrity => exact ⟨rollback _, fun _ => trivial⟩
        | staleData | data => trivial

/-- The row it inserts has the email it was given and the flag of a superuser. -/
theorem createSuperuser_along (email password : String)
    (looks : ∀ trace, spec trace (.selectUserByEmail email false))
    (salted : ∀ trace, spec trace .salt) (uuid4 : ∀ trace, spec trace .uuid4)
    (commits : ∀ later (user : NewUser), user.email = email → user.isSuperuser = true →
      spec later (.commit .request [.insertUser user]))
    (rollback : ∀ trace, spec trace .rollback) :
    (createSuperuser app email password).Along spec (fun _ _ => True) trace := by
  refine ⟨looks _, fun found => ?_⟩
  cases found with
  | some user => trivial
  | none =>
    refine ⟨salted _, fun salt => ⟨uuid4 _, fun id => ⟨commits _ _ rfl rfl, fun reply => ?_⟩⟩⟩
    cases reply with
    | ok _ => trivial
    | error error => exact ⟨rollback _, fun _ => trivial⟩

theorem changeEmail_along (data : UserChangeEmailIn) (user : UserObject)
    (rollback : ∀ trace, spec trace .rollback)
    (commits : spec trace (.commit .request
      (userUpdate user.toUser { user.toUser with email := data.email }))) :
    (UserService.changeEmail app data user).Along spec (fun _ _ => True) trace := by
  unfold UserService.changeEmail
  split
  · refine ⟨commits, fun reply => ?_⟩
    cases reply with
    | ok _ => trivial
    | error error =>
      cases error with
      | integrity => exact ⟨rollback _, fun _ => trivial⟩
      | staleData | data => trivial
  · trivial

/-- A page is selected, unless its offset is no bigint. -/
theorem getLoginHistory_along {userId : UUID4} {page pageSize : ℕ}
    (selects : spec trace (.selectLoginHistory userId ((page - 1) * pageSize) pageSize)) :
    (UserService.getLoginHistory userId page pageSize).Along spec (fun _ _ => True) trace :=
  along_accept (fun _ => ⟨selects, fun _ => trivial⟩) fun _ => trivial

theorem historyPage_along {user : UserObject} {page pageSize : ℕ}
    (selects : spec trace (.selectLoginHistory user.id ((page - 1) * pageSize) pageSize)) :
    ((UserOperation.getLoginHistory page pageSize).program app user).Along spec (fun _ _ => True) trace :=
  Along.bind (getLoginHistory_along selects) (fun _ _ _ => trivial) fun _ _ _ => trivial

theorem changePassword_along (data : UserChangePasswordIn) (user : UserObject)
    (salted : ∀ trace, spec trace .salt)
    (commits : ∀ salt, spec (⟨.salt, salt⟩ :: trace) (.commit .request (userUpdate user.toUser
      { user.toUser with
        passwordHash := app.passwordHash.hash data.newPassword salt
        tokenVersion := user.tokenVersion + 1 }))) :
    (UserService.changePassword app data user).Along spec (fun _ _ => True) trace := by
  unfold UserService.changePassword
  split
  · refine ⟨salted _, fun salt => ⟨commits salt, fun reply => ?_⟩⟩
    cases reply <;> trivial
  · trivial

/-- The operations of a user make silent calls and update the user. -/
theorem userOperation_along (operation : UserOperation) (user : UserObject)
    (silent : ∀ later call, call.isSilent = true → spec later call)
    (updates : ∀ later changed, spec later (.commit .request (userUpdate user.toUser changed))) :
    (operation.program app user).Along spec (fun _ _ => True) trace := by
  cases operation with
  | checkAccess => trivial
  | getUserInfo =>
    refine ⟨silent _ _ rfl, fun found => ?_⟩
    cases found <;> trivial
  | changeEmail data =>
    exact Along.bind (changeEmail_along data user (fun _ => silent _ _ rfl) (updates _ _))
      (fun _ _ _ => trivial) fun _ _ _ => trivial
  | changePassword data =>
    exact Along.bind (changePassword_along data user (fun _ => silent _ _ rfl) fun _ => updates _ _)
      (fun _ _ _ => trivial) fun _ _ _ => trivial
  | getLoginHistory page pageSize => exact historyPage_along (silent _ _ rfl)
  | logoutOthers =>
    exact Along.bind (logoutOthers_along user (fun _ => silent _ _ rfl) (fun _ => silent _ _ rfl)
      (fun _ => silent _ _ rfl) (updates _ _)) (fun _ _ _ => trivial) fun _ _ _ => trivial

end Sessions

/-- The limiter counts under a key of its own and ends or lets the request go on. -/
theorem rateLimitRouteByIp_along (http : HttpRequest)
    (routePath : String) (counts : ∀ identity windowMs, spec trace (.redisIncrWithTtl
      (rateLimitKey app.rateLimitSettings (ipPerRouteRule app.rateLimitSettings) identity) windowMs)) :
    (rateLimitRouteByIp app http routePath).Along spec (fun later _ => trace <:+ later) trace := by
  unfold rateLimitRouteByIp enforceRateLimit
  split
  · refine Along.bind (q := fun later _ => trace <:+ later) (Along.handle
      (q := fun later _ => trace <:+ later) ⟨counts _ _, fun reply => ?_⟩ (fun _ _ grown => grown)
      fun error later grown => ?_) (fun result later grown => ?_) fun _ _ grown => grown
    · cases reply with
      | ok counted => exact List.suffix_cons _ _
      | error error =>
        simp only [done_bind]
        split <;> exact List.suffix_cons _ _
    · cases error <;> exact grown
    · split <;> exact grown
  · exact List.suffix_refl _

theorem getOrCreateDeviceId_along (http : HttpRequest)
    (uuid4 : spec trace .uuid4) :
    (getOrCreateDeviceId http).Along spec (fun later _ => trace <:+ later) trace := by
  unfold getOrCreateDeviceId
  split
  · exact ⟨uuid4, fun _ => List.suffix_cons _ _⟩
  · split
    · exact ⟨uuid4, fun _ => List.suffix_cons _ _⟩
    · split
      · exact List.suffix_refl _
      · exact ⟨uuid4, fun _ => List.suffix_cons _ _⟩

/-- A login counts, and stores a verifier that it drew under a state that it drew. -/
theorem oauthLogin_along (http : HttpRequest) (silent : ∀ later call, call.isSilent = true → spec later call)
    (counts : ∀ later identity windowMs, spec later (.redisIncrWithTtl
      (rateLimitKey app.rateLimitSettings (ipPerRouteRule app.rateLimitSettings) identity) windowMs))
    (stores : ∀ later state codeVerifier,
      spec (⟨.tokenUrlsafe 64, codeVerifier⟩ :: ⟨.uuid4, state⟩ :: later) (.redisSetex
        (YandexIdService.stateCacheKey state.val) app.yandexidSettings.confirmationCodeTtl
        (.codeVerifier codeVerifier))) :
    (oauthLogin app http).Along spec (fun _ _ => True) trace := by
  refine along_requestIdMiddleware (q := fun _ _ => True) (fun _ => silent _ _ rfl) ?_ fun _ _ _ _ => trivial
  intro later _
  refine Along.bind (rateLimitRouteByIp_along http _ fun _ _ => counts _ _ _) ?_ fun _ _ _ => trivial
  intro _ _ _
  refine ⟨silent _ _ rfl, fun state => along_withSession (fun _ => silent _ _ rfl)
    ⟨silent _ _ rfl, fun codeVerifier => ?_⟩⟩
  simp only [done_bind]
  cases YandexIdService.buildLoginParams app state.val codeVerifier with
  | error error => cases error <;> trivial
  | ok loginParams =>
    refine ⟨stores _ _ _, fun reply => ?_⟩
    cases reply <;> trivial

end AuthApi
