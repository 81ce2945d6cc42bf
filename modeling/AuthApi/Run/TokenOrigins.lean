import AuthApi.Run.ApiHistories
import AuthApi.Run.LoginRecords

/-! # What tokens are issued for

Four services issue tokens. Each has read a row of the user first and has seen something that entitles its client
to the tokens of that user: the password, a token of the user, or the profile of a linked account.
-/

namespace AuthApi

open Interleaving Interleaving.Program YandexIdService

variable {Token : Type} (app : App Token)

section Credentials

variable (trace : Trace Reply) (copy : UserObject)

/-- The password of the account with the email. -/
def ByPassword (data : UserLoginData) : Prop :=
  ⟨.selectUserByEmail data.email true, some copy⟩ ∈ trace ∧
    app.passwordHash.verify data.password copy.passwordHash = true

/-- A refresh token of the user, unexpired and unrevoked, which is revoked now. -/
def ByRefreshToken (refreshToken : Token) : Prop :=
  ∃ (time : Time) (claims : Claims) (ttl : ℤ), ⟨.now, time⟩ ∈ trace ∧
    app.jwt.decode refreshToken time = .ok claims ∧ claims.type = "refresh" ∧
    ⟨.redisGet (AuthService.blacklistKey claims.jti.val.str), .ok none⟩ ∈ trace ∧
    ⟨.selectUserById claims.sub true, some copy⟩ ∈ trace ∧ claims.tv = copy.tokenVersion ∧
    ⟨.redisSetex (AuthService.blacklistKey claims.jti.val.str) ttl (.text "true"), .ok ()⟩ ∈ trace

/-- The profile of an account that is linked to the user, or has just been. -/
def ByProfile (state : UUID) : Prop :=
  (∃ codeVerifier, ⟨.redisGetdel (stateCacheKey state), .ok (some (.codeVerifier codeVerifier))⟩ ∈ trace) ∧
    ∃ profile, SawProfile app trace profile ∧
      (⟨.selectLinkedUser YANDEX profile.id, some copy⟩ ∈ trace ∨
        ∃ pending id ownerId role, ⟨.refreshUser ownerId role, some copy⟩ ∈ trace ∧
          ⟨.commit .request (pending ++ [.insertOAuthAccount ⟨id, YANDEX, profile.id, ownerId⟩]), .ok ()⟩ ∈ trace)

/-- What entitles a request of a service to tokens of a user. -/
def Request.EntitledTo : Request Token → Prop
  | .loginUser data _ _ => ByPassword app trace copy data
  | .refreshTokens refreshToken => ByRefreshToken app trace copy refreshToken
  | .userEndpoint accessToken .logoutOthers => AuthenticatesAs app trace accessToken copy
  | .authorize _ state _ _ => ByProfile app trace copy state
  | _ => False

end Credentials

section Grants

variable {app} {trace later : Trace Reply} {copy user : UserObject}

/-- What entitles still does. -/
theorem Request.EntitledTo.mono {request : Request Token} (entitled : request.EntitledTo app trace copy)
    (grown : ∀ exchange ∈ trace, exchange ∈ later) : request.EntitledTo app later copy := by
  cases request with
  | loginUser data requestMeta deviceInfo => exact ⟨grown _ entitled.1, entitled.2⟩
  | refreshTokens refreshToken =>
    obtain ⟨time, claims, ttl, read, decoded, type, unlisted, found, version, listed⟩ := entitled
    exact ⟨time, claims, ttl, grown _ read, decoded, type, grown _ unlisted, grown _ found, version, grown _ listed⟩
  | userEndpoint accessToken operation =>
    cases operation with
    | logoutOthers => exact AuthenticatesAs.mono entitled grown
    | _ => cases entitled
  | authorize code state requestMeta deviceInfo =>
    obtain ⟨⟨codeVerifier, consumed⟩, profile, ⟨exchange, member, read⟩, owns⟩ := entitled
    refine ⟨⟨codeVerifier, grown _ consumed⟩, profile, ⟨exchange, grown _ member, read⟩, ?_⟩
    obtain found | ⟨pending, id, ownerId, role, refreshed, linked⟩ := owns
    · exact .inl (grown _ found)
    · exact .inr ⟨pending, id, ownerId, role, grown _ refreshed, grown _ linked⟩
  | _ => cases entitled

section Logins

variable {spec : Trace Reply → Call → Prop} {post : Trace Reply → Except Exn (TokenData Token) → Prop}
  (other : ∀ later call, call.records = false → spec later call)
  (fails : ∀ later error, post later (.error error))
include other fails

/-- A login by password goes on for an entitled user only. -/
theorem loginUser_entitles (data : UserLoginData) (requestMeta : RequestMeta) (deviceInfo : Option DeviceInfo)
    (issues : ∀ (later : Trace Reply) (copy user : UserObject), trace <:+ later →
      (Request.loginUser data requestMeta deviceInfo).EntitledTo app later copy → user.id = copy.id →
        (do
          let tokens ← issueTokenPair app user
          saveLoginHistory user.id requestMeta deviceInfo
          return tokens : Action (TokenData Token)).Along spec post later) :
    (AuthService.loginUser app data requestMeta deviceInfo).Along spec post trace := by
  refine ⟨other _ _ rfl, fun found => ?_⟩
  cases found with
  | none => exact fails _ _
  | some user =>
    simp only [done_bind]
    split
    · next verified => exact issues _ user user (List.suffix_cons _ _) ⟨List.mem_cons_self, verified⟩ rfl
    · exact fails _ _

/-- A callback goes on for an entitled user only. -/
theorem authorize_entitles (code : String) (state : UUID) (requestMeta : RequestMeta) (deviceInfo : DeviceInfo)
    (issues : ∀ (later : Trace Reply) (copy user : UserObject), trace <:+ later →
      (Request.authorize code state requestMeta deviceInfo).EntitledTo app later copy → user.id = copy.id →
        (do
          let tokens ← issueTokenPair app user
          saveLoginHistory user.id requestMeta (some deviceInfo)
          return tokens : Action (TokenData Token)).Along spec post later) :
    (YandexIdService.authorize app code state requestMeta deviceInfo).Along spec post trace := by
  apply Along.bind (consumeCachedState_along state (other _ _ rfl))
  · rintro codeVerifier _ ⟨initial, rfl⟩
    apply Along.bind (exchangeCode_along code codeVerifier deviceInfo (other _ _ rfl))
    · rintro tokenData second ⟨grown, _⟩
      apply Along.bind (fetchUserInfo_along tokenData.accessToken fun _ _ _ _ => other _ _ rfl)
      · rintro profile third ⟨more, fetched⟩
        have consumed := more.subset (grown.subset List.mem_cons_self)
        apply Along.bind (resolveUser_along profile (fun _ _ silent => other _ _ (Call.records_of_silent silent))
          (fun _ _ _ => other _ _ rfl) (fun _ _ _ _ _ => other _ _ rfl) fun _ _ _ _ _ _ _ _ _ => other _ _ rfl)
        · intro resolved last ends
          have kept := ends.grown
          cases resolved with
          | none => exact ⟨other _ _ rfl, fun _ => fails _ _⟩
          | some user =>
            obtain ⟨copy, id, owns⟩ : ∃ copy : UserObject, user.id = copy.id ∧
                (⟨.selectLinkedUser YANDEX profile.id, some copy⟩ ∈ last ∨
                  ∃ pending id ownerId role, ⟨.refreshUser ownerId role, some copy⟩ ∈ last ∧
                    ⟨.commit .request (pending ++ [.insertOAuthAccount ⟨id, YANDEX, profile.id, ownerId⟩]), .ok ()⟩ ∈
                      last) := by
              cases ends with
              | found => exact ⟨user, rfl, .inl List.mem_cons_self⟩
              | linked owner _ _ attached =>
                cases attached with
                | linked id => exact ⟨user, rfl, .inr ⟨[], id, owner.id, _, List.mem_cons_self, by simp⟩⟩
              | added new middle _ created stored grown attached =>
                cases attached with
                | linked id =>
                  refine ⟨created, rfl, .inr ⟨[.insertUser new], id, new.id, (newUserObject new).role != .noValue,
                    ?_, ?_⟩⟩
                  · exact List.mem_cons_of_mem _ List.mem_cons_self
                  · exact List.mem_cons_of_mem _ (List.mem_cons_of_mem _ List.mem_cons_self)
            exact issues last copy user (((initial.trans grown).trans more).trans kept)
              ⟨⟨codeVerifier, kept.subset consumed⟩, profile, SawProfile.mono fetched kept, owns⟩ id
        · exact fun _ _ _ => fails _ _
      · exact fun _ _ _ => fails _ _
    · exact fun _ _ _ => fails _ _
  · exact fun _ _ _ => fails _ _

end Logins

/-- A returned pair is one of the user that the client is entitled to. -/
def Grants (app : App Token) (request : Request Token) (trace : Trace Reply)
    (outcome : Except Exn (TokenData Token)) : Prop :=
  ∀ pair, outcome = .ok pair → ∃ copy user, request.EntitledTo app trace copy ∧ user.id = copy.id ∧
    IssuedFor app trace user pair

theorem grants_error {request : Request Token} {error : Exn} : Grants app request trace (.error error) := by
  rintro pair ⟨⟩

theorem Grants.mono {request : Request Token} {outcome : Except Exn (TokenData Token)}
    (grants : Grants app request trace outcome) (grown : trace <:+ later) : Grants app request later outcome := by
  intro pair same
  obtain ⟨copy, user, entitled, id, issued⟩ := grants pair same
  exact ⟨copy, user, entitled.mono fun _ seen => grown.subset seen, id, issued.mono grown⟩

theorem issueTokenPair_grants {request : Request Token} (entitled : request.EntitledTo app trace copy)
    (id : user.id = copy.id) :
    (issueTokenPair app user).Along (fun _ _ => True) (Grants app request) trace := by
  apply (issueTokenPair_along (fun _ => trivial) (fun _ => trivial) user).mono fun _ _ admitted => admitted
  rintro later _ ⟨grown, issued⟩ pair rfl
  exact ⟨copy, user, entitled.mono fun _ seen => grown.subset seen, id, issued⟩

theorem issue_and_record_grants {request : Request Token} (entitled : request.EntitledTo app trace copy)
    (id : user.id = copy.id) (requestMeta : RequestMeta) (deviceInfo : Option DeviceInfo) :
    (do
      let tokens ← issueTokenPair app user
      saveLoginHistory user.id requestMeta deviceInfo
      return tokens : Action (TokenData Token)).Along (fun _ _ => True) (Grants app request) trace := by
  apply Along.bind (issueTokenPair_grants entitled id)
  · intro tokens middle grants
    apply Along.bind (saveLoginHistory_along (fun _ => trivial) (fun _ => trivial) (fun _ _ => trivial)
      user.id requestMeta deviceInfo)
    · rintro _ later ⟨grown, _⟩ pair ⟨⟩
      exact grants.mono grown tokens rfl
    · exact fun _ _ _ => grants_error
  · exact fun _ _ _ => grants_error

theorem loginUser_grants (data : UserLoginData) (requestMeta : RequestMeta) (deviceInfo : Option DeviceInfo) :
    (AuthService.loginUser app data requestMeta deviceInfo).Along (fun _ _ => True)
      (Grants app (.loginUser data requestMeta deviceInfo)) trace :=
  loginUser_entitles (fun _ _ _ => trivial) (fun _ _ => grants_error) data requestMeta deviceInfo
    fun _ _ _ _ entitled id => issue_and_record_grants entitled id requestMeta deviceInfo

theorem refreshTokens_grants (refreshToken : Token) :
    (AuthService.refreshTokens app refreshToken).Along (fun _ _ => True) (Grants app (.refreshTokens refreshToken))
      trace := by
  refine ⟨trivial, fun decodedAt => ?_⟩
  simp only [done_bind]
  split
  · exact grants_error
  · exact grants_error
  · next claims decoded =>
    split
    · exact grants_error
    · next payload valid =>
      have type : claims.type = "refresh" := by
        by_contra other
        simp [RefreshTokenPayload.modelValidate, other] at valid
      rw [RefreshTokenPayload.modelValidate_eq_some valid]
      refine ⟨trivial, fun entry => ?_⟩
      cases entry with
      | error error => exact grants_error
      | ok entry =>
        simp only [attempt_ok, done_bind, pure_eq]
        split
        · exact grants_error
        · next unlisted =>
          obtain rfl : entry = none := by simpa using unlisted
          refine ⟨trivial, fun found => ?_⟩
          cases found with
          | none => exact grants_error
          | some user =>
            simp only [done_bind]
            split
            · next version =>
              refine ⟨trivial, fun now => ⟨trivial, fun reply => ?_⟩⟩
              cases reply with
              | error error => exact grants_error
              | ok _ =>
                refine issueTokenPair_grants ?_ rfl
                exact ⟨decodedAt, claims, _, by simp, decoded, type, by simp, by simp, version, List.mem_cons_self⟩
            · exact grants_error

theorem logoutOthers_grants {accessToken : Token} (opens : AuthenticatesAs app trace accessToken copy) :
    (AuthService.logoutOthers app copy).Along (fun _ _ => True)
      (Grants app (.userEndpoint accessToken .logoutOthers)) trace := by
  refine ⟨trivial, fun reply => ?_⟩
  cases reply with
  | error error => exact grants_error
  | ok _ =>
    refine ⟨trivial, fun found => ?_⟩
    cases found with
    | none => exact grants_error
    | some found =>
      have entitled : (Request.userEndpoint accessToken .logoutOthers).EntitledTo app trace copy := opens
      exact issueTokenPair_grants (entitled.mono fun _ seen => by simp [seen]) rfl

theorem authorize_grants (code : String) (state : UUID) (requestMeta : RequestMeta) (deviceInfo : DeviceInfo) :
    (YandexIdService.authorize app code state requestMeta deviceInfo).Along (fun _ _ => True)
      (Grants app (.authorize code state requestMeta deviceInfo)) trace :=
  authorize_entitles (fun _ _ _ => trivial) (fun _ _ => grants_error) code state requestMeta deviceInfo
    fun _ _ _ _ entitled id => issue_and_record_grants entitled id requestMeta (some deviceInfo)

end Grants

section Requests

variable {app} {trace : Trace Reply}

/-- What a request returns is no pair, or one that its client is entitled to. -/
def GrantsTokens (app : App Token) (request : Request Token) (trace : Trace Reply)
    (outcome : Except Exn (Outcome Token)) : Prop :=
  ∀ pair, outcome = .ok (.tokens pair) → Grants app request trace (.ok pair)

theorem grantsTokens_error {request : Request Token} {error : Exn} : GrantsTokens app request trace (.error error) := by
  rintro pair ⟨⟩

/-- A service that returns no pair. -/
theorem grantsTokens_without {α : Type} {program : Action α} {wrap : α → Outcome Token} {request : Request Token}
    (other : ∀ value pair, wrap value ≠ .tokens pair) :
    (program.bind fun value => .done (wrap value)).Along (fun _ _ => True) (GrantsTokens app request) trace := by
  apply Along.bind along_any
  · rintro value later _ pair same
    exact absurd (Except.ok.inj same) (other value pair)
  · exact fun _ _ _ => grantsTokens_error

/-- A service that returns a pair. -/
theorem grantsTokens_pair {program : Action (TokenData Token)} {request : Request Token}
    (along : program.Along (fun _ _ => True) (Grants app request) trace) :
    (program.bind fun pair => .done (Outcome.tokens pair)).Along (fun _ _ => True) (GrantsTokens app request)
      trace := by
  apply Along.bind along
  · rintro pair later grants _ ⟨⟩
    exact grants
  · exact fun _ _ _ => grantsTokens_error

theorem grantsTokens_session {program : Action (Outcome Token)} {request : Request Token}
    (along : program.Along (fun _ _ => True) (GrantsTokens app request) trace) :
    (withSession program).Along (fun _ _ => True) (GrantsTokens app request) trace := by
  apply along_withSession fun _ => trivial
  apply along.mono fun _ _ _ => trivial
  exact fun later outcome grants pair same => (grants pair same).mono (List.suffix_cons _ _)

theorem roleOperation_grantsTokens (operation : RoleOperation) {request : Request Token} :
    (operation.program app).Along (fun _ _ => True) (GrantsTokens app request) trace := by
  cases operation <;> exact grantsTokens_without (by simp)

/-- Every request returns pairs to clients that are entitled to them. -/
theorem Request.grantsTokens (request : Request Token) :
    (request.program app).Along (fun _ _ => True) (GrantsTokens app request) [] := by
  cases request with
  | loginUser data requestMeta deviceInfo =>
    exact grantsTokens_session (grantsTokens_pair (loginUser_grants data requestMeta deviceInfo))
  | refreshTokens refreshToken => exact grantsTokens_session (grantsTokens_pair (refreshTokens_grants refreshToken))
  | authorize code state requestMeta deviceInfo =>
    exact grantsTokens_session (grantsTokens_pair (authorize_grants code state requestMeta deviceInfo))
  | userEndpoint accessToken operation =>
    apply grantsTokens_session
    apply Along.bind (getTokenUser_authenticates accessToken (fun _ => trivial) fun _ _ => trivial)
    · intro user later opens
      cases operation with
      | checkAccess => rintro pair ⟨⟩
      | logoutOthers => exact grantsTokens_pair (logoutOthers_grants (opens user rfl))
      | _ => exact grantsTokens_without (by simp)
    · exact fun _ _ _ => grantsTokens_error
  | role operation => exact grantsTokens_session (roleOperation_grantsTokens operation)
  | roleEndpoint accessToken operation =>
    apply Along.bind along_any
    · exact fun _ _ _ => grantsTokens_session (roleOperation_grantsTokens operation)
    · exact fun _ _ _ => grantsTokens_error
  | logout refreshToken => exact grantsTokens_session (grantsTokens_without (by simp))
  | createUser data => exact grantsTokens_session (grantsTokens_without (by simp))
  | createSuperuser email password => exact grantsTokens_session (grantsTokens_without (by simp))
  | getOrCreateDefaultRole => exact grantsTokens_without (by simp)
  | oauthLogin http => exact grantsTokens_without (by simp)
  | confirmLoginYandex http => exact grantsTokens_without (by simp)

end Requests

/-- The tokens a client finds in a response, in its body and in its cookies. -/
def ApiResponse.tokens (response : ApiResponse Token) : List Token :=
  (match response.body with
    | .access token => [token]
    | _ => []) ++ response.cookies.filterMap Cookie.token?

/-- How long a token of the type is valid, in seconds. -/
def JWTSettings.lifetime (settings : JWTSettings) (type : String) : ℤ :=
  if type = "access" then settings.accessTokenExpireMinutes * 60 else settings.refreshTokenExpireDays * 86400

/-- The token was signed for the user, at a time the request has read and for the lifetime of its type. -/
structure SignedAt (trace : Trace Reply) (userId : UUID4) (token : Token) (claims : Claims) (issued : Time) :
    Prop where
  verified : app.jwt.verify token = some claims
  sub : claims.sub = userId
  read : ⟨.now, issued⟩ ∈ trace
  iat : claims.iat = issued.seconds
  exp : claims.exp = issued.seconds + app.jwtSettings.lifetime claims.type

/-- What entitles a request of the API to tokens of a user. -/
inductive ApiRequest.EntitledTo (trace : Trace Reply) (copy : UserObject) : ApiRequest Token → Prop
  | password (http : HttpRequest) (data : UserLoginData) (shown : ByPassword app trace copy data) :
      EntitledTo trace copy (.issueTokens http (.data data))
  | refreshToken (http : HttpRequest) (refreshToken : Token) (shown : ByRefreshToken app trace copy refreshToken) :
      EntitledTo trace copy (.refreshTokens http (some refreshToken))
  | accessToken (http : HttpRequest) (accessToken : Token) (shown : AuthenticatesAs app trace accessToken copy) :
      EntitledTo trace copy (.logoutOthers http (.bearer accessToken))
  | profile (http : HttpRequest) (state : UUID) (presented : validateLoginState http state = .ok ())
      (shown : ByProfile app trace copy state) : EntitledTo trace copy (.confirmLoginYandex http)

section Responses

variable {app} {request : ApiRequest Token} {service : Service Token} {response : ApiResponse Token} {token : Token}

theorem SignedAt.mono {trace later : Trace Reply} {userId : UUID4} {claims : Claims} {issued : Time}
    (signed : SignedAt app trace userId token claims issued) (grown : ∀ exchange ∈ trace, exchange ∈ later) :
    SignedAt app later userId token claims issued :=
  { signed with read := grown _ signed.read }

theorem ApiResponse.tokens_subset {sent : ApiResponse Token} (body : sent.body = response.body)
    (cookies : sent.cookies ⊆ response.cookies) : sent.tokens ⊆ response.tokens := by
  intro token carried
  unfold ApiResponse.tokens at carried ⊢
  rw [body] at carried
  obtain shown | set := List.mem_append.mp carried
  · exact List.mem_append_left _ shown
  · exact List.mem_append_right _ (List.filterMap_subset _ cookies set)

/-- The middleware adds no tokens to a response. -/
theorem ApiRequest.sent_tokens {requestId : String} {outcome : Except Exn (ApiResponse Token)}
    (carries : token ∈ (sent app requestId outcome).tokens) :
    ∃ response, outcome = .ok response ∧ token ∈ response.tokens := by
  cases outcome with
  | ok response =>
    have cookies := response.toHttpResponse.withRequestId_cookies_subset app.settings.requestIdHeader requestId
    have given := @ApiResponse.tokens_subset _ response (sent app requestId (.ok response)) rfl cookies
    exact ⟨response, rfl, given carries⟩
  | error error =>
    have none : ({ toHttpResponse := (exceptionResponse error).2 } : ApiResponse Token).tokens = [] := by
      cases error <;> rfl
    have among : token ∈ ({ toHttpResponse := (exceptionResponse error).2 } : ApiResponse Token).tokens := by
      refine ApiResponse.tokens_subset ?_ ?_ carries
      · cases error <;> rfl
      · simp only [sent]
        split
        · exact List.Subset.refl _
        · exact HttpResponse.withRequestId_cookies_subset _ _ _
    rw [none] at among
    cases among

theorem RoutesRole.answered_tokens (outcome : Outcome Token) : (RoutesRole.answered outcome).tokens = [] := by
  cases outcome <;> rfl

/-- A route puts the pair of its service into the response, and no other tokens. -/
theorem ApiRequest.answer_tokens {result : ServiceResult Token}
    (made : request.answer app service result = .ok response)
    (carries : token ∈ response.tokens) :
    ∃ pair, result = .outcome (.tokens pair) ∧ token ∈ [pair.access, pair.refresh] := by
  have mapped {β : Type} {checked : Except Exn β} {wrap : β → ApiResponse Token}
      (made : checked.map wrap = .ok response) (plain : ∀ value, (wrap value).tokens = []) : False := by
    cases checked with
    | ok value =>
      cases made
      rw [plain value] at carries
      cases carries
    | error error => cases made
  unfold ApiRequest.answer at made
  split at made
  case h_1 | h_2 | h_3 | h_11 =>
    cases made
    exact ⟨_, rfl, carries⟩
  case h_5 | h_6 => exact (mapped made fun _ => rfl).elim
  case h_12 =>
    cases made
    rw [RoutesRole.answered_tokens] at carries
    cases carries
  all_goals
    cases made <;> cases carries

/-- Both tokens of an issued pair are signed for its user. -/
theorem IssuedFor.signed {trace : Trace Reply} {user : UserObject} {pair : TokenData Token}
    (issued : IssuedFor app trace user pair) (among : token ∈ [pair.access, pair.refresh]) :
    ∃ claims time, SignedAt app trace user.id token claims time := by
  obtain ⟨accessTime, refreshTime, accessId, refreshId, roleClaims, readAccess, readRefresh, _, access, refresh⟩ :=
    issued
  rcases List.mem_pair.mp among with rfl | rfl
  · exact ⟨_, accessTime, access ▸ app.jwt.verify_encode _, rfl, readAccess, rfl, rfl⟩
  · exact ⟨_, refreshTime, refresh ▸ app.jwt.verify_encode _, rfl, readRefresh, rfl, rfl⟩

/-- What entitles to tokens of the service entitles to those of the route. -/
theorem ApiRequest.Asks.entitled {asked : Request Token} (asks : request.Asks app (.request asked))
    {trace shown : Trace Reply} {copy : UserObject} (entitled : asked.EntitledTo app shown copy)
    (shows : Shows app trace shown) : request.EntitledTo app trace copy := by
  have entitled := entitled.mono fun _ seen => shows.sublist.subset seen
  cases asks with
  | issueTokens http data deviceInfo => exact .password http data entitled
  | refreshTokens http refreshToken => exact .refreshToken http refreshToken entitled
  | logoutOthers http accessToken => exact .accessToken http accessToken entitled
  | confirmLoginYandex http code state deviceInfo device granted stated presented =>
    exact .profile http state presented entitled
  | _ => cases entitled

/-- The tokens of a response are tokens of one user, to which the client is entitled. -/
def ApiRequest.GrantsTokens (app : App Token) (request : ApiRequest Token) (trace : Trace Reply)
    (response : ApiResponse Token) : Prop :=
  response.tokens = [] ∨ ∃ copy, request.EntitledTo app trace copy ∧
    ∀ token ∈ response.tokens, ∃ claims time, SignedAt app trace copy.id token claims time

theorem Service.grantsTokens (service : Service Token) :
    (service.program app).Along (fun _ _ => True) (fun trace outcome => ∀ pair,
      outcome = .ok (.outcome (.tokens pair)) → ∃ asked, service = .request asked ∧ Grants app asked trace (.ok pair))
      [] := by
  have empty {trace : Trace Reply} : (withSession (.done (.outcome .unit)) : Action (ServiceResult Token)).Along
      (fun _ _ => True) (fun _ outcome => ∀ pair, outcome ≠ .ok (.outcome (.tokens pair))) trace := by
    apply along_withSession fun _ => trivial
    rintro pair ⟨⟩
  cases service with
  | idle => exact empty.mono (fun _ _ _ => trivial) fun _ _ other pair same => absurd same (other pair)
  | gate accessToken =>
    apply Along.bind along_any
    · intro _ later _
      exact empty.mono (fun _ _ _ => trivial) fun _ _ other pair same => absurd same (other pair)
    · rintro error later _ pair ⟨⟩
  | request asked =>
    apply Along.bind asked.grantsTokens
    · rintro outcome later grants pair ⟨⟩
      exact ⟨asked, rfl, grants pair rfl⟩
    · rintro error later _ pair ⟨⟩
  | buildLoginRedirect state =>
    apply along_withSession fun _ => trivial
    apply Along.bind along_any
    · rintro url later _ pair ⟨⟩
    · rintro error later _ pair ⟨⟩

theorem ApiRequest.grantsTokens (request : ApiRequest Token) :
    (request.program app).Along (fun _ _ => True)
      (fun trace outcome => ∃ response, outcome = .ok response ∧ request.GrantsTokens app trace response) [] := by
  apply (request.along fun service _ => service.grantsTokens).mono fun _ _ _ => trivial
  rintro trace _ ⟨response, rfl, answered⟩
  refine ⟨response, rfl, or_iff_not_imp_left.mpr fun some => ?_⟩
  obtain ⟨token, carries⟩ := List.exists_mem_of_ne_nil _ some
  have pairOf {service : Service Token} {image : Except Exn (ServiceResult Token)} {requestId : String}
      {routed : Except Exn (ApiResponse Token)} (replies : request.Replies app service image routed) {token : Token}
      (carries : token ∈ (sent app requestId routed).tokens) :
      ∃ pair, image = .ok (.outcome (.tokens pair)) ∧ token ∈ [pair.access, pair.refresh] := by
    obtain ⟨response, rfl, given⟩ := sent_tokens carries
    generalize routed_eq : (Except.ok response : Except Exn (ApiResponse Token)) = routed at replies
    cases replies with
    | answered something result =>
      obtain ⟨pair, rfl, among⟩ := answer_tokens routed_eq.symm given
      exact ⟨pair, rfl, among⟩
    | _ => cases routed_eq
  cases answered with
  | turnedAway requestId has error away silent =>
    obtain ⟨_, impossible, _⟩ := sent_tokens carries
    cases impossible
  | replied requestId has service asks shown shows image ends routed replies =>
    obtain ⟨pair, rfl, _⟩ := pairOf replies carries
    obtain ⟨asked, rfl, grants⟩ := ends pair rfl
    obtain ⟨copy, user, entitled, id, issued⟩ := grants pair rfl
    refine ⟨copy, asks.entitled entitled shows, fun other carried => ?_⟩
    obtain ⟨_, same, among⟩ := pairOf replies carried
    cases same
    obtain ⟨claims, time, signed⟩ := issued.signed among
    rw [id] at signed
    exact ⟨claims, time, signed.mono fun _ seen => shows.sublist.subset seen⟩

end Responses

end AuthApi
