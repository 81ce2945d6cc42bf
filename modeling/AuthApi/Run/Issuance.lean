import AuthApi.Run.Users

/-! # Where token pairs come from

Every pair a request returns was made for a copy of a user row the request had read, with the
version of that copy, or with the next version after the request itself committed it.
-/

namespace AuthApi

open Interleaving Interleaving.Program

section Pairs

variable {Token : Type} {app : App Token} {trace later : Trace Reply}

/-- The commit of `logout_others` for a copy of a user. -/
def bumpOf (copy : UserObject) : List Write :=
  userUpdate copy.toUser { copy.toUser with tokenVersion := copy.tokenVersion + 1 }

/-- The pair was issued for `user`, an instance based on a row the request read as `copy`. -/
def IssuedFrom (app : App Token) (trace : Trace Reply) (copy user : UserObject)
    (pair : TokenData Token) : Prop :=
  SawUser trace copy ∧ user.id = copy.id ∧ user.isSuperuser = copy.isSuperuser ∧
    (user.tokenVersion = copy.tokenVersion ∨
      user.tokenVersion = copy.tokenVersion + 1 ∧
        ⟨.commit .request (bumpOf copy), .ok ()⟩ ∈ trace) ∧
    IssuedFor app trace user pair

def IssuedPair (app : App Token) (trace : Trace Reply) (pair : TokenData Token) : Prop :=
  ∃ copy user, IssuedFrom app trace copy user pair

theorem IssuedPair.mono {pair : TokenData Token} (issued : IssuedPair app trace pair)
    (grown : trace <:+ later) : IssuedPair app later pair := by
  obtain ⟨copy, user, saw, id, flag, version, pairs⟩ := issued
  refine ⟨copy, user, saw.mono grown, id, flag, ?_, pairs.mono grown⟩
  exact version.imp_right fun ⟨next, bumped⟩ => ⟨next, grown.subset bumped⟩

/-- A specification of outcomes that is about returned pairs. -/
def PairsIssued (app : App Token) (trace : Trace Reply) (outcome : Except Exn (TokenData Token)) :
    Prop :=
  ∀ pair, outcome = .ok pair → IssuedPair app trace pair

private theorem issueTokenPair_issues {copy user : UserObject} (saw : SawUser trace copy)
    (id : user.id = copy.id) (flag : user.isSuperuser = copy.isSuperuser)
    (version : user.tokenVersion = copy.tokenVersion ∨
      user.tokenVersion = copy.tokenVersion + 1 ∧
        ⟨.commit .request (bumpOf copy), .ok ()⟩ ∈ trace) :
    (issueTokenPair app user).Along (fun _ _ => True) (PairsIssued app) trace := by
  refine (issueTokenPair_along (fun _ => trivial) (fun _ => trivial) user).mono
    (fun _ _ admitted => admitted) ?_
  rintro later outcome ⟨grown, ends⟩ pair same
  subst same
  refine ⟨copy, user, saw.mono grown, id, flag, ?_, ends⟩
  exact version.imp_right fun ⟨next, bumped⟩ => ⟨next, grown.subset bumped⟩

theorem loginUser_issues (data : UserLoginData) (requestMeta : RequestMeta)
    (deviceInfo : Option DeviceInfo) :
    (AuthService.loginUser app data requestMeta deviceInfo).Along (fun _ _ => True)
      (PairsIssued app) trace := by
  refine ⟨trivial, fun found => ?_⟩
  cases found with
  | none => exact nofun
  | some user =>
    simp only [done_bind]
    split
    · refine Along.bind (issueTokenPair_issues ⟨_, List.mem_cons_self, rfl⟩ rfl rfl (.inl rfl)) ?_
        fun _ _ _ => nofun
      intro tokens later issued
      refine Along.bind (saveLoginHistory_along (fun _ => trivial) (fun _ => trivial)
        (fun _ _ => trivial) _ _ _) ?_ fun _ _ _ => nofun
      rintro _ last ⟨grown, _⟩ pair same
      cases same
      exact (issued tokens rfl).mono grown
    · exact nofun

theorem refreshTokens_issues (token : Token) :
    (AuthService.refreshTokens app token).Along (fun _ _ => True) (PairsIssued app) trace := by
  refine ⟨trivial, fun decodedAt => ?_⟩
  simp only [done_bind]
  split
  · exact nofun
  · exact nofun
  · split
    · exact nofun
    · refine ⟨trivial, fun entry => ?_⟩
      cases entry with
      | error error => exact nofun
      | ok entry =>
        simp only [attempt_ok, done_bind, pure_eq]
        split
        · exact nofun
        · refine ⟨trivial, fun found => ?_⟩
          cases found with
          | none => exact nofun
          | some user =>
            simp only [done_bind]
            split
            · refine ⟨trivial, fun now => ⟨trivial, fun reply => ?_⟩⟩
              cases reply with
              | error error => exact nofun
              | ok _ =>
                exact issueTokenPair_issues ⟨⟨.selectUserById _ true, some user⟩,
                  List.mem_cons_of_mem _ (List.mem_cons_of_mem _ List.mem_cons_self), rfl⟩ rfl rfl
                  (.inl rfl)
            · exact nofun

theorem logoutOthers_issues {user : UserObject} (saw : SawUser trace user) :
    (AuthService.logoutOthers app user).Along (fun _ _ => True) (PairsIssued app) trace := by
  refine ⟨trivial, fun reply => ?_⟩
  cases reply with
  | error error => exact nofun
  | ok _ =>
    refine ⟨trivial, fun found => ?_⟩
    cases found with
    | none => exact nofun
    | some found =>
      exact issueTokenPair_issues (saw.mono (List.suffix_append [_, _] trace)) rfl rfl
        (.inr ⟨rfl, by simp [bumpOf]⟩)

theorem authorize_issues (code : String) (state : UUID) (requestMeta : RequestMeta)
    (deviceInfo : DeviceInfo) :
    (YandexIdService.authorize app code state requestMeta deviceInfo).Along (fun _ _ => True)
      (PairsIssued app) trace := by
  refine Along.bind along_any ?_ fun _ _ _ => nofun
  intro codeVerifier _ _
  refine Along.bind along_any ?_ fun _ _ _ => nofun
  intro tokenData _ _
  refine Along.bind along_any ?_ fun _ _ _ => nofun
  intro profile _ _
  refine Along.bind (resolveUser_ends profile) ?_ fun _ _ _ => nofun
  intro resolved later ends
  cases resolved with
  | none => exact ⟨trivial, fun _ => nofun⟩
  | some user =>
    obtain ⟨copy, sawCopy, same⟩ := ends.saw
    refine Along.bind (issueTokenPair_issues sawCopy (by rw [same]) (by rw [same])
      (.inl (by rw [same]))) ?_ fun _ _ _ => nofun
    intro tokens later issued
    refine Along.bind (saveLoginHistory_along (fun _ => trivial) (fun _ => trivial)
      (fun _ _ => trivial) _ _ _) ?_ fun _ _ _ => nofun
    rintro _ last ⟨grown, _⟩ pair ⟨⟩
    exact (issued tokens rfl).mono grown

end Pairs

section Requests

variable {Token : Type} {app : App Token}

/-- The refresh token of a cookie. -/
def Cookie.token? (cookie : Cookie Token) : Option Token :=
  match cookie.value with
  | .text _ => none
  | .token token => some token

/-- The pair a browser receives: the access token in the body and the refresh token in a cookie. -/
def HttpResponse.pair? (response : HttpResponse Token) : Option (TokenData Token) :=
  match response.body, response.cookies.filterMap Cookie.token? with
  | .access access, [refresh] => some ⟨access, refresh⟩
  | _, _ => none

/-- The pair a request hands out, if it hands out one. -/
def Outcome.pair? : Outcome Token → Option (TokenData Token)
  | .tokens pair => some pair
  | .response sent => sent.pair?
  | _ => none

/-- What a request may return: no pair, or an issued one. -/
def OutcomeIssued (app : App Token) (trace : Trace Reply) (outcome : Except Exn (Outcome Token)) :
    Prop :=
  ∀ value pair, outcome = .ok value → value.pair? = some pair → IssuedPair app trace pair

private theorem along_without_pair {α : Type} {program : Action α} {result : α → Outcome Token}
    {trace : Trace Reply} (other : ∀ value, (result value).pair? = none) :
    (do return result (← program)).Along (fun _ _ => True) (OutcomeIssued app) trace := by
  refine Along.bind along_any ?_ fun _ _ _ => nofun
  rintro value later _ _ pair ⟨⟩ handed
  rw [other value] at handed
  cases handed

private theorem closed_issues {program : Action (Outcome Token)} {trace : Trace Reply}
    (along : program.Along (fun _ _ => True) (OutcomeIssued app) trace) :
    (withSession program).Along (fun _ _ => True) (OutcomeIssued app) trace :=
  along_withSession (fun _ => trivial) <| along.mono (fun _ _ admitted => admitted)
    fun _ _ issued value pair same handed => (issued value pair same handed).mono (List.suffix_cons _ _)

private theorem pair_issues {program : Action (TokenData Token)} {trace : Trace Reply}
    (along : program.Along (fun _ _ => True) (PairsIssued app) trace) :
    (do return Outcome.tokens (← program)).Along (fun _ _ => True) (OutcomeIssued app) trace := by
  refine Along.bind along ?_ fun _ _ _ => nofun
  rintro tokens later issued value pair ⟨⟩ ⟨⟩
  exact issued tokens rfl

private theorem roleOperation_issues (operation : RoleOperation) (trace : Trace Reply) :
    (operation.program app).Along (fun _ _ => True) (OutcomeIssued app)
      trace := by
  cases operation <;> exact along_without_pair fun _ => rfl

/-- A response that hands out no pair, or an issued one. -/
private def ResponseIssued (app : App Token) (trace : Trace Reply)
    (outcome : Except Exn (HttpResponse Token)) : Prop :=
  ∀ response pair, outcome = .ok response → response.pair? = some pair → IssuedPair app trace pair

/-- A response without cookies hands out no pair. -/
theorem pair?_eq_none {response : HttpResponse Token} (bare : response.cookies = []) : response.pair? = none := by
  unfold HttpResponse.pair?
  rw [bare, List.filterMap_nil]
  cases response.body <;> rfl

/-- The middleware adds no tokens to a response. -/
theorem sent_pair {requestId : String} {outcome : Except Exn (HttpResponse Token)}
    {pair : TokenData Token} (handed : (app.sent requestId outcome).pair? = some pair) :
    ∃ response, outcome = .ok response ∧ response.pair? = some pair := by
  cases outcome with
  | ok response =>
    refine ⟨response, rfl, ?_⟩
    change (response.withRequestId app.settings.requestIdHeader requestId).pair? = some pair at handed
    by_cases renamed : app.settings.requestIdHeader.toLower = "set-cookie"
    · rw [pair?_eq_none (if_pos renamed)] at handed
      cases handed
    · have kept := response.withRequestId_cookies requestId renamed
      unfold HttpResponse.pair? at handed ⊢
      rw [kept] at handed
      exact handed
  | error error =>
    rw [pair?_eq_none (app.sent_error_cookies requestId error)] at handed
    cases handed

theorem confirmLoginYandex_issues (http : HttpRequest) :
    (confirmLoginYandex app http).Along (fun _ _ => True) (ResponseIssued app) [] := by
  refine along_requestIdMiddleware (q := ResponseIssued app) (fun _ => trivial) ?_ ?_
  · intro later _
    refine Along.bind along_any ?_ fun _ _ _ => nofun
    intro _ later _
    simp only
    split
    · exact nofun
    · refine Along.bind along_any ?_ fun _ _ _ => nofun
      intro deviceId later _
      split
      · exact nofun
      · refine along_withSession (fun _ => trivial) ?_
        split
        · refine Along.bind (q := PairsIssued app) (Along.handle
            (authorize_issues _ _ _ _) (fun _ _ issued => issued) fun _ _ _ => nofun) ?_
            fun _ _ _ => nofun
          rintro tokens last issued _ pair ⟨⟩ ⟨⟩
          exact (issued tokens rfl).mono (List.suffix_cons _ _)
        · exact nofun
  · rintro later outcome requestId issued _ pair ⟨⟩ handed
    obtain ⟨response, rfl, shown⟩ := sent_pair handed
    exact issued response pair rfl shown

/-- The login route hands out no tokens. -/
theorem oauthLogin_issues (http : HttpRequest) :
    (oauthLogin app http).Along (fun _ _ => True) (ResponseIssued app) [] := by
  refine along_requestIdMiddleware (q := ResponseIssued app) (fun _ => trivial) ?_ ?_
  · intro later _
    refine Along.bind along_any ?_ fun _ _ _ => nofun
    intro _ later _
    refine ⟨trivial, fun state => along_withSession (fun _ => trivial)
      (Along.bind along_any ?_ fun _ _ _ => nofun)⟩
    rintro redirectUrl last _ _ pair ⟨⟩ ⟨⟩
  · rintro later outcome requestId issued _ pair ⟨⟩ handed
    obtain ⟨response, rfl, shown⟩ := sent_pair handed
    exact issued response pair rfl shown

private theorem response_issues {program : Action (HttpResponse Token)}
    (along : program.Along (fun _ _ => True) (ResponseIssued app) []) :
    (do return Outcome.response (← program)).Along (fun _ _ => True) (OutcomeIssued app) [] := by
  refine Along.bind along ?_ fun _ _ _ => nofun
  rintro response later issued _ pair ⟨⟩ handed
  exact issued response pair rfl handed

/-- Every pair a request hands out was issued from a row it read. -/
theorem Request.issues (request : Request Token) :
    (request.program app).Along (fun _ _ => True) (OutcomeIssued app) [] := by
  cases request with
  | loginUser data requestMeta deviceInfo =>
    exact closed_issues (pair_issues (loginUser_issues data requestMeta deviceInfo))
  | refreshTokens refreshToken => exact closed_issues (pair_issues (refreshTokens_issues refreshToken))
  | logout refreshToken => exact closed_issues (along_without_pair fun _ => rfl)
  | createUser data => exact closed_issues (along_without_pair fun _ => rfl)
  | createSuperuser email password => exact closed_issues (along_without_pair fun _ => rfl)
  | getOrCreateDefaultRole => exact along_without_pair fun _ => rfl
  | userEndpoint accessToken operation =>
    refine closed_issues (Along.bind (getTokenUser_along (fun _ => trivial) accessToken
      fun _ _ _ => trivial) ?_ fun _ _ _ => nofun)
    rintro user _ ⟨time, payload, _, _, rfl⟩
    cases operation with
    | checkAccess => rintro _ pair ⟨⟩ ⟨⟩
    | logoutOthers => exact pair_issues (logoutOthers_issues ⟨_, List.mem_cons_self, rfl⟩)
    | _ => exact along_without_pair fun _ => rfl
  | role operation => exact closed_issues (roleOperation_issues operation _)
  | roleEndpoint accessToken operation =>
    refine Along.bind along_any ?_ fun _ _ _ => nofun
    exact fun _ later _ => closed_issues (roleOperation_issues operation later)
  | authorize code state requestMeta deviceInfo =>
    exact closed_issues (pair_issues (authorize_issues code state requestMeta deviceInfo))
  | oauthLogin http => exact response_issues (oauthLogin_issues http)
  | confirmLoginYandex http => exact response_issues (confirmLoginYandex_issues http)

end Requests

end AuthApi
