import AuthApi.Interleaving.Lockstep
import AuthApi.Run.Histories
import AuthApi.Run.Login

/-! # The OAuth client secret and the browser

Two configurations that differ in the client secret run in lockstep: the secret goes out in the
`Authorization` header of the code exchange, which no reply depends on. The redirect of a login
request carries the same header, so whoever is redirected learns the secret.
-/

namespace AuthApi

open Interleaving Interleaving.Program YandexIdService

/-- Calls that differ in the authorization of a code exchange at most. -/
inductive Twin : Call → Call → Prop
  | same (call : Call) : Twin call call
  | httpPost (url : String) (data : YandexIdTokenRequestData) (first second : String) :
      Twin (.httpPost url data first) (.httpPost url data second)

theorem answers_alike : AnswersAlike World.answer Twin := by
  intro tid choice call other world reply after twin answered
  cases twin with
  | same => exact ⟨reply, .rfl, answered⟩
  | httpPost url data first second => exact ⟨reply, .rfl, answered⟩

theorem lockstep_self {α : Type} (program : Action α) : program.Lockstep Twin Eq program :=
  Lockstep.refl .same program

section Programs

variable {Token : Type} {app : App Token} {clientSecret : String}

/-- The configuration with another client secret. -/
abbrev App.withSecret (app : App Token) (clientSecret : String) : App Token :=
  { app with yandexidSettings := { app.yandexidSettings with clientSecret } }

/-- The responses of a route in the two configurations, once the middleware has dealt with them. -/
def BothSent (app : App Token) (post : HttpResponse Token → HttpResponse Token → Prop)
    (response other : HttpResponse Token) : Prop :=
  ∃ requestId routed routed', Outcomes post routed routed' ∧
    response = app.sent requestId routed ∧ other = app.sent requestId routed'

/-- The response the middleware has for an outcome of the route, before the request id is set. -/
private def responseMade : Except Exn (HttpResponse Token) → Bool × HttpResponse Token
  | .ok response => (false, response)
  | .error error => exceptionResponse error

theorem requestIdMiddleware_lockstep {post : HttpResponse Token → HttpResponse Token → Prop}
    {http : HttpRequest} {route route' : Action (HttpResponse Token)}
    (locked : route.Lockstep Twin post route') :
    (requestIdMiddleware app http route).Lockstep Twin (BothSent app post)
      (requestIdMiddleware app http route') := by
  refine (lockstep_self _).bind ?_
  rintro requestId _ rfl
  have answered : (tryCatch ((fun response => (false, response)) <$> route)
        fun error => pure (exceptionResponse error) : Action (Bool × HttpResponse Token)).Lockstep Twin
      (fun first second => ∃ routed routed', Outcomes post routed routed' ∧
        first = responseMade routed ∧ second = responseMade routed')
      (tryCatch ((fun response => (false, response)) <$> route')
        fun error => pure (exceptionResponse error)) := by
    refine Lockstep.handle (Lockstep.bind locked ?_) fun error => ?_
    · exact fun response other related => .done ⟨_, _, .ok related, rfl, rfl⟩
    · exact .done ⟨_, _, .error error, rfl, rfl⟩
  refine answered.bind ?_
  rintro _ _ ⟨routed, routed', outcomes, rfl, rfl⟩
  cases outcomes with
  | ok related => exact .done ⟨requestId, _, _, .ok related, rfl, rfl⟩
  | error error =>
    let made : Bool × HttpResponse Token := responseMade (.error error)
    have sent : (if made.1 then Program.done made.2
        else .done (made.2.withRequestId app.settings.requestIdHeader requestId) :
          Action (HttpResponse Token)) = .done (app.sent requestId (.error error)) := by
      simp only [App.sent, made, responseMade]
      split <;> rfl
    exact (congrArg₂ (Lockstep Twin (BothSent app post)) sent sent).mpr
      (.done ⟨requestId, _, _, .error error, rfl, rfl⟩)

theorem withSession_lockstep {α : Type} {post : α → α → Prop} {body body' : Action α}
    (locked : body.Lockstep Twin post body') :
    (withSession body).Lockstep Twin post (withSession body') := by
  refine (Lockstep.handle locked fun error => ?_).bind ?_
  · exact .call (.same _) fun _ _ _ => .raise error
  · exact fun _ _ related => .call (.same _) fun _ _ _ => .done related

theorem exchangeCode_lockstep (code codeVerifier : String) (deviceInfo : DeviceInfo) :
    (exchangeCode app code codeVerifier deviceInfo).Lockstep Twin Eq
      (exchangeCode (app.withSecret clientSecret) code codeVerifier deviceInfo) := by
  refine .call (.httpPost _ _ _ _) fun reply reply' equal => ?_
  cases equal
  cases reply with
  | requestError => exact lockstep_self _
  | response status json => exact lockstep_self _

theorem fetchUserInfo_lockstep (accessToken : String) :
    (fetchUserInfo app accessToken).Lockstep Twin Eq
      (fetchUserInfo (app.withSecret clientSecret) accessToken) := by
  unfold fetchUserInfo
  split
  · refine .call (.same _) fun reply reply' equal => ?_
    cases equal
    cases reply with
    | requestError => exact lockstep_self _
    | response status json => exact lockstep_self _
  · exact lockstep_self _

theorem authorize_lockstep (code : String) (state : UUID) (requestMeta : RequestMeta)
    (deviceInfo : DeviceInfo) :
    (authorize app code state requestMeta deviceInfo).Lockstep Twin Eq
      (authorize (app.withSecret clientSecret) code state requestMeta deviceInfo) := by
  refine (lockstep_self _).bind ?_
  rintro codeVerifier _ rfl
  refine (exchangeCode_lockstep code codeVerifier deviceInfo).bind ?_
  rintro tokenData _ rfl
  refine (fetchUserInfo_lockstep tokenData.accessToken).bind ?_
  rintro userData _ rfl
  refine (lockstep_self (resolveUser app userData)).bind ?_
  rintro resolved _ rfl
  cases resolved with
  | none => exact lockstep_self _
  | some user => exact lockstep_self _

theorem confirmLoginYandex_lockstep (http : HttpRequest) :
    (confirmLoginYandex app http).Lockstep Twin (BothSent app Eq)
      (confirmLoginYandex (app.withSecret clientSecret) http) := by
  refine requestIdMiddleware_lockstep ((lockstep_self _).bind ?_)
  rintro _ _ rfl
  generalize (http.query? "state").bind app.pydantic.uuid = state
  generalize http.query? "code" = code
  generalize state.map (validateLoginState http) = checked
  rcases checked with _ | error | _
  case some.error => exact lockstep_self _
  all_goals
    refine (lockstep_self _).bind ?_
    rintro deviceId _ rfl
    have info : getDeviceInfo (app.withSecret clientSecret) deviceId (getRequestMeta
        (app.withSecret clientSecret) http) = getDeviceInfo app deviceId (getRequestMeta app http) := rfl
    simp only [info]
    cases getDeviceInfo app deviceId (getRequestMeta app http) with
    | error error => exact lockstep_self _
    | ok deviceInfo =>
      refine withSession_lockstep ?_
      cases code with
      | none => exact lockstep_self _
      | some code =>
        cases state with
        | none => exact lockstep_self _
        | some state =>
          refine ((authorize_lockstep _ _ _ _).handle fun error => lockstep_self _).bind ?_
          rintro tokens _ rfl
          exact lockstep_self _

theorem oauthLogin_lockstep (http : HttpRequest) :
    (oauthLogin app http).Lockstep Twin (BothSent app fun response other => ∃ url state,
        response = loginRedirect app url state ∧
          other = loginRedirect (app.withSecret clientSecret) url state)
      (oauthLogin (app.withSecret clientSecret) http) := by
  refine requestIdMiddleware_lockstep ((lockstep_self _).bind ?_)
  rintro _ _ rfl
  refine .call (.same _) fun state _ equal => ?_
  cases equal
  refine withSession_lockstep ((lockstep_self _).bind ?_)
  rintro url _ rfl
  exact .done ⟨url, state.val, rfl, rfl⟩

/-- A request to one of the two routes of the OAuth login. -/
def Request.isYandexRoute : Request Token → Bool
  | .oauthLogin _ => true
  | .confirmLoginYandex _ => true
  | _ => false

/-- How the two responses of a route may differ: in the header of a login redirect. -/
def Rerouted (app : App Token) (clientSecret : String) :
    Request Token → HttpResponse Token → HttpResponse Token → Prop
  | .oauthLogin _, response, other => ∃ url state, response = loginRedirect app url state ∧
      other = loginRedirect (app.withSecret clientSecret) url state
  | _, response, other => response = other

/-- What the two runs of a request return. -/
def BothReturn (app : App Token) (clientSecret : String) (request : Request Token)
    (value other : Outcome Token) : Prop :=
  ∃ response response', value = .response response ∧ other = .response response' ∧
    BothSent app (Rerouted app clientSecret request) response response'

theorem Request.lockstep {request : Request Token} (route : request.isYandexRoute = true) :
    (request.program app).Lockstep Twin (BothReturn app clientSecret request)
      (request.program (app.withSecret clientSecret)) := by
  cases request with
  | oauthLogin http =>
    exact (oauthLogin_lockstep http).bind fun response other sent =>
      .done ⟨response, other, rfl, rfl, sent⟩
  | confirmLoginYandex http =>
    exact (confirmLoginYandex_lockstep http).bind fun response other sent =>
      .done ⟨response, other, rfl, rfl, sent⟩
  | _ => cases route

/-- The header determines the secret. -/
theorem authHeader_injective {settings : YandexIdSettings}
    (same : { settings with clientSecret }.authHeader = settings.authHeader) :
    clientSecret = settings.clientSecret := by
  have texts := congrArg String.toList same
  simp only [YandexIdSettings.authHeader, String.toList_append, List.append_cancel_left_eq,
    String.toList_ofList] at texts
  have bytes := Encoding.standard_encode_injective texts
  have whole : settings.clientId ++ ":" ++ clientSecret =
      settings.clientId ++ ":" ++ settings.clientSecret :=
    String.toByteArray_inj.mp (ByteArray.ext (Array.toList_inj.mp bytes))
  have chars := congrArg String.toList whole
  simp only [String.toList_append, List.append_cancel_left_eq] at chars
  exact String.toList_inj.mp chars

/-- Two redirects differ in the secret, unless the middleware overwrites the header that carries it. -/
theorem redirect_eq_iff {url requestId : String} {state : UUID} :
    (loginRedirect app url state).withRequestId app.settings.requestIdHeader requestId =
        (loginRedirect (app.withSecret clientSecret) url state).withRequestId
          app.settings.requestIdHeader requestId ↔
      clientSecret = app.yandexidSettings.clientSecret ∨
        app.settings.requestIdHeader.toLower = "authorization" := by
  have lower : "authorization".toLower = "authorization" :=
    String.toList_inj.mp (String.toList_map.trans (by decide))
  constructor
  · intro same
    by_contra differ
    rw [not_or] at differ
    have headers := congrArg (fun response => response.headers.head?) same
    simp [loginRedirect, HttpResponse.withRequestId, lower, Ne.symm differ.2] at headers
    exact differ.1 (authHeader_injective headers.symm)
  · rintro (rfl | header)
    · rfl
    · simp [loginRedirect, HttpResponse.withRequestId, lower, header]

/-- A redirect has no body, so it is no error response. -/
theorem redirect_ne_sent_error {url requestId other : String} {state : UUID} {error : Exn} :
    app.sent requestId (.ok (loginRedirect app url state)) ≠ app.sent other (.error error) := by
  intro same
  have bodies := congrArg HttpResponse.body same
  cases error <;> cases bodies

end Programs

section Runs

variable {Token : Type} {app : App Token} {world : World} {requests : Tid → Request Token}
  {config other : ServiceConfig Token} {clientSecret : String}

/-- Only a login request of the two routes stores anything by `SETEX`. -/
theorem stores_login (routes : ∀ tid, (requests tid).isYandexRoute = true)
    {condition : Condition Tid Reply World} {older : List ServiceEvent} {event : ServiceEvent}
    (lawful : LawfulEvent answers condition (fun tid => Allowed app (requests tid)) world older event)
    (stored : stores event.exchange = true) : ∃ http, requests event.thread = .oauthLogin http := by
  obtain ⟨thread, request, reply, before, after⟩ := event
  have specified := lawful.specified
  cases request with
  | redisSetex key ttl value =>
    cases specified with
    | revoke token claims now _ presented verified seen positive outlives =>
      have route := routes thread
      generalize requests thread = request at route presented
      cases request with
      | refreshTokens token => cases route
      | logout token => cases route
      | _ => cases presented
    | issueState http drawn verifier rest requested shape => exact ⟨http, requested⟩
  | _ => cases stored

/-- The two runs of a callback end in the same way. -/
private theorem callback_pair
    (locked : Config.Locked Twin (fun tid => BothReturn app clientSecret (requests tid)) config other)
    {tid : Tid} {http : HttpRequest} (callback : requests tid = .confirmLoginYandex http) :
    (config.threads tid).value? = (other.threads tid).value? := by
  have lock := locked.threads tid
  generalize config.threads tid = first at lock
  generalize other.threads tid = second at lock
  cases lock with
  | done related =>
    obtain ⟨response, response', rfl, rfl, requestId, routed, routed', outcomes, rfl, rfl⟩ := related
    rw [callback] at outcomes
    cases outcomes with
    | ok related => cases related; rfl
    | error error => rfl
  | raise error => rfl
  | call same rest => rfl

/-- The two runs of a login request end alike without a stored state, or in two redirects. -/
private theorem login_pair
    (ends : Course answers unrestricted (fun _ _ _ => True) (fun tid trace outcome => ∀ http,
      requests tid = .oauthLogin http → ∃ response, outcome = .ok (.response response) ∧
        LoginEnds app trace (.ok response)) world config)
    (locked : Config.Locked Twin (fun tid => BothReturn app clientSecret (requests tid)) config other)
    {tid : Tid} {http : HttpRequest} (login : requests tid = .oauthLogin http) :
    ((config.threads tid).value? = (other.threads tid).value? ∧
      ((config.threads tid).outcome?.isSome → ∀ exchange ∈ traceOf config.past tid,
        stores exchange = false)) ∨
    ∃ url state requestId,
      (config.threads tid).value? =
        some (.response (app.sent requestId (.ok (loginRedirect app url state)))) ∧
      (other.threads tid).value? = some (.response (app.sent requestId
        (.ok (loginRedirect (app.withSecret clientSecret) url state)))) ∧
      ∃ exchange ∈ traceOf config.past tid, stores exchange = true := by
  have lock := locked.threads tid
  have finish (value : Outcome Token) (ended : config.threads tid = .done value) :=
    ends.done ended http login
  have failed (error : Exn) (ended : config.threads tid = .raise error) :=
    ends.raised ended http login
  generalize config.threads tid = first at lock finish failed
  generalize other.threads tid = second at lock
  cases lock with
  | done related =>
    obtain ⟨response, response', rfl, rfl, requestId, routed, routed', outcomes, rfl, rfl⟩ := related
    obtain ⟨_, ⟨⟩, requestId', routes, sent, quiet⟩ := finish _ rfl
    have sent := Except.ok.inj sent
    rw [login] at outcomes
    cases outcomes with
    | error error =>
      cases routes with
      | error error' => exact .inl ⟨rfl, fun _ => quiet⟩
      | ok redirect =>
        obtain ⟨_, _, _, _, _, _, rfl⟩ := quiet
        exact absurd sent.symm redirect_ne_sent_error
    | ok related =>
      obtain ⟨url, state, rfl, rfl⟩ := related
      cases routes with
      | error error => exact absurd sent redirect_ne_sent_error
      | ok redirect =>
        obtain ⟨_, _, _, stored, _⟩ := quiet
        exact .inr ⟨url, state, requestId, rfl, rfl, _, stored, rfl⟩
  | raise error => obtain ⟨_, ⟨⟩, _⟩ := failed error rfl
  | call same rest => exact .inl ⟨rfl, nofun⟩

/-- Where a state was stored, the two runs end in redirects. -/
private theorem redirects_of_stored (routes : ∀ tid, (requests tid).isYandexRoute = true)
    (run : Reaches answers unrestricted (started app world requests) config)
    (locked : Config.Locked Twin (fun tid => BothReturn app clientSecret (requests tid)) config other)
    {event : ServiceEvent} (member : event ∈ config.past) (stored : stores event.exchange = true)
    (finished : (config.threads event.thread).outcome?.isSome) :
    ∃ url state requestId,
      (config.threads event.thread).value? =
        some (.response (app.sent requestId (.ok (loginRedirect app url state)))) ∧
      (other.threads event.thread).value? = some (.response (app.sent requestId
        (.ok (loginRedirect (app.withSecret clientSecret) url state)))) := by
  have ends := course_of_along (fun _ _ _ => True) _ run fun tid => (requests tid).loginEnds app
  obtain ⟨newer, older, split⟩ := List.append_of_mem member
  have lawful := ((service_course run).lawful.suffix ⟨newer, split.symm⟩).1
  obtain ⟨http, login⟩ := stores_login routes lawful stored
  obtain ⟨_, quiet⟩ | ⟨url, state, requestId, ended, ended', _⟩ := login_pair ends locked login
  · have silent := quiet finished event.exchange (mem_traceOf.mpr ⟨event, member, rfl, rfl⟩)
    rw [stored] at silent
    cases silent
  · exact ⟨url, state, requestId, ended, ended'⟩

/-- Two configurations that differ in the secret run in lockstep. -/
private theorem started_locked (routes : ∀ tid, (requests tid).isYandexRoute = true) :
    Config.Locked Twin (fun tid => BothReturn app clientSecret (requests tid))
      (started app world requests) (started (app.withSecret clientSecret) world requests) :=
  ⟨rfl, fun tid => Request.lockstep (routes tid)⟩

/-- Two runs of one schedule with different secrets: the browsers see the same if and only if no
login request stores its state, that is, no browser is redirected to the provider. -/
theorem client_secret_hidden_iff (routes : ∀ tid, (requests tid).isYandexRoute = true)
    {schedule : List (Tid × Choice)}
    (played : (started app world requests).playAll World.answer unrestricted schedule = some config)
    (finished : ∀ event ∈ config.past, (config.threads event.thread).outcome?.isSome) :
    ∃ other, (started (app.withSecret clientSecret) world requests).playAll World.answer unrestricted
        schedule = some other ∧
      ((∀ tid, (config.threads tid).value? = (other.threads tid).value?) ↔
        clientSecret = app.yandexidSettings.clientSecret ∨
          app.settings.requestIdHeader.toLower = "authorization" ∨
          ∀ event ∈ config.past, stores event.exchange = false) := by
  obtain ⟨other, played', locked⟩ := (started_locked routes).playAll answers_alike played
  have run := Config.playAll_reaches played
  refine ⟨other, played', fun same => ?_, fun hidden tid => ?_⟩
  · by_contra seen
    simp only [not_or, not_forall, Bool.not_eq_false] at seen
    obtain ⟨differs, header, event, member, stored⟩ := seen
    obtain ⟨url, state, requestId, ended, ended'⟩ :=
      redirects_of_stored routes run locked member stored (finished event member)
    have equal := same event.thread
    rw [ended, ended'] at equal
    cases redirect_eq_iff.mp (Outcome.response.inj (Option.some.inj equal)) with
    | inl secret => exact differs secret
    | inr name => exact header name
  · have route := routes tid
    generalize shape : requests tid = request at route
    cases request with
    | confirmLoginYandex http => exact callback_pair locked shape
    | oauthLogin http =>
      have ends := course_of_along (fun _ _ _ => True) _ run fun tid => (requests tid).loginEnds app
      obtain ⟨equal, _⟩ | ⟨url, state, requestId, ended, ended', exchange, seen, stored⟩ :=
        login_pair ends locked shape
      · exact equal
      · rw [ended, ended']
        refine congrArg (fun response => some (Outcome.response response)) (redirect_eq_iff.mpr ?_)
        refine hidden.imp_right fun hidden => hidden.resolve_right fun silent => ?_
        obtain ⟨event, member, _, rfl⟩ := mem_traceOf.mp seen
        rw [silent event member] at stored
        cases stored
    | _ => cases route

end Runs

private def loginOnly : Tid → Request Claims := fun _ => .oauthLogin ⟨"GET", none, [], [], []⟩

/-- A login request up to its `SETEX`, which the choice may let fail. -/
private def loginUntil (last : Choice) : List (Tid × Choice) :=
  [move 0 10, move 0, move 0 11, move 0, (0, last), move 0]

/-- A login request whose state cannot be stored shows nothing of the secret. -/
theorem client_secret_hidden_unstored : ∃ config other : ServiceConfig Claims,
    (started (transparentApp.withSecret "changed") bootstrappedWorld loginOnly).playAll World.answer
      unrestricted (loginUntil { (move 0).2 with fault := .lost }) = some other ∧
    (config.threads 0).value?.isSome ∧ ∀ tid, (config.threads tid).value? = (other.threads tid).value? := by
  have played : ((started transparentApp bootstrappedWorld loginOnly).playAll World.answer unrestricted
      (loginUntil { (move 0).2 with fault := .lost })).any (fun config =>
        (config.threads 0).value?.isSome && config.past.all fun event =>
          (config.threads event.thread).outcome?.isSome && !stores event.exchange) = true := by decide
  obtain ⟨config, played, checked⟩ := (Option.any_eq_true _ _).mp played
  simp only [Bool.and_eq_true, List.all_eq_true, Bool.not_eq_true'] at checked
  obtain ⟨ended, quiet⟩ := checked
  obtain ⟨other, played', same⟩ := client_secret_hidden_iff (fun _ => rfl) played
    fun event member => (quiet event member).1
  exact ⟨config, other, played', ended, same.mpr (.inr (.inr fun event member => (quiet event member).2))⟩

/-- The redirect of a login request differs with the secret. -/
theorem client_secret_shown : ∃ (requests : Tid → Request Claims) (schedule : List (Tid × Choice))
    (config other : ServiceConfig Claims) (response response' : HttpResponse Claims),
    (∀ tid, (requests tid).isYandexRoute = true) ∧
    (started transparentApp bootstrappedWorld requests).playAll World.answer unrestricted schedule =
      some config ∧
    (started (transparentApp.withSecret "changed") bootstrappedWorld requests).playAll World.answer
      unrestricted schedule = some other ∧
    (config.threads 0).value? = some (.response response) ∧
    (other.threads 0).value? = some (.response response') ∧ response ≠ response' := by
  have played : ((started transparentApp bootstrappedWorld loginOnly).playAll World.answer unrestricted
      (loginUntil (move 0).2)).any (fun config => (config.threads 0).outcome?.isSome &&
        config.past.any fun event => decide (event.thread = 0) && stores event.exchange) = true := by
    decide
  obtain ⟨config, played, checked⟩ := (Option.any_eq_true _ _).mp played
  simp only [Bool.and_eq_true, List.any_eq_true, decide_eq_true_iff] at checked
  obtain ⟨ended, event, member, mover, stored⟩ := checked
  have routes (tid : Tid) : (loginOnly tid).isYandexRoute = true := rfl
  have start : Config.Locked Twin (fun tid => BothReturn transparentApp "changed" (loginOnly tid))
      (started transparentApp bootstrappedWorld loginOnly)
      (started (transparentApp.withSecret "changed") bootstrappedWorld loginOnly) := started_locked routes
  obtain ⟨other, played', locked⟩ := start.playAll answers_alike played
  obtain ⟨url, state, requestId, shown, shown'⟩ := redirects_of_stored routes
    (Config.playAll_reaches played) locked member stored (mover ▸ ended)
  rw [mover] at shown shown'
  refine ⟨loginOnly, _, config, other, _, _, routes, played, played', shown, shown', fun same => ?_⟩
  cases redirect_eq_iff.mp same with
  | inl secret => exact absurd secret (by decide)
  | inr name =>
    have chars := String.toList_map.symm.trans (congrArg String.toList name)
    exact absurd chars (by decide)

end AuthApi
