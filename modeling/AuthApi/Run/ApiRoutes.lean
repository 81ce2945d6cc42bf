import AuthApi.Run.ServiceLayer

/-! # The routes around their services

Each route resolves its dependencies with hidden calls, asks one service in a session, and ends as
`ApiRequest.Replies` says. One lemma for each part that routes share; a route is then a few of them.
-/

namespace AuthApi

open Interleaving Interleaving.Program Dependencies

variable {Token : Type} {app : App Token}

theorem withSession_eq_finish {α : Type} (body : Action α) :
    withSession body = body.finish fun outcome => .call .close fun _ => ended outcome := by
  unfold withSession
  simp only [bind_eq, tryCatch_eq, bind_eq_finish, handle_eq_finish, finish_finish]
  congr 1
  funext outcome
  cases outcome <;> rfl

theorem raising_eq_finish {α : Type} (translate : Exn → Exn) (body : Action α) :
    raising translate body = body.finish fun outcome => ended (outcome.mapError translate) := by
  unfold raising
  simp only [tryCatch_eq, handle_eq_finish]
  congr 1
  funext outcome
  cases outcome <;> rfl

theorem map_eq_finish {α β : Type} (body : Action α) (f : α → β) :
    (body.bind fun value => .done (f value)) = body.finish fun outcome => ended (outcome.map f) := by
  rw [bind_eq_finish]
  congr 1
  funext outcome
  cases outcome <;> rfl

/-- What is made of the result of a session may be made of it inside. -/
theorem withSession_map {α β : Type} (body : Action α) (f : α → β) :
    ((withSession body).bind fun value => .done (f value)) =
      withSession (body.bind fun value => .done (f value)) := by
  simp only [map_eq_finish, withSession_eq_finish, finish_finish]
  congr 1
  funext outcome
  cases outcome <;> rfl

/-- The middleware draws an id at most, lets the route run and sends what it ended with. -/
theorem apiMiddleware_eq (http : HttpRequest) (route : Action (ApiResponse Token)) :
    apiMiddleware app http route = (getRequestId app http).bind fun requestId =>
      route.finish fun outcome => ended (.ok (ApiRequest.sent app requestId outcome)) := by
  unfold apiMiddleware
  simp only [bind_eq, tryCatch_eq]
  congr 1
  funext requestId
  change ((route.bind _).handle _).bind _ = _
  simp only [bind_eq_finish, handle_eq_finish, finish_finish]
  congr 1
  funext outcome
  cases outcome with
  | ok response => rfl
  | error error =>
    unfold ApiRequest.sent
    simp only [finish, pure_eq]
    cases (exceptionResponse error : Bool × HttpResponse Token).1 <;> rfl

/-- A response without a model passes through either middleware alike. -/
theorem bare_requestIdMiddleware (http : HttpRequest) (route : Action (HttpResponse Token)) :
    ApiRequest.bare (requestIdMiddleware app http route) = apiMiddleware app http (ApiRequest.bare route) := by
  rw [apiMiddleware_eq]
  unfold ApiRequest.bare requestIdMiddleware
  simp only [bind_eq, tryCatch_eq]
  rw [bind_eq_finish, bind_eq_finish, finish_finish, bind_eq_finish (getRequestId app http)]
  congr 1
  funext drawn
  cases drawn with
  | error error => rfl
  | ok requestId =>
    change (((route.bind _).handle _).bind _).finish _ = _
    simp only [bind_eq_finish, handle_eq_finish, finish_finish]
    congr 1
    funext outcome
    cases outcome with
    | ok response => rfl
    | error error =>
      unfold ApiRequest.sent
      simp only [finish, pure_eq]
      cases (exceptionResponse error : Bool × HttpResponse Token).1 <;> rfl

section Parts

variable {request : ApiRequest Token}

variable (app request) in
/-- A route that may turn its request away, or asks a service and answers as `Replies` says. -/
abbrev RouteOpens (route : Action (ApiResponse Token)) : Prop :=
  route.Opens (Call.IsHidden app) Call.IsShared (Service.program app) (request.Asks app)
    (fun outcome => ∃ error, outcome = .error error ∧ request.TurnedAway app error)
    fun service outcome image => request.Replies app service image outcome

variable (app request) in
/-- A route behind the middleware. -/
abbrev ProgramOpens (program : Action (ApiResponse Token)) : Prop :=
  program.Opens (Call.IsHidden app) Call.IsShared (Service.program app) (request.Asks app)
    (fun outcome => ∃ requestId error, ApiRequest.HasRequestId app request.http requestId ∧
      outcome = .ok (ApiRequest.sent app requestId (.error error)) ∧ request.TurnedAway app error)
    fun service outcome image => ∃ requestId routed, ApiRequest.HasRequestId app request.http requestId ∧
      outcome = .ok (ApiRequest.sent app requestId routed) ∧ request.Replies app service image routed

/-- The id of a request is its header or one draw. -/
theorem getRequestId_along (http : HttpRequest) {spec : Trace Reply → Call → Prop} {trace : Trace Reply}
    (uuid4 : spec trace .uuid4) :
    (getRequestId app http).Along spec
      (fun _ outcome => ∃ requestId, outcome = .ok requestId ∧ ApiRequest.HasRequestId app http requestId)
      trace := by
  unfold getRequestId ApiRequest.HasRequestId
  cases (http.header? app.settings.requestIdHeader).map Encoding.stripSpace with
  | none => exact ⟨uuid4, fun id => ⟨_, rfl, id, rfl⟩⟩
  | some text =>
    simp only
    split
    · exact ⟨uuid4, fun id => ⟨_, rfl, id, rfl⟩⟩
    · exact ⟨_, rfl, rfl⟩

theorem middleware_opens {http : HttpRequest} (own : request.http = http)
    {route : Action (ApiResponse Token)} (opens : RouteOpens app request route) :
    ProgramOpens app request (apiMiddleware app http route) := by
  rw [apiMiddleware_eq, bind_eq_finish]
  have draws := @getRequestId_along _ app http (fun _ => Call.IsHidden app) [] (.inl rfl)
  refine Opens.of_along draws ?_
  rintro _ _ ⟨requestId, rfl, has⟩
  subst own
  apply opens.finish
  · rintro _ ⟨error, rfl, away⟩
    exact ⟨requestId, error, has, rfl, away⟩
  · exact fun service outcome image replies => ⟨requestId, outcome, has, rfl, replies⟩

theorem turnedAway_opens {error : Exn} (away : request.TurnedAway app error) :
    RouteOpens app request (.raise error) := by
  have early : RouteOpens app request (ended (.error error)) := .early ⟨error, rfl, away⟩
  exact early

/-- The limiter counts under a hidden key, and lets a request through or turns it away. -/
theorem limited_opens {http : HttpRequest} {path : String} (counted : request.limitedPath? = some path)
    {rest : Action (ApiResponse Token)} (opens : RouteOpens app request rest) :
    RouteOpens app request ((rateLimitRouteByIp app http path).bind fun _ => rest) := by
  have limits : (rateLimitRouteByIp app http path).Along (fun _ => Call.IsHidden app)
      (fun _ outcome => ∀ error, outcome = .error error → request.TurnedAway app error) [] := by
    unfold rateLimitRouteByIp enforceRateLimit
    split
    · refine Along.bind (q := fun _ (outcome : Except Exn RateLimitResult) =>
          ∀ error, outcome = .error error → request.TurnedAway app error)
        (Along.handle (q := fun _ (outcome : Except Exn RateLimitResult) => ∀ error, outcome = .error error →
          ∃ detail, error = .rateLimitStorageError detail) ⟨.inr ⟨_, _, rfl⟩, fun reply => ?_⟩ ?_ ?_) ?_ ?_
      · cases reply with
        | ok counted =>
          intro error failed
          cases failed
        | error fault =>
          simp only [done_bind]
          split
          · intro error failed
            cases failed
          · intro error failed
            cases failed
            exact ⟨_, rfl⟩
      · intro value later _ error failed
        cases failed
      · intro error later raised
        obtain ⟨detail, rfl⟩ := raised error rfl
        intro error failed
        cases failed
        exact .limiterDown path counted
      · intro result later _
        split
        · intro error failed
          cases failed
        · intro error failed
          cases failed
          exact .limited path counted _
      · intro error later raised other failed
        cases failed
        exact raised error rfl
    · intro error failed
      cases failed
  rw [bind_eq_finish]
  apply Opens.of_along limits
  intro later outcome raised
  cases outcome with
  | ok value => exact opens
  | error error => exact turnedAway_opens (raised error rfl)

/-- Without a bearer token nobody gets any further. -/
theorem authenticate_opens {credentials : AuthorizationCredentials Token}
    (presented : request.credentials? = some credentials) {rest : Token → Action (ApiResponse Token)}
    (opens : ∀ accessToken, credentials = .bearer accessToken → RouteOpens app request (rest accessToken)) :
    RouteOpens app request (credentials.authenticate.bind rest) := by
  cases credentials with
  | missing =>
    refine turnedAway_opens (.unauthenticated _ presented ?_ "Not authenticated")
    intro accessToken same
    cases same
  | otherScheme =>
    refine turnedAway_opens (.unauthenticated _ presented ?_ "Invalid authentication credentials")
    intro accessToken same
    cases same
  | bearer accessToken => exact opens accessToken rfl

/-- A body that cannot be read turns the request away. -/
theorem receiving_opens {α : Type} {http : HttpRequest} {body : RequestBody α} (own : request.http = http)
    (same : request.unreadable? = body.unreadable?) {route : Option α → Action (ApiResponse Token)}
    (opens : ∀ data, body.read = .ok data → ProgramOpens app request (route data)) :
    ProgramOpens app request (ApiRequest.receiving app http body route) := by
  unfold ApiRequest.receiving
  split
  · next error failed =>
    apply middleware_opens own
    apply turnedAway_opens
    apply ApiRequest.TurnedAway.unreadableBody
    rw [same, RequestBody.unreadable?, failed]
  · next data read => exact opens data read

/-- The end of a session, on both sides. -/
theorem closing_refines {α β : Type} {ends : Except Exn α → Except Exn β → Prop} {last : Except Exn α}
    {image : Except Exn β} (related : ends last image) :
    Mirrors (Call.IsHidden app) Call.IsShared ends
      ((ended last).finish fun outcome => (.call .close fun _ => ended outcome : Action α))
      ((ended image).finish fun outcome => (.call .close fun _ => ended outcome : Action β)) := by
  have closed : Mirrors (Call.IsHidden app) Call.IsShared ends (.call .close fun _ => ended last : Action α)
      (.call .close fun _ => ended image : Action β) := .share trivial fun _ => .done related
  cases last <;> cases image <;> exact closed

/-- Two sessions with the same calls. -/
theorem session_refines {α β γ : Type} {ends : Except Exn α → Except Exn β → Prop} {program : Action γ}
    {routed : Except Exn γ → Except Exn α} {made : Except Exn γ → Except Exn β} {trace : Trace Reply}
    (along : program.Along (fun _ => Call.IsShared) (fun _ _ => True) trace)
    (related : ∀ outcome, ends (routed outcome) (made outcome)) :
    Mirrors (Call.IsHidden app) Call.IsShared ends
      (withSession (program.finish fun outcome => ended (routed outcome)))
      (withSession (program.finish fun outcome => ended (made outcome))) := by
  rw [withSession_eq_finish, withSession_eq_finish, finish_finish, finish_finish]
  exact Mirrors.of_along along fun _ outcome _ => closing_refines (related outcome)

variable (app request) in
/-- What a route makes of the end of its service. -/
def routed {γ : Type} (service : Service Token) (wrap : γ → ServiceResult Token) :
    Except Exn γ → Except Exn (ApiResponse Token)
  | .ok value => request.answer app service (wrap value)
  | .error error => .error (request.translate error)

theorem replies_routed {γ : Type} {service : Service Token} (something : service.asksNothing = false)
    (wrap : γ → ServiceResult Token) (outcome : Except Exn γ) :
    request.Replies app service (outcome.map wrap) (routed app request service wrap outcome) := by
  cases outcome with
  | ok value => exact .answered something (wrap value)
  | error error => exact .failed error

/-- One session of a service, whose program goes on differently in the route. -/
theorem session_opens {γ : Type} {service : Service Token} (asked : request.Asks app service)
    (something : service.asksNothing = false) {program : Action γ} {wrap : γ → ServiceResult Token}
    {route : Action (ApiResponse Token)}
    (along : program.Along (fun _ => Call.IsShared) (fun _ _ => True) [])
    (served : service.program app = withSession (program.finish fun outcome => ended (outcome.map wrap)))
    (shape : route = withSession (program.finish fun outcome =>
      ended (routed app request service wrap outcome))) :
    RouteOpens app request route := by
  refine .opens service asked ?_
  rw [served, shape]
  exact session_refines along fun outcome => replies_routed something wrap outcome

/-- A session that only closes. -/
theorem idle_opens (validates : request.validates = true) {params : List String} :
    RouteOpens app request (withSession (.raise (.requestValidationError params))) := by
  refine .opens .idle (.idle request validates) ?_
  exact @session_refines Token app _ _ _ (fun outcome image => request.Replies app .idle image outcome)
    (.done ()) (fun _ => .error (.requestValidationError params)) (fun _ => .ok (.outcome .unit)) [] trivial
    fun _ => .invalid rfl _ params

/-- The gate of the own account, and what the route does behind it. -/
theorem gated_opens {γ : Type} {accessToken : Token} {operation : UserOperation}
    (asked : request.Asks app (.request (.userEndpoint accessToken operation)))
    (gate : ∀ exception, request.translate (.httpException exception) = .httpException exception)
    {act : UserObject → Action γ} {wrap : γ → Outcome Token} {route : UserObject → Action (ApiResponse Token)}
    {routed : Except Exn γ → Except Exn (ApiResponse Token)}
    (along : ∀ user trace, (act user).Along (fun _ => Call.IsShared) (fun _ _ => True) trace)
    (served : ∀ user, operation.program app user = (act user).finish fun outcome => ended (outcome.map wrap))
    (shape : ∀ user, route user = (act user).finish fun outcome => ended (routed outcome))
    (replies : ∀ outcome, request.Replies app (.request (.userEndpoint accessToken operation))
      (outcome.map fun value => .outcome (wrap value)) (routed outcome)) :
    RouteOpens app request (withSession ((getTokenUser app accessToken).bind route)) := by
  refine .opens _ asked ?_
  have program : (Service.request (.userEndpoint accessToken operation)).program app =
      withSession ((getTokenUser app accessToken).bind fun user =>
        (act user).finish fun outcome => ended (outcome.map fun value => ServiceResult.outcome (wrap value))) := by
    change ((withSession _).bind fun outcome => .done (ServiceResult.outcome outcome)) = _
    rw [withSession_map, map_eq_finish, bind_eq, bind_eq_finish, bind_eq_finish, finish_finish]
    congr 2
    funext found
    cases found with
    | error error => rfl
    | ok user =>
      simp only [served, finish_finish]
      congr 1
      funext outcome
      cases outcome <;> rfl
  rw [program, withSession_eq_finish, withSession_eq_finish, bind_eq_finish, bind_eq_finish, finish_finish,
    finish_finish]
  have gateCalls := @getTokenUser_along _ app [] (fun _ => Call.IsShared) (fun _ => trivial) accessToken
    fun _ _ _ => trivial
  refine Mirrors.of_along gateCalls ?_
  intro later found read
  cases found with
  | error error =>
    have refused : ∃ exception, error = .httpException exception := by
      obtain ⟨_, _, _, _, rfl⟩ | ⟨_, _, _, _, _, ⟨_, rfl⟩ | ⟨_, _, _, rfl⟩⟩ := read
      · exact ⟨_, rfl⟩
      · exact ⟨_, rfl⟩
      · exact ⟨_, rfl⟩
    obtain ⟨exception, rfl⟩ := refused
    have failed : request.Replies app (.request (.userEndpoint accessToken operation))
        (.error (.httpException exception)) (.error (request.translate (.httpException exception))) := .failed _
    rw [gate] at failed
    exact .share trivial fun _ => .done failed
  | ok user =>
    simp only [shape, finish_finish]
    apply Mirrors.of_along (along user later)
    exact fun _ outcome _ => closing_refines (replies outcome)

/-- The user of the token is let in, and one operation of the service follows. -/
theorem ownAccount_opens {γ : Type} {accessToken : Token} {operation : UserOperation}
    (asked : request.Asks app (.request (.userEndpoint accessToken operation)))
    (gate : ∀ exception, request.translate (.httpException exception) = .httpException exception)
    (something : (Service.request (.userEndpoint accessToken operation)).asksNothing = false)
    (act : UserObject → Action γ) (wrap : γ → Outcome Token) {route : UserObject → Action (ApiResponse Token)}
    (along : ∀ user trace, (act user).Along (fun _ => Call.IsShared) (fun _ _ => True) trace)
    (served : ∀ user, operation.program app user = (act user).bind fun value => .done (wrap value))
    (shape : ∀ user, route user = (act user).finish fun outcome => ended (routed app request
      (.request (.userEndpoint accessToken operation)) (fun value => .outcome (wrap value)) outcome)) :
    RouteOpens app request (withSession ((getTokenUser app accessToken).bind route)) :=
  gated_opens asked gate along (fun user => (served user).trans (map_eq_finish _ _)) shape
    fun outcome => replies_routed something _ outcome

/-- A parameter that fails validation does so behind the gate. -/
theorem checkAccess_opens {accessToken : Token} (validates : request.validates = true)
    (authenticated : request.credentials? = some (.bearer accessToken))
    (gate : ∀ exception, request.translate (.httpException exception) = .httpException exception)
    (params : List String) :
    RouteOpens app request (withSession ((getTokenUser app accessToken).bind fun _ =>
      .raise (.requestValidationError params))) := by
  have replies (outcome : Except Exn UserObject) :
      request.Replies app (.request (.userEndpoint accessToken .checkAccess))
        (outcome.map fun user => .outcome (.user user))
        (outcome.casesOn (fun error => .error (request.translate error))
          fun _ => .error (.requestValidationError params)) := by
    cases outcome with
    | ok user => exact .invalid rfl _ params
    | error error => exact .failed error
  have found (user : UserObject) (trace : Trace Reply) :
      (.done user : Action UserObject).Along (fun _ => Call.IsShared) (fun _ _ => True) trace := trivial
  exact gated_opens (.checkAccess request accessToken validates authenticated) gate found (fun _ => rfl) (fun _ => rfl)
    replies

end Parts

end AuthApi
