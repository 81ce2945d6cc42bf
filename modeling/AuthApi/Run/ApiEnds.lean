import AuthApi.Run.ApiHistories
import AuthApi.Run.ServiceEnds

/-! # The statuses of the API

The statuses each route answers with, and how the services end for it: an error that the route knows becomes one of
them and comes before any commit, any other becomes a 500.
-/

namespace AuthApi

open Interleaving Interleaving.Program Dependencies

variable {Token : Type} {app : App Token}

namespace ApiRequest

/-- What a route answers with, besides the 500 that any error can become. -/
def statuses : ApiRequest Token → List ℕ
  | .issueTokens _ _ => [200, 400, 401, 422, 429, 503]
  | .refreshTokens _ _ => [200, 401, 429, 503]
  | .logout _ _ => [200, 401, 429, 503]
  | .logoutOthers _ _ => [200, 401, 403, 429, 503]
  | .createUser _ _ => [200, 400, 422, 429, 503]
  | .userInfo _ _ => [200, 401, 403, 404]
  | .changeEmail _ _ _ => [200, 400, 401, 403, 422]
  | .changePassword _ _ _ => [200, 400, 401, 403, 422]
  | .getLoginHistory _ _ => [200, 401, 403, 422]
  | .createRole _ _ _ => [200, 400, 401, 403, 422]
  | .listRoles _ _ => [200, 401, 403]
  | .deleteRole _ _ _ => [200, 400, 401, 403, 404, 422]
  | .modifyRole _ _ _ _ => [200, 400, 401, 403, 404, 422]
  | .assignRole _ _ _ => [200, 400, 401, 403, 404, 422]
  | .revokeRole _ _ _ => [200, 400, 401, 403, 404, 422]
  | .oauthLogin _ => [302, 429, 502, 503]
  | .confirmLoginYandex _ => [200, 400, 409, 422, 429, 502, 503]

/-- The exception is answered with a status of the route, and with a challenge if it is a 401. -/
structure Answers (request : ApiRequest Token) (exception : HttpException) : Prop where
  status : exception.statusCode ∈ request.statuses
  failure : exception.statusCode ∉ [200, 302, 500]
  challenge : exception.statusCode = 401 → ("WWW-Authenticate", "Bearer") ∈ exception.headers

/-- The route answers the error. -/
def Refuses (request : ApiRequest Token) (error : Exn) : Prop :=
  ∃ exception, request.translate error = .httpException exception ∧ request.Answers exception

/-- Nobody handles the error. -/
def Breaks (request : ApiRequest Token) (error : Exn) : Prop :=
  (exceptionResponse (request.translate error) : Bool × HttpResponse Token) =
    (true, ⟨500, [], [], .internalServerError⟩)

variable {request : ApiRequest Token}

theorem translate_httpException (exception : HttpException) :
    request.translate (.httpException exception) = .httpException exception := by
  cases request <;> rfl

theorem validates_422 (validates : request.validates = true) : 422 ∈ request.statuses := by
  cases request <;> first | (simp [statuses]; done) | cases validates

/-- Internal errors reach the server. -/
theorem breaks_of_internal {error : Exn} (internal : error.isInternal = true) : request.Breaks error := by
  have same : request.translate error = error := by
    cases error <;> first | (cases request <;> rfl) | cases internal
  rw [Breaks, same]
  cases error <;> first | rfl | cases internal

/-- An exception without a challenge. -/
theorem Answers.plain {exception : HttpException} (plain : exception.statusCode ∉ [200, 302, 401, 500])
    (listed : exception.statusCode ∈ request.statuses) : request.Answers exception := by
  simp only [List.mem_cons, List.not_mem_nil, or_false, not_or] at plain
  exact ⟨listed, by simp [plain], fun same => absurd same plain.2.2.1⟩

/-- An exception with a challenge. -/
theorem Answers.challenged {detail : String} (listed : 401 ∈ request.statuses) :
    request.Answers ⟨401, detail, [("WWW-Authenticate", "Bearer")]⟩ :=
  ⟨listed, by simp, fun _ => List.mem_singleton.mpr rfl⟩

theorem refuses_of_plain {error : Exn} {exception : HttpException}
    (translated : request.translate error = .httpException exception)
    (plain : exception.statusCode ∉ [200, 302, 401, 500]) (listed : exception.statusCode ∈ request.statuses) :
    request.Refuses error := ⟨exception, translated, .plain plain listed⟩

theorem refuses_of_challenge {error : Exn} {detail : String}
    (translated : request.translate error = .httpException ⟨401, detail, [("WWW-Authenticate", "Bearer")]⟩)
    (listed : 401 ∈ request.statuses) : request.Refuses error := ⟨_, translated, .challenged listed⟩

/-- The gates answer with a status of every route behind them. -/
theorem refuses_of_token {credentials : AuthorizationCredentials Token}
    (presented : request.credentials? = some credentials)
    {error : Exn} (refused : IsRefusedToken error) : request.Refuses error := by
  obtain ⟨detail, rfl⟩ := refused
  apply refuses_of_challenge (translate_httpException _)
  cases request <;> first | (simp [statuses]; done) | cases presented

/-- A route of the role administration answers what its operation reports. -/
theorem refuses_of_reported {operation : RoleOperation} (valid : request.roleOperation? app = some operation)
    {error : Exn} (reported : error ∈ operation.reported) : request.Refuses error := by
  cases request with
  | createRole http credentials body =>
    cases body <;> cases valid
    obtain rfl := List.mem_singleton.mp reported
    exact refuses_of_plain rfl (by decide) (by simp [statuses, roleAlreadyExistsHttpError])
  | listRoles http credentials =>
    cases valid
    cases reported
  | deleteRole http credentials roleId =>
    obtain ⟨id, _, rfl⟩ := Option.map_eq_some_iff.mp valid
    simp only [RoleOperation.reported, List.mem_cons, List.not_mem_nil, or_false] at reported
    obtain rfl | rfl := reported
    · exact refuses_of_plain rfl (by decide) (by simp [statuses, roleNotFoundHttpError])
    · exact refuses_of_plain rfl (by decide) (by simp [statuses, protectedRoleHttpError])
  | modifyRole http credentials roleId body =>
    cases body with
    | data data =>
      obtain ⟨id, _, rfl⟩ := Option.map_eq_some_iff.mp valid
      simp only [RoleOperation.reported, List.mem_cons, List.not_mem_nil, or_false] at reported
      obtain rfl | rfl | rfl := reported
      · exact refuses_of_plain rfl (by decide) (by simp [statuses, roleNotFoundHttpError])
      · exact refuses_of_plain rfl (by decide) (by simp [statuses, roleAlreadyExistsHttpError])
      · exact refuses_of_plain rfl (by decide) (by simp [statuses, protectedRoleHttpError])
    | _ => cases valid
  | assignRole http credentials body =>
    cases body <;> cases valid
    simp only [RoleOperation.reported, List.mem_cons, List.not_mem_nil, or_false] at reported
    obtain rfl | rfl := reported
    · exact refuses_of_plain rfl (by decide) (by simp [statuses, roleNotFoundHttpError])
    · exact refuses_of_plain rfl (by decide) (by simp [statuses, userNotFoundHttpError])
  | revokeRole http credentials body =>
    cases body <;> cases valid
    obtain rfl := List.mem_singleton.mp reported
    exact refuses_of_plain rfl (by decide) (by simp [statuses, userNotFoundHttpError])
  | _ => cases valid

/-- Every error of the provider has a response. -/
theorem refuses_of_yandex {http : HttpRequest} {error : Exn} (yandex : error.isYandexError = true) :
    (ApiRequest.confirmLoginYandex http : ApiRequest Token).Refuses error := by
  cases error <;> cases yandex
  all_goals
    exact refuses_of_plain rfl (by decide)
      (by simp [statuses, oauthProviderHttpException, oauthStateHttpException, oauthCallbackHttpException])

end ApiRequest

/-- The response that a route makes of a result, if it can make one. -/
def ApiRequest.Made (request : ApiRequest Token) : Except Exn (ApiResponse Token) → Prop
  | .ok response => response.status ∈ [200, 302] ∧ response.status ∈ request.statuses
  | .error error => error.isInternal = true

/-- Most routes answer with a 200. -/
theorem ApiRequest.made_200 {request : ApiRequest Token} {response : ApiResponse Token}
    (status : response.status = 200) (listed : 200 ∈ request.statuses) : request.Made (.ok response) := by
  rw [← status] at listed
  exact ⟨by simp [status], listed⟩

/-- How a service may end for a request, and what it has committed by then. -/
def ServiceEnds (app : App Token) (request : ApiRequest Token) (service : Service Token) (trace : Trace Reply) :
    Except Exn (ServiceResult Token) → Prop
  | .error error => request.Refuses error ∧ Spotless trace ∨ request.Breaks error
  | .ok result => (service.asksNothing = true → 422 ∈ request.statuses ∧ Spotless trace) ∧
      (service.asksNothing = false → request.Made (request.answer app service result))

section Ends

variable {request : ApiRequest Token} {service : Service Token} {trace : Trace Reply}

/-- A service that asks something, by what its route makes of the result. -/
theorem ServiceEnds.made {result : ServiceResult Token} (something : service.asksNothing = false)
    (made : request.Made (request.answer app service result)) :
    ServiceEnds app request service trace (.ok result) := by
  refine ⟨fun nothing => ?_, fun _ => made⟩
  rw [something] at nothing
  cases nothing

/-- A service that asks nothing leaves the request to the validation of its parameters. -/
theorem ServiceEnds.nothing {result : ServiceResult Token} (nothing : service.asksNothing = true)
    (validates : request.validates = true) (spotless : Spotless trace) :
    ServiceEnds app request service trace (.ok result) := by
  refine ⟨fun _ => ⟨ApiRequest.validates_422 validates, spotless⟩, fun something => ?_⟩
  rw [nothing] at something
  cases something

/-- The services of one session make their results inside it. -/
theorem request_shape {γ : Type} {asked : Request Token} {body : Action γ} {wrap : γ → Outcome Token}
    (shape : asked.program app = withSession (body.bind fun value => .done (wrap value))) :
    (Service.request asked).program app = withSession (body.bind fun value => .done (.outcome (wrap value))) := by
  change ((asked.program app).bind fun outcome => .done (ServiceResult.outcome outcome)) = _
  rw [shape, withSession_map, bind_bind]
  rfl

/-- A service that is one session, by what the program in it reports. -/
theorem session_ends {γ : Type} {program : Action γ} {wrap : γ → ServiceResult Token} {known fatal : Exn → Prop}
    {spec : Trace Reply → Call → Prop} (closes : ∀ trace, spec trace .close)
    (shape : service.program app = withSession (program.bind fun value => .done (wrap value)))
    (along : program.Along spec (Reports known fatal) [])
    (refuses : ∀ error, known error → request.Refuses error) (breaks : ∀ error, fatal error → request.Breaks error)
    (made : ∀ value trace, ServiceEnds app request service trace (.ok (wrap value))) :
    (service.program app).Along spec (ServiceEnds app request service) [] := by
  rw [shape]
  apply along_withSession closes
  apply Along.bind along
  · exact fun value later _ => made value _
  · intro error later reports
    obtain ⟨isKnown, spotless⟩ | isFatal := reports error rfl
    · exact .inl ⟨refuses error isKnown, spotless.cons rfl⟩
    · exact .inr (breaks error isFatal)

/-- The gate of the own account, and what the user of the token does behind it. -/
theorem account_along {γ : Type} {accessToken : Token} {act : UserObject → Action γ} {known fatal : Exn → Prop}
    (along : ∀ user later, Spotless later → (act user).Along direct (Reports known fatal) later) :
    ((getTokenUser app accessToken).bind act).Along direct
      (Reports (fun error => IsRefusedToken error ∨ known error) fatal) [] := by
  apply Along.bind (getTokenUser_reports accessToken spotless_nil)
  · rintro user later ⟨_, clean⟩
    apply (along user later clean).mono (fun _ _ issued => issued)
    rintro last outcome reports error rfl
    exact (reports error rfl).imp_left fun ⟨isKnown, clean⟩ => ⟨.inr isKnown, clean⟩
  · rintro error later ⟨reports, _⟩ other same
    cases same
    exact (reports error rfl).imp_left fun ⟨refused, clean⟩ => ⟨.inl refused, clean⟩

/-- One operation behind the gate of the own account. -/
theorem userEndpoint_ends {γ : Type} {accessToken : Token} {operation : UserOperation}
    (authenticated : request.credentials? = some (.bearer accessToken)) {act : UserObject → Action γ}
    {wrap : γ → Outcome Token} {known fatal : Exn → Prop}
    (shape : ∀ user, operation.program app user = (act user).bind fun value => .done (wrap value))
    (along : ∀ user later, Spotless later → (act user).Along direct (Reports known fatal) later)
    (refuses : ∀ error, known error → request.Refuses error) (breaks : ∀ error, fatal error → request.Breaks error)
    (made : ∀ value trace, ServiceEnds app request (.request (.userEndpoint accessToken operation)) trace
      (.ok (.outcome (wrap value)))) :
    ((Service.request (.userEndpoint accessToken operation)).program app).Along direct
      (ServiceEnds app request (.request (.userEndpoint accessToken operation))) [] := by
  have program : (Request.userEndpoint accessToken operation).program app =
      withSession (((getTokenUser app accessToken).bind act).bind fun value => .done (wrap value)) := by
    rw [bind_bind]
    change withSession ((getTokenUser app accessToken).bind fun user => operation.program app user) = _
    simp only [shape]
  apply session_ends direct_close (request_shape program) (account_along along) _ breaks made
  rintro error (refused | isKnown)
  · exact ApiRequest.refuses_of_token authenticated refused
  · exact refuses error isKnown

/-- The account is looked up, and the parameters fail validation. -/
theorem checkAccess_ends {accessToken : Token} (validates : request.validates = true)
    (authenticated : request.credentials? = some (.bearer accessToken)) :
    ((Service.request (.userEndpoint accessToken .checkAccess)).program app).Along direct
      (ServiceEnds app request (.request (.userEndpoint accessToken .checkAccess))) [] := by
  rw [request_shape rfl]
  apply along_withSession direct_close
  apply Along.bind (@getTokenUser_reports _ app _ accessToken (fun _ => False) spotless_nil)
  · rintro user later ⟨_, clean⟩
    exact .nothing rfl validates (clean.cons rfl)
  · rintro error later ⟨reports, clean⟩
    obtain ⟨refused, _⟩ | impossible := reports error rfl
    · exact .inl ⟨ApiRequest.refuses_of_token authenticated refused, clean.cons rfl⟩
    · cases impossible

/-- What follows the gate of the role administration. -/
theorem behindGate_along {γ : Type} {accessToken : Token} {program : Action γ}
    {post : Trace Reply → Except Exn γ → Prop}
    (authenticated : request.credentials? = some (.bearer accessToken))
    (refused : ∀ trace error, request.Refuses error → Spotless trace → post trace (.error error))
    (along : ∀ later, Spotless later → program.Along direct post later) :
    ((ensureSuperuser app accessToken).bind fun _ => program).Along direct post [] := by
  apply Along.bind (@ensureSuperuser_reports _ app _ accessToken (fun _ => False) spotless_nil)
  · exact fun _ later ⟨_, clean⟩ => along later clean
  · rintro error later ⟨reports, clean⟩
    obtain ⟨isRefused, _⟩ | impossible := reports error rfl
    · exact refused later error (ApiRequest.refuses_of_token authenticated isRefused) clean
    · cases impossible

/-- The gate is passed, and the parameters fail validation. -/
theorem gate_ends {accessToken : Token} (validates : request.validates = true)
    (authenticated : request.credentials? = some (.bearer accessToken)) :
    ((Service.gate accessToken).program app).Along direct (ServiceEnds app request (.gate accessToken)) [] := by
  apply behindGate_along authenticated
  · exact fun _ _ refused clean => .inl ⟨refused, clean⟩
  · intro later clean
    apply along_withSession direct_close
    exact .nothing rfl validates (clean.cons rfl)

/-- What an operation of the role administration returned makes a response. -/
theorem made_of_role {accessToken : Token} {operation operation' : RoleOperation}
    (valid : request.roleOperation? app = some operation) (outcome : Outcome Token) :
    request.Made (request.answer app (.request (.roleEndpoint accessToken operation')) (.outcome outcome)) := by
  have status : (RoutesRole.answered outcome).status = 200 := by cases outcome <;> rfl
  cases request <;>
    first | exact ApiRequest.made_200 status List.mem_cons_self | cases valid

/-- One operation of the role administration behind its gate. -/
theorem roleEndpoint_ends {accessToken : Token} {operation : RoleOperation}
    (authenticated : request.credentials? = some (.bearer accessToken))
    (valid : request.roleOperation? app = some operation) :
    ((Service.request (.roleEndpoint accessToken operation)).program app).Along direct
      (ServiceEnds app request (.request (.roleEndpoint accessToken operation))) [] := by
  have gated : ((Request.roleEndpoint accessToken operation).program app).Along direct
      (fun later outcome => ServiceEnds app request (.request (.roleEndpoint accessToken operation)) later
        (outcome.map .outcome)) [] := by
    apply behindGate_along authenticated
    · exact fun _ _ refused clean => .inl ⟨refused, clean⟩
    · intro later clean
      apply along_withSession direct_close
      apply (roleOperation_reports operation clean).mono (fun _ _ issued => issued)
      intro last outcome reports
      cases outcome with
      | ok outcome => exact .made rfl (made_of_role valid outcome)
      | error error =>
        obtain ⟨reported, spotless⟩ | internal := reports error rfl
        · exact .inl ⟨ApiRequest.refuses_of_reported valid reported, spotless.cons rfl⟩
        · exact .inr (ApiRequest.breaks_of_internal internal)
  exact Along.bind gated (fun _ _ ends => ends) fun _ _ ends => ends

/-- A session leaves nothing open. -/
theorem opened_withSession {α β : Type} {body : Action α} {rest : α → β} :
    ((withSession body).bind fun value => .done (rest value)).Along (fun _ _ => True)
      (fun later _ => opened later = []) [] := by
  have closed : (withSession body).Along (fun _ _ => True) (fun later _ => opened later = []) [] :=
    along_withSession (fun _ => trivial) (along_any.mono (fun _ _ _ => trivial) fun _ _ _ => rfl)
  exact Along.bind closed (fun _ _ closed => closed) fun _ _ closed => closed

/-- Every service a request asks ends with a status of the request, and in good order. -/
theorem ApiRequest.Asks.ends_orderly (asks : request.Asks app service) :
    (service.program app).Along Orderly
      (fun trace outcome => ServiceEnds app request service trace outcome ∧ opened trace = []) [] := by
  have breaks {request : ApiRequest Token} (error : Exn) (internal : error.isInternal = true) :
      request.Breaks error := ApiRequest.breaks_of_internal internal
  have orderly {request : ApiRequest Token} {service : Service Token}
      (along : (service.program app).Along direct (ServiceEnds app request service) []) :
      (service.program app).Along Orderly
        (fun trace outcome => ServiceEnds app request service trace outcome ∧ opened trace = []) [] :=
    along_direct along rfl
  cases asks with
  | idle _ validates =>
    apply orderly
    apply along_withSession direct_close
    exact .nothing rfl validates (spotless_nil.cons rfl)
  | gate _ accessToken validates authenticated => exact orderly (gate_ends validates authenticated)
  | checkAccess _ accessToken validates authenticated => exact orderly (checkAccess_ends validates authenticated)
  | role _ accessToken operation authenticated valid => exact orderly (roleEndpoint_ends authenticated valid)
  | issueTokens http data deviceInfo device =>
    apply orderly
    apply session_ends direct_close (request_shape rfl) (loginUser_reports _ _ _ spotless_nil) _ breaks
    · exact fun pair _ => .made rfl (ApiRequest.made_200 rfl List.mem_cons_self)
    · rintro error ⟨detail, rfl⟩
      exact ApiRequest.refuses_of_challenge rfl (by simp [ApiRequest.statuses])
  | refreshTokens http refreshToken =>
    apply orderly
    apply session_ends direct_close (request_shape rfl) (refreshTokens_reports _ spotless_nil) _ breaks
    · exact fun pair _ => .made rfl (ApiRequest.made_200 rfl List.mem_cons_self)
    · rintro error ⟨detail, rfl⟩
      exact ApiRequest.refuses_of_challenge rfl (by simp [ApiRequest.statuses])
  | logout http refreshToken =>
    apply orderly
    apply session_ends direct_close (request_shape rfl) (logout_reports _ spotless_nil) _ breaks
    · exact fun _ _ => .made rfl (ApiRequest.made_200 rfl List.mem_cons_self)
    · rintro error ⟨detail, rfl⟩
      exact ApiRequest.refuses_of_challenge rfl (by simp [ApiRequest.statuses])
  | logoutOthers http accessToken =>
    apply orderly
    apply userEndpoint_ends rfl (fun _ => rfl) fun user _ _ => logoutOthers_reports user
    · exact fun error impossible => False.elim impossible
    · rintro error (internal | ⟨detail, rfl⟩)
      · exact breaks error internal
      · rfl
    · exact fun pair _ => .made rfl (ApiRequest.made_200 rfl List.mem_cons_self)
  | createUser http data =>
    apply orderly
    apply session_ends direct_close (request_shape rfl) (createUser_reports _ spotless_nil) _ breaks
    · intro user _
      apply ServiceEnds.made rfl
      change ApiRequest.Made _ ((RoutesUser.UserCreateOut.modelValidate app user).map _)
      unfold RoutesUser.UserCreateOut.modelValidate
      split
      · exact ApiRequest.made_200 rfl List.mem_cons_self
      · rfl
    · rintro error ⟨detail, rfl⟩
      exact ApiRequest.refuses_of_plain rfl (by decide) (by simp [ApiRequest.statuses])
  | userInfo http accessToken =>
    apply orderly
    apply userEndpoint_ends rfl (fun _ => rfl) (fun user _ clean => getUserInfo_reports user clean) _ breaks
    · intro user _
      apply ServiceEnds.made rfl
      change ApiRequest.Made _ ((RoutesUser.UserReadOut.modelValidate app user).map _)
      unfold RoutesUser.UserReadOut.modelValidate
      split
      · exact ApiRequest.made_200 rfl List.mem_cons_self
      · rfl
    · rintro error ⟨detail, rfl⟩
      exact ApiRequest.refuses_of_plain rfl (by decide) (by simp [ApiRequest.statuses, userNotFoundHttpError])
  | changeEmail http accessToken data =>
    apply orderly
    apply userEndpoint_ends rfl (fun _ => rfl) (fun user _ clean => changeEmail_reports data user clean) _ breaks
    · exact fun _ _ => .made rfl (ApiRequest.made_200 rfl List.mem_cons_self)
    · rintro error (⟨detail, rfl⟩ | ⟨detail, rfl⟩)
      · exact ApiRequest.refuses_of_plain rfl (by decide) (by simp [ApiRequest.statuses, wrongPasswordHttpError])
      · exact ApiRequest.refuses_of_plain rfl (by decide) (by simp [ApiRequest.statuses])
  | changePassword http accessToken data =>
    apply orderly
    apply userEndpoint_ends rfl (fun _ => rfl) (fun user _ clean => changePassword_reports data user clean) _ breaks
    · exact fun _ _ => .made rfl (ApiRequest.made_200 rfl List.mem_cons_self)
    · rintro error ⟨detail, rfl⟩
      exact ApiRequest.refuses_of_plain rfl (by decide) (by simp [ApiRequest.statuses, wrongPasswordHttpError])
  | getLoginHistory http accessToken page pageSize paged sized =>
    apply orderly
    apply userEndpoint_ends rfl (fun _ => rfl) (fun user _ _ => getLoginHistory_reports user.id page pageSize) _ breaks
    · exact fun _ _ => .made rfl (ApiRequest.made_200 rfl List.mem_cons_self)
    · exact fun error impossible => False.elim impossible
  | oauthLogin http state =>
    apply orderly
    apply session_ends direct_close rfl (buildLoginRedirect_reports _ spotless_nil) _ breaks
    · exact fun url _ => .made rfl ⟨by simp [loginRedirect], by simp [ApiRequest.statuses, loginRedirect]⟩
    · rintro error ⟨detail, rfl⟩
      exact ApiRequest.refuses_of_plain rfl (by decide) (by simp [ApiRequest.statuses, oauthProviderHttpException])
  | confirmLoginYandex http code state deviceInfo device granted stated presented =>
    refine ((session_ends (fun _ => orderly_of_plain rfl rfl) (request_shape rfl) (authorize_reports _ _ _ _) ?_ breaks
      ?_).and
      opened_withSession).mono (fun _ _ issued => issued.1) fun _ _ ends => ends
    · exact fun error yandex => ApiRequest.refuses_of_yandex yandex
    · exact fun pair _ => .made rfl (ApiRequest.made_200 rfl List.mem_cons_self)

/-- Every service a request asks ends with a status of the request. -/
theorem ApiRequest.Asks.ends (asks : request.Asks app service) :
    (service.program app).Along Orderly (ServiceEnds app request service) [] :=
  asks.ends_orderly.mono (fun _ _ issued => issued) fun _ _ ends => ends.1

end Ends

/-- What a route may end with, and what its request has committed by then. -/
def ApiRequest.Routed (request : ApiRequest Token) (trace : Trace Reply) : Except Exn (ApiResponse Token) → Prop
  | .ok response => response.status ∈ [200, 302] ∧ response.status ∈ request.statuses
  | .error error => Spotless trace ∧ ((∃ exception, error = .httpException exception ∧ request.Answers exception) ∨
        ∃ params, error = .requestValidationError params ∧ 422 ∈ request.statuses) ∨
      (exceptionResponse error : Bool × HttpResponse Token) = (true, ⟨500, [], [], .internalServerError⟩)

/-- A request that fails with anything but a 500 has committed nothing. -/
theorem ApiRequest.Routed.spotless {request : ApiRequest Token} {trace : Trace Reply} {requestId : String}
    {routed : Except Exn (ApiResponse Token)} (ends : request.Routed trace routed)
    (failed : (sent app requestId routed).status ∉ [200, 302, 500]) : Spotless trace := by
  cases routed with
  | ok response =>
    apply absurd _ failed
    have success : response.status ∈ [200, 302] := ends.1
    change response.status ∈ [200, 302, 500]
    simp only [List.mem_cons, List.not_mem_nil, or_false] at success ⊢
    omega
  | error error =>
    obtain ⟨spotless, _⟩ | breaks := ends
    · exact spotless
    · exact absurd (by simp [sent, breaks]) failed

/-- Hidden calls commit nothing. -/
theorem ownWrites_of_hidden {exchange : Exchange Reply} (isHidden : exchange.request.IsHidden app) :
    ownWrites exchange = [] := by
  obtain ⟨request, reply⟩ := exchange
  obtain rfl | ⟨identity, windowMs, rfl⟩ := isHidden <;> rfl

theorem Shows.spotless {trace shown : Trace Reply} (shows : Shows app trace shown) (spotless : Spotless shown) :
    Spotless trace := by
  intro exchange member
  by_cases isHidden : exchange.request.IsHidden app
  · exact ownWrites_of_hidden isHidden
  · exact spotless exchange (shows.mem_shown member isHidden)

namespace ApiRequest

variable {request : ApiRequest Token} {trace : Trace Reply}

/-- An exception answered before any commit. -/
theorem Answers.routed {exception : HttpException} (answers : request.Answers exception) (spotless : Spotless trace) :
    request.Routed trace (.error (.httpException exception)) := .inl ⟨spotless, .inl ⟨exception, rfl, answers⟩⟩

theorem unreadable_routed {error : Exn} (failed : request.unreadable? = some error) (spotless : Spotless trace) :
    request.Routed trace (.error error) := by
  have body {α : Type} {body : RequestBody α} (failed : body.unreadable? = some error)
      (bad : 400 ∈ request.statuses) (invalid : 422 ∈ request.statuses) : request.Routed trace (.error error) := by
    cases body with
    | undecodable =>
      cases failed
      exact (Answers.plain (by decide) bad).routed spotless
    | malformed =>
      cases failed
      exact .inl ⟨spotless, .inr ⟨_, rfl, invalid⟩⟩
    | invalid => cases failed
    | data value => cases failed
  cases request <;> first | exact body failed (by simp [statuses]) (by simp [statuses]) | cases failed

/-- A request that is turned away has committed nothing. -/
theorem TurnedAway.routed {error : Exn} (away : request.TurnedAway app error) (spotless : Spotless trace) :
    request.Routed trace (.error error) := by
  cases away with
  | limited path counted retryAfterSeconds =>
    apply (Answers.plain (by simp [rateLimitHttpException]) _).routed spotless
    cases request <;> first | (simp [statuses, rateLimitHttpException]; done) | cases counted
  | limiterDown path counted =>
    apply (Answers.plain (by decide) _).routed spotless
    cases request <;> first | (simp [statuses]; done) | cases counted
  | unreadableBody _ failed => exact unreadable_routed failed spotless
  | unauthenticated credentials presented other detail =>
    apply (Answers.plain (by simp) _).routed spotless
    cases request <;> first | (simp [statuses]; done) | cases presented
  | noRefreshCookie http missing =>
    obtain rfl | rfl := missing <;> exact (Answers.challenged (by simp [statuses])).routed spotless
  | badDevice deviceId reads presented other => exact .inr rfl
  | badState http state callback queried _ refused =>
    subst callback
    have plain (detail : String) : (ApiRequest.confirmLoginYandex http : ApiRequest Token).Answers
        (oauthStateHttpException detail) := .plain (by simp [oauthStateHttpException])
          (by simp [statuses, oauthStateHttpException])
    unfold validateLoginState at refused
    split at refused
    · cases refused
      exact (plain _).routed spotless
    · split at refused
      · cases refused
        exact (plain _).routed spotless
      · split at refused
        · cases refused
        · cases refused
          exact (plain _).routed spotless

/-- What a route makes of the end of its service. -/
theorem Replies.routed {service : Service Token} {shown : Trace Reply} {image : Except Exn (ServiceResult Token)}
    {routed : Except Exn (ApiResponse Token)} (replies : request.Replies app service image routed)
    (ends : ServiceEnds app request service shown image) (shows : Shows app trace shown) :
    request.Routed trace routed := by
  cases replies with
  | invalid nothing result params =>
    obtain ⟨listed, spotless⟩ := ends.1 nothing
    exact .inl ⟨shows.spotless spotless, .inr ⟨params, rfl, listed⟩⟩
  | failed error =>
    obtain ⟨⟨exception, translated, answers⟩, spotless⟩ | breaks := ends
    · exact .inl ⟨shows.spotless spotless, .inl ⟨exception, translated, answers⟩⟩
    · exact .inr breaks
  | answered something result =>
    have made := ends.2 something
    cases answer : request.answer app service result with
    | ok response =>
      rw [answer] at made
      exact made
    | error error =>
      rw [answer] at made
      exact .inr (by cases error <;> first | rfl | cases made)

/-- How the response of a request comes about. -/
theorem Answered.routed {response : ApiResponse Token}
    (answered : request.Answered app (ServiceEnds app request) trace response) :
    ∃ (requestId : String) (routed : Except Exn (ApiResponse Token)), HasRequestId app request.http requestId ∧
      response = sent app requestId routed ∧ request.Routed trace routed := by
  cases answered with
  | turnedAway requestId has error away silent =>
    exact ⟨requestId, _, has, rfl, away.routed fun exchange member => ownWrites_of_hidden (silent exchange member)⟩
  | replied requestId has service asks shown shows image ends routed replies =>
    exact ⟨requestId, routed, has, rfl, replies.routed ends shows⟩

/-- An error is no success. -/
theorem Routed.failure {requestId : String} {error : Exn} (ends : request.Routed trace (.error error)) :
    (sent app requestId (.error error)).status ∉ [200, 302] := by
  obtain ⟨_, ⟨exception, rfl, answers⟩ | ⟨params, rfl, _⟩⟩ | breaks := ends
  · have failure := answers.failure
    simp only [List.mem_cons, List.not_mem_nil, or_false, not_or] at failure ⊢
    exact ⟨failure.1, failure.2.1⟩
  · exact (by decide : 422 ∉ [200, 302])
  · simp [sent, breaks]

end ApiRequest

end AuthApi
