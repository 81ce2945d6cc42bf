import AuthApi.Model.Api

/-! # The services behind the API

What an HTTP request asks of the services once its dependencies are resolved, in one session of the database, and
the response its route makes of the result. A request that never gets so far is turned away.
-/

namespace AuthApi

open Interleaving Interleaving.Program Dependencies

/-- `idle` is a session in which nothing is asked, since a parameter of the route fails validation, and `gate` one
behind `ensure_superuser`. -/
inductive Service (Token : Type) where
  | idle
  | gate (accessToken : Token)
  | request (request : Request Token)
  | buildLoginRedirect (state : UUID)
deriving DecidableEq, Repr, Inhabited

inductive ServiceResult (Token : Type) where
  | outcome (outcome : Outcome Token)
  | redirect (url : String)
deriving DecidableEq, Repr

variable {Token : Type} (app : App Token)

def Service.program : Service Token → Action (ServiceResult Token)
  | .idle => withSession (return .outcome .unit)
  | .gate accessToken => do
      ensureSuperuser app accessToken
      withSession (return .outcome .unit)
  | .request asked => do return .outcome (← asked.program app)
  | .buildLoginRedirect state => withSession do
      return .redirect (← YandexIdService.buildLoginRedirect app state)

/-- The service only opens the way to the validation of the parameters. -/
def Service.asksNothing : Service Token → Bool
  | .idle => true
  | .gate _ => true
  | .request (.userEndpoint _ .checkAccess) => true
  | _ => false

/-- Each request has its service, none of which has begun. -/
def launched (world : World) (services : Tid → Service Token) :
    Config Tid Reply World Exn (ServiceResult Token) :=
  .start world fun tid => (services tid).program app

namespace ApiRequest

def credentials? : ApiRequest Token → Option (AuthorizationCredentials Token)
  | .logoutOthers _ credentials => some credentials
  | .userInfo _ credentials => some credentials
  | .changeEmail _ credentials _ => some credentials
  | .changePassword _ credentials _ => some credentials
  | .getLoginHistory _ credentials => some credentials
  | .createRole _ credentials _ => some credentials
  | .listRoles _ credentials => some credentials
  | .deleteRole _ credentials _ => some credentials
  | .modifyRole _ credentials _ _ => some credentials
  | .assignRole _ credentials _ => some credentials
  | .revokeRole _ credentials _ => some credentials
  | _ => none

/-- The operation of a role route whose parameters are valid. -/
def roleOperation? : ApiRequest Token → Option RoleOperation
  | .createRole _ _ (.data data) => some (.createRole data)
  | .listRoles _ _ => some .getAllRoles
  | .deleteRole _ _ roleId => (roleIdParam app roleId).map .removeRole
  | .modifyRole _ _ roleId (.data data) => (roleIdParam app roleId).map fun roleId => .modifyRole roleId data
  | .assignRole _ _ (.data data) => some (.assignRole data.userId data.roleId)
  | .revokeRole _ _ (.data userId) => some (.revokeRole userId)
  | _ => none

/-- The template under which a request is counted, for the routes that depend on the limiter. -/
def limitedPath? : ApiRequest Token → Option String
  | .issueTokens _ _ => some "/token"
  | .refreshTokens _ _ => some "/refresh"
  | .logout _ _ => some "/logout"
  | .logoutOthers _ _ => some "/logout-others"
  | .createUser _ _ => some "/users"
  | .oauthLogin _ => some "/yandexid/login"
  | .confirmLoginYandex _ => some "/yandexid/token"
  | _ => none

/-- What the body of a request cannot be read for. -/
def unreadable? : ApiRequest Token → Option Exn
  | .issueTokens _ body => body.unreadable?
  | .createUser _ body => body.unreadable?
  | .changeEmail _ _ body => body.unreadable?
  | .changePassword _ _ body => body.unreadable?
  | .createRole _ _ body => body.unreadable?
  | .modifyRole _ _ _ body => body.unreadable?
  | .assignRole _ _ body => body.unreadable?
  | .revokeRole _ _ body => body.unreadable?
  | _ => none

/-- The route has a parameter or a body that may fail validation. -/
def validates : ApiRequest Token → Bool
  | .refreshTokens _ _ => false
  | .logout _ _ => false
  | .logoutOthers _ _ => false
  | .userInfo _ _ => false
  | .listRoles _ _ => false
  | .oauthLogin _ => false
  | _ => true

/-- The route depends on `get_or_create_device_id`. -/
def readsDevice : ApiRequest Token → Bool
  | .issueTokens _ _ => true
  | .confirmLoginYandex _ => true
  | _ => false

/-- The device of a request is made of its cookie, or of a fresh id. -/
def HasDevice (http : HttpRequest) (deviceInfo : DeviceInfo) : Prop :=
  ∃ deviceId, getDeviceInfo app deviceId (getRequestMeta app http) = .ok deviceInfo

/-- The services a request may ask, with the arguments its route passes on. -/
inductive Asks : ApiRequest Token → Service Token → Prop
  | idle (request : ApiRequest Token) (validates : request.validates = true) : Asks request .idle
  | gate (request : ApiRequest Token) (accessToken : Token) (validates : request.validates = true)
      (authenticated : request.credentials? = some (.bearer accessToken)) : Asks request (.gate accessToken)
  | checkAccess (request : ApiRequest Token) (accessToken : Token) (validates : request.validates = true)
      (authenticated : request.credentials? = some (.bearer accessToken)) :
      Asks request (.request (.userEndpoint accessToken .checkAccess))
  | issueTokens (http : HttpRequest) (data : UserLoginData) (deviceInfo : DeviceInfo)
      (device : HasDevice app http deviceInfo) :
      Asks (.issueTokens http (.data data))
        (.request (.loginUser data (getRequestMeta app http) (some deviceInfo)))
  | refreshTokens (http : HttpRequest) (refreshToken : Token) :
      Asks (.refreshTokens http (some refreshToken)) (.request (.refreshTokens refreshToken))
  | logout (http : HttpRequest) (refreshToken : Token) :
      Asks (.logout http (some refreshToken)) (.request (.logout refreshToken))
  | logoutOthers (http : HttpRequest) (accessToken : Token) :
      Asks (.logoutOthers http (.bearer accessToken)) (.request (.userEndpoint accessToken .logoutOthers))
  | createUser (http : HttpRequest) (data : UserCreateIn) :
      Asks (.createUser http (.data data)) (.request (.createUser data))
  | userInfo (http : HttpRequest) (accessToken : Token) :
      Asks (.userInfo http (.bearer accessToken)) (.request (.userEndpoint accessToken .getUserInfo))
  | changeEmail (http : HttpRequest) (accessToken : Token) (data : UserChangeEmailIn) :
      Asks (.changeEmail http (.bearer accessToken) (.data data))
        (.request (.userEndpoint accessToken (.changeEmail data)))
  | changePassword (http : HttpRequest) (accessToken : Token) (data : UserChangePasswordIn) :
      Asks (.changePassword http (.bearer accessToken) (.data data))
        (.request (.userEndpoint accessToken (.changePassword data)))
  | getLoginHistory (http : HttpRequest) (accessToken : Token) (page pageSize : ℕ)
      (paged : RoutesUser.boundedParam app http "page" 1 none = some page)
      (sized : RoutesUser.boundedParam app http "page_size" 10 (some 100) = some pageSize) :
      Asks (.getLoginHistory http (.bearer accessToken))
        (.request (.userEndpoint accessToken (.getLoginHistory page pageSize)))
  | role (request : ApiRequest Token) (accessToken : Token) (operation : RoleOperation)
      (authenticated : request.credentials? = some (.bearer accessToken))
      (valid : request.roleOperation? app = some operation) :
      Asks request (.request (.roleEndpoint accessToken operation))
  | oauthLogin (http : HttpRequest) (state : UUID4) : Asks (.oauthLogin http) (.buildLoginRedirect state.val)
  | confirmLoginYandex (http : HttpRequest) (code : String) (state : UUID) (deviceInfo : DeviceInfo)
      (device : HasDevice app http deviceInfo) (granted : http.query? "code" = some code)
      (stated : (http.query? "state").bind app.pydantic.uuid = some state)
      (presented : validateLoginState http state = .ok ()) :
      Asks (.confirmLoginYandex http) (.request (.authorize code state (getRequestMeta app http) deviceInfo))

/-- What a request without a service is turned away with. -/
inductive TurnedAway (request : ApiRequest Token) : Exn → Prop
  | limited (path : String) (counted : request.limitedPath? = some path) (retryAfterSeconds : ℤ) :
      TurnedAway request (.httpException (rateLimitHttpException retryAfterSeconds))
  | limiterDown (path : String) (counted : request.limitedPath? = some path) :
      TurnedAway request (.httpException ⟨503, "Rate limiter is temporarily unavailable", []⟩)
  | unreadableBody (error : Exn) (failed : request.unreadable? = some error) : TurnedAway request error
  | unauthenticated (credentials : AuthorizationCredentials Token) (presented : request.credentials? = some credentials)
      (other : ∀ accessToken, credentials ≠ .bearer accessToken) (detail : String) :
      TurnedAway request (.httpException ⟨403, detail, []⟩)
  | noRefreshCookie (http : HttpRequest)
      (missing : request = .refreshTokens http none ∨ request = .logout http none) :
      TurnedAway request (.httpException (refreshHttpException "Refresh token is required"))
  | badDevice (deviceId : UUID) (reads : request.readsDevice = true)
      (presented : (request.http.cookie? "device_id").bind UUID.parse = some deviceId)
      (other : deviceId.toUUID4 = none) : TurnedAway request .validationError
  | badState (http : HttpRequest) (state : UUID) (callback : request = .confirmLoginYandex http)
      (queried : (http.query? "state").bind app.pydantic.uuid = some state) (error : Exn)
      (refused : validateLoginState http state = .error error) : TurnedAway request error

/-- `CredentialsHttpException` for wrong credentials. -/
def loginError : Exn → Exn
  | .wrongCredentialsError _ => .httpException credentialsHttpException
  | other => other

/-- `OAuthProviderHttpException` for a state that could not be stored. -/
def loginRedirectError : Exn → Exn
  | .yandexIdProviderError _ =>
      .httpException (oauthProviderHttpException "Failed to initialize Yandex OAuth")
  | other => other

/-- What a route raises for an error of its service. -/
def translate : ApiRequest Token → Exn → Exn
  | .issueTokens _ _ => loginError
  | .refreshTokens _ _ => RoutesAuth.refreshError
  | .logout _ _ => RoutesAuth.refreshError
  | .createUser _ _ => RoutesUser.createUserError
  | .userInfo _ _ => RoutesUser.userInfoError
  | .changeEmail _ _ _ => changeEmailError
  | .changePassword _ _ _ => changePasswordError
  | .createRole _ _ _ => RoutesRole.createRoleError
  | .deleteRole _ _ _ => RoutesRole.deleteRoleError
  | .modifyRole _ _ _ _ => RoutesRole.modifyRoleError
  | .assignRole _ _ _ => RoutesRole.assignRoleError
  | .revokeRole _ _ _ => RoutesRole.revokeRoleError
  | .oauthLogin _ => loginRedirectError
  | .confirmLoginYandex _ => callbackError
  | _ => id

/-- The response of a route to what its service returned; a result that the service cannot return is given as the
internal error it would be. -/
def answer : ApiRequest Token → Service Token → ServiceResult Token → Except Exn (ApiResponse Token)
  | .issueTokens _ _, .request (.loginUser _ _ (some deviceInfo)), .outcome (.tokens pair) =>
      .ok { toHttpResponse := tokensIssued app pair deviceInfo }
  | .refreshTokens _ _, _, .outcome (.tokens pair) => .ok { toHttpResponse := RoutesAuth.tokensRenewed app pair }
  | .logoutOthers _ _, _, .outcome (.tokens pair) => .ok { toHttpResponse := RoutesAuth.tokensRenewed app pair }
  | .logout _ _, _, _ => .ok { toHttpResponse := RoutesAuth.loggedOut }
  | .createUser _ _, _, .outcome (.user user) =>
      (RoutesUser.UserCreateOut.modelValidate app user).map fun created =>
        { status := 200, headers := [], body := .empty, payload := .userCreated created }
  | .userInfo _ _, _, .outcome (.user user) =>
      (RoutesUser.UserReadOut.modelValidate app user).map fun read =>
        { status := 200, headers := [], body := .empty, payload := .user read }
  | .changeEmail _ _ _, _, _ => .ok { status := 200, headers := [], body := .empty }
  | .changePassword _ _ _, _, _ => .ok { status := 200, headers := [], body := .empty }
  | .getLoginHistory _ _, _, .outcome (.loginHistory entries) =>
      .ok { status := 200, headers := [], body := .empty, payload := .loginHistory entries }
  | .oauthLogin _, .buildLoginRedirect state, .redirect url =>
      .ok { toHttpResponse := loginRedirect app url state }
  | .confirmLoginYandex _, .request (.authorize _ _ _ deviceInfo), .outcome (.tokens pair) =>
      .ok { toHttpResponse := loginConfirmed app pair deviceInfo }
  | _, .request (.roleEndpoint _ _), .outcome outcome => .ok (RoutesRole.answered outcome)
  | _, _, _ => .error .invalidRequestError

/-- What a route makes of the outcome of its service. -/
inductive Replies (request : ApiRequest Token) (service : Service Token) :
    Except Exn (ServiceResult Token) → Except Exn (ApiResponse Token) → Prop
  | invalid (nothing : service.asksNothing = true) (result : ServiceResult Token) (params : List String) :
      Replies request service (.ok result) (.error (.requestValidationError params))
  | failed (error : Exn) : Replies request service (.error error) (.error (request.translate error))
  | answered (something : service.asksNothing = false) (result : ServiceResult Token) :
      Replies request service (.ok result) (request.answer app service result)

/-- The id of a request is the one its client sent, or a fresh one. -/
def HasRequestId (http : HttpRequest) (requestId : String) : Prop :=
  match (http.header? app.settings.requestIdHeader).map Encoding.stripSpace with
  | none => ∃ id : UUID4, requestId = id.val.str
  | some text => if text = "" then ∃ id : UUID4, requestId = id.val.str else requestId = text

/-- The response the middleware lets out for what the route ended with. -/
def sent (requestId : String) : Except Exn (ApiResponse Token) → ApiResponse Token
  | .ok response => response.withRequestId app.settings.requestIdHeader requestId
  | .error error =>
      let (outside, response) := exceptionResponse error
      if outside then { toHttpResponse := response }
      else { toHttpResponse := response.withRequestId app.settings.requestIdHeader requestId }

end ApiRequest

end AuthApi
