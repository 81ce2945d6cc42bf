import AuthApi.Model.PasswordRoutes
import AuthApi.Model.RoleRoutes

/-! # The remaining routes

`app/api/routes_auth.py` and `app/api/routes_user.py` beyond the routes that check a password, and the router of
`app/api/routes_role.py` with its dependency. FastAPI reads the body of a request before it resolves anything,
and validates path, query and body after all dependencies have run.
-/

namespace AuthApi

open Interleaving Interleaving.Program Dependencies

structure UserCreateOut where
  id : UUID4
  email : String
  createdAt : Time
deriving DecidableEq, Repr

structure UserReadOut where
  id : UUID4
  email : String
  createdAt : Time
  updatedAt : Time
  role : Option RoleCreateOut
deriving DecidableEq, Repr

/-- The model a route returns; the other bodies are those of `Body`. -/
inductive Payload where
  | none
  | userCreated (user : UserCreateOut)
  | user (user : UserReadOut)
  | loginHistory (entries : List LoginDataOut)
  | role (role : RoleCreateOut)
  | roles (roles : List RoleCreateOut)
deriving DecidableEq, Repr

structure ApiResponse (Token : Type) extends HttpResponse Token where
  payload : Payload := .none
deriving DecidableEq, Repr

/-- What the server receives as the body of a request: bytes or numbers that make the decoder raise something
else than `JSONDecodeError`, a text that is no JSON, a JSON value that fails validation, or valid data. -/
inductive RequestBody (α : Type) where
  | undecodable
  | malformed
  | invalid
  | data (value : α)
deriving DecidableEq, Repr

/-- What FastAPI raises before it resolves a dependency, or the data it validates after them. -/
def RequestBody.read {α : Type} : RequestBody α → Except Exn (Option α)
  | .undecodable => .error (.httpException ⟨400, "There was an error parsing the body", []⟩)
  | .malformed => .error (.requestValidationError ["body"])
  | .invalid => .ok none
  | .data value => .ok (some value)

/-- What keeps the body from being read. -/
def RequestBody.unreadable? {α : Type} (body : RequestBody α) : Option Exn :=
  match body.read with
  | .error error => some error
  | .ok _ => none

/-- The `Authorization` header as `HTTPBearer` reads it. -/
inductive AuthorizationCredentials (Token : Type) where
  | missing
  | otherScheme
  | bearer (token : Token)
deriving DecidableEq, Repr

variable {Token : Type} (app : App Token)

/-- The error of `HTTPBearer` for another scheme. -/
def otherSchemeError : Exn := .httpException ⟨403, "Invalid authentication credentials", []⟩

/-- `oauth2_scheme` for any header. -/
def AuthorizationCredentials.authenticate : AuthorizationCredentials Token → Action Token
  | .missing => httpBearer none
  | .otherScheme => throw otherSchemeError
  | .bearer token => httpBearer (some token)

/-- The middleware leaves the body as it is. -/
def ApiResponse.withRequestId (response : ApiResponse Token) (headerName requestId : String) :
    ApiResponse Token :=
  { response with toHttpResponse := response.toHttpResponse.withRequestId headerName requestId }

/-- `RequestIdMiddleware` around a route that may return a model. -/
def apiMiddleware (request : HttpRequest) (route : Action (ApiResponse Token)) :
    Action (ApiResponse Token) := do
  let requestId ← getRequestId app request
  let (outside, response) ←
    try (fun response => (false, response)) <$> route
    catch error =>
      let (outside, response) := exceptionResponse error
      pure (outside, { toHttpResponse := response })
  if outside then return response
  else return response.withRequestId app.settings.requestIdHeader requestId

namespace RoutesAuth

/-- `get_refresh_token`; `none` is a missing or an empty cookie. -/
def getRefreshToken : Option Token → Action Token
  | some refreshToken => return refreshToken
  | none => throw (.httpException (refreshHttpException "Refresh token is required"))

/-- A response with an access token and the cookie of its refresh token. -/
def tokensRenewed (tokens : TokenData Token) : HttpResponse Token where
  status := 200
  headers := []
  cookies := [
    { key := "refresh", value := .token tokens.refresh, samesite := "lax", httponly := true
      secure := app.settings.prod
      maxAge := some (app.jwtSettings.refreshTokenExpireDays * 60 * 60 * 24) }]
  body := .access tokens.access

/-- How `refresh_tokens` and `logout` translate the domain error. -/
def refreshError : Exn → Exn
  | .refreshTokenError _ => .httpException (refreshHttpException "Invalid refresh token")
  | other => other

/-- `POST /refresh`. -/
def refreshTokens (request : HttpRequest) (refreshCookie : Option Token) : Action (HttpResponse Token) :=
  requestIdMiddleware app request do
    rateLimitRouteByIp app request "/refresh"
    let refreshToken ← getRefreshToken refreshCookie
    withSession do
      let tokens ← raising refreshError (AuthService.refreshTokens app refreshToken)
      return tokensRenewed app tokens

/-- The response of a logout deletes the cookie. -/
def loggedOut : HttpResponse Token where
  status := 200
  headers := []
  cookies := [{ key := "refresh", value := .text "", maxAge := some 0 }]
  body := .empty

/-- `POST /logout`. -/
def logout (request : HttpRequest) (refreshCookie : Option Token) : Action (HttpResponse Token) :=
  requestIdMiddleware app request do
    rateLimitRouteByIp app request "/logout"
    let refreshToken ← getRefreshToken refreshCookie
    withSession do
      raising refreshError (AuthService.logout app refreshToken)
      return loggedOut

/-- `POST /logout-others`; no error of the service is caught here. -/
def logoutOthers (request : HttpRequest) (credentials : AuthorizationCredentials Token) :
    Action (HttpResponse Token) :=
  requestIdMiddleware app request do
    rateLimitRouteByIp app request "/logout-others"
    let token ← credentials.authenticate
    withSession do
      let user ← getTokenUser app token
      let tokens ← AuthService.logoutOthers app user
      return tokensRenewed app tokens

end RoutesAuth

namespace RoutesUser

/-- `UserCreateOut.model_validate`, which reads the email once more. -/
def UserCreateOut.modelValidate (user : UserObject) : Except Exn UserCreateOut :=
  match app.pydantic.emailStr user.email with
  | some email => .ok ⟨user.id, email, user.createdAt⟩
  | none => .error .validationError

/-- `UserReadOut.model_validate`; a role that was never loaded cannot be read from the instance. -/
def UserReadOut.modelValidate (user : UserObject) : Except Exn UserReadOut :=
  match app.pydantic.emailStr user.email, user.role with
  | some email, .loaded role =>
      .ok ⟨user.id, email, user.createdAt, user.updatedAt,
        role.map fun role => ⟨role.id, role.title, role.accessLabels⟩⟩
  | _, _ => .error .validationError

def createUserError : Exn → Exn
  | .userAlreadyExistsError _ => .httpException ⟨400, "User already exists", []⟩
  | other => other

/-- `POST /users`; `none` is a body that fails validation. -/
def createUser (request : HttpRequest) (userData : Option UserCreateIn) : Action (ApiResponse Token) :=
  apiMiddleware app request do
    rateLimitRouteByIp app request "/users"
    withSession do
      match userData with
      | none => throw (.requestValidationError ["body"])
      | some userData => do
        let user ← raising createUserError (UserService.createUser app userData)
        match UserCreateOut.modelValidate app user with
        | .error error => throw error
        | .ok created => return { status := 200, headers := [], body := .empty, payload := .userCreated created }

def userInfoError : Exn → Exn
  | .userNotFoundError _ => .httpException userNotFoundHttpError
  | other => other

/-- `GET /users/me`. -/
def userInfo (request : HttpRequest) (credentials : AuthorizationCredentials Token) : Action (ApiResponse Token) :=
  apiMiddleware app request do
    let token ← credentials.authenticate
    withSession do
      let user ← getTokenUser app token
      let found ← raising userInfoError (UserService.getUserInfo user)
      match UserReadOut.modelValidate app found with
      | .error error => throw error
      | .ok read => return { status := 200, headers := [], body := .empty, payload := .user read }

/-- A query parameter of type `int` with a lower bound, a default and perhaps an upper bound. -/
def boundedParam (request : HttpRequest) (name : String) (default : ℕ) (limit : Option ℕ) : Option ℕ :=
  match request.query? name with
  | none => some default
  | some text => do
      let value ← app.pydantic.int text
      guard (1 ≤ value ∧ ∀ most ∈ limit, value ≤ most)
      return value.toNat

/-- `GET /users/me/login-history`. -/
def getLoginHistory (request : HttpRequest) (credentials : AuthorizationCredentials Token) :
    Action (ApiResponse Token) :=
  apiMiddleware app request do
    let token ← credentials.authenticate
    withSession do
      let user ← getTokenUser app token
      match boundedParam app request "page" 1 none, boundedParam app request "page_size" 10 (some 100) with
      | some page, some pageSize => do
        let entries ← UserService.getLoginHistory user.id page pageSize
        return { status := 200, headers := [], body := .empty, payload := .loginHistory entries }
      | page, pageSize =>
        throw (.requestValidationError
          ((if page.isNone then ["page"] else []) ++ (if pageSize.isNone then ["page_size"] else [])))

end RoutesUser

namespace RoutesRole

/-- The response to an operation of the role administration. -/
def answered : Outcome Token → ApiResponse Token
  | .role role => { status := 200, headers := [], body := .empty, payload := .role role }
  | .roles roles => { status := 200, headers := [], body := .empty, payload := .roles roles }
  | _ => { status := 200, headers := [], body := .empty }

/-- A route of the router, whose dependency `ensure_superuser` comes first; `error` lists the parameters that
fail validation. -/
def behindGate (request : HttpRequest) (credentials : AuthorizationCredentials Token)
    (operation : Except (List String) RoleOperation) : Action (ApiResponse Token) :=
  apiMiddleware app request do
    let token ← credentials.authenticate
    ensureSuperuser app token
    withSession do
      match operation with
      | .error params => throw (.requestValidationError params)
      | .ok operation => do
        let outcome ← operation.route app
        return answered outcome

end RoutesRole

end AuthApi
