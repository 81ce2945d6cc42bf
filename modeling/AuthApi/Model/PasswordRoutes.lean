import AuthApi.Model.Routes

/-! # The routes that check a password

`POST /token`, `PATCH /users/me/email` and `PATCH /users/me/password` with the dependencies each of
them declares. Bodies are validated after the dependencies have run.
-/

namespace AuthApi

open Interleaving Interleaving.Program Dependencies

inductive PasswordRoute where
  | issueTokens
  | changeEmail
  | changePassword
deriving DecidableEq, Repr

/-- The method and the path a route is registered under. -/
def PasswordRoute.method : PasswordRoute → String
  | .issueTokens => "POST"
  | .changeEmail => "PATCH"
  | .changePassword => "PATCH"

def PasswordRoute.path : PasswordRoute → String
  | .issueTokens => "/token"
  | .changeEmail => "/users/me/email"
  | .changePassword => "/users/me/password"

variable {Token : Type} (app : App Token)

/-- `oauth2_scheme`: the token of the `Authorization` header. -/
def httpBearer : Option Token → Action Token
  | some token => return token
  | none => throw (.httpException ⟨403, "Not authenticated", []⟩)

/-- The response of a login. -/
def tokensIssued (tokens : TokenData Token) (deviceInfo : DeviceInfo) : HttpResponse Token where
  status := 200
  headers := []
  cookies := [
    { key := "refresh", value := .token tokens.refresh, samesite := "lax", httponly := true
      secure := app.settings.prod
      maxAge := some (app.jwtSettings.refreshTokenExpireDays * 24 * 60 * 60) },
    { key := "device_id", value := .text deviceInfo.deviceId.val.str, samesite := "lax"
      httponly := true, secure := app.settings.prod }]
  body := .access tokens.access

/-- `POST /token`; `none` is a body that fails validation. -/
def issueTokens (request : HttpRequest) (loginData : Option UserLoginData) :
    Action (HttpResponse Token) :=
  requestIdMiddleware app request do
    rateLimitRouteByIp app request PasswordRoute.issueTokens.path
    let requestMeta := getRequestMeta app request
    let deviceId ← getOrCreateDeviceId request
    match getDeviceInfo app deviceId requestMeta with
    | .error error => throw error
    | .ok deviceInfo =>
      withSession do
        match loginData with
        | none => throw (.requestValidationError ["body"])
        | some loginData => do
          let tokens ←
            try AuthService.loginUser app loginData requestMeta (some deviceInfo)
            catch error =>
              match error with
              | .wrongCredentialsError _ => throw (.httpException credentialsHttpException)
              | other => throw other
          return tokensIssued app tokens deviceInfo

/-- A route that lets the user of the token change something; it answers 200 without a body. -/
def ownAccountRoute {Body : Type} (request : HttpRequest) (credentials : Option Token)
    (body : Option Body) (change : Body → UserObject → Action Unit) (translate : Exn → Exn) :
    Action (HttpResponse Token) :=
  requestIdMiddleware app request do
    let token ← httpBearer credentials
    withSession do
      let user ← getTokenUser app token
      match body with
      | none => throw (.requestValidationError ["body"])
      | some data => do
        try change data user
        catch error => throw (translate error)
        return ⟨200, [], [], .empty⟩

/-- How `change_email` translates the domain errors. -/
def changeEmailError : Exn → Exn
  | .wrongPasswordError _ => .httpException wrongPasswordHttpError
  | .emailAlreadyExistsError _ => .httpException ⟨400, "Email already exists", []⟩
  | other => other

def changePasswordError : Exn → Exn
  | .wrongPasswordError _ => .httpException wrongPasswordHttpError
  | other => other

/-- `PATCH /users/me/email`. -/
def changeEmailRoute (request : HttpRequest) (credentials : Option Token)
    (changeEmailData : Option UserChangeEmailIn) : Action (HttpResponse Token) :=
  ownAccountRoute app request credentials changeEmailData (UserService.changeEmail app) changeEmailError

/-- `PATCH /users/me/password`. -/
def changePasswordRoute (request : HttpRequest) (credentials : Option Token)
    (changePasswordData : Option UserChangePasswordIn) : Action (HttpResponse Token) :=
  ownAccountRoute app request credentials changePasswordData (UserService.changePassword app)
    changePasswordError

/-- The credentials and the body of a request to one of these routes. -/
inductive PasswordRequest (Token : Type) where
  | issueTokens (loginData : Option UserLoginData)
  | changeEmail (credentials : Option Token) (changeEmailData : Option UserChangeEmailIn)
  | changePassword (credentials : Option Token) (changePasswordData : Option UserChangePasswordIn)
deriving DecidableEq, Repr

namespace PasswordRequest

def route : PasswordRequest Token → PasswordRoute
  | .issueTokens _ => .issueTokens
  | .changeEmail _ _ => .changeEmail
  | .changePassword _ _ => .changePassword

def program (request : HttpRequest) : PasswordRequest Token → Action (HttpResponse Token)
  | .issueTokens loginData => AuthApi.issueTokens app request loginData
  | .changeEmail credentials data => changeEmailRoute app request credentials data
  | .changePassword credentials data => changePasswordRoute app request credentials data

end PasswordRequest

end AuthApi
