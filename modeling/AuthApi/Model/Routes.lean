import AuthApi.Model.Http

/-! # The Yandex ID routes

`app/api/routes_yandexid.py` behind the request-id middleware. FastAPI resolves the dependencies of
a route in the order of its parameters and answers 422 for bad parameters only after them; an
exception nobody handles becomes a bare 500 outside the middleware.
-/

namespace AuthApi

open Interleaving Interleaving.Program YandexIdService

inductive CookieValue (Token : Type) where
  | text (value : String)
  | token (value : Token)
deriving DecidableEq, Repr

structure Cookie (Token : Type) where
  key : String
  value : CookieValue Token
  maxAge : Option ℤ := none
  secure : Bool := false
  httponly : Bool := false
  samesite : String := "lax"
deriving DecidableEq, Repr

inductive Body (Token : Type) where
  | empty
  | detail (text : String)
  | requestValidation (params : List String)
  | access (token : Token)
  | internalServerError
deriving DecidableEq, Repr

/-- A response as the browser receives it, without the headers that describe the body. -/
structure HttpResponse (Token : Type) where
  status : ℕ
  headers : List (String × String)
  cookies : List (Cookie Token) := []
  body : Body Token
deriving DecidableEq, Repr

variable {Token : Type} (app : App Token)

/-- The request id replaces every header of its name; a cookie is a header `set-cookie`. -/
def HttpResponse.withRequestId (response : HttpResponse Token) (headerName requestId : String) :
    HttpResponse Token :=
  { response with
    headers := (response.headers.filter fun header => header.1.toLower ≠ headerName.toLower) ++
      [(headerName.toLower, requestId)]
    cookies := if headerName.toLower = "set-cookie" then [] else response.cookies }

theorem HttpResponse.withRequestId_cookies_subset (response : HttpResponse Token) (headerName requestId : String) :
    (response.withRequestId headerName requestId).cookies ⊆ response.cookies := by
  unfold withRequestId
  split
  · exact List.nil_subset _
  · exact List.Subset.refl _

theorem HttpResponse.withRequestId_cookies (response : HttpResponse Token) {headerName : String} (requestId : String)
    (other : headerName.toLower ≠ "set-cookie") :
    (response.withRequestId headerName requestId).cookies = response.cookies := if_neg other

/-- The handlers of FastAPI and Starlette for an exception; `true` marks a response that was sent
outside the middleware. -/
def exceptionResponse : Exn → Bool × HttpResponse Token
  | .httpException exception =>
      (false, ⟨exception.statusCode, exception.headers, [], .detail exception.detail⟩)
  | .requestValidationError params => (false, ⟨422, [], [], .requestValidation params⟩)
  | _ => (true, ⟨500, [], [], .internalServerError⟩)

/-- The client's request id, or a fresh one. -/
def getRequestId (request : HttpRequest) : Action String :=
  match (request.header? app.settings.requestIdHeader).map Encoding.stripSpace with
  | none => do
    let id ← ask .uuid4
    return id.val.str
  | some text =>
    if text = "" then do
      let id ← ask .uuid4
      return id.val.str
    else return text

/-- `RequestIdMiddleware` around a route. -/
def requestIdMiddleware (request : HttpRequest) (route : Action (HttpResponse Token)) :
    Action (HttpResponse Token) := do
  let requestId ← getRequestId app request
  let (outside, response) ←
    try (fun response => (false, response)) <$> route
    catch error => pure (exceptionResponse error)
  if outside then return response
  else return response.withRequestId app.settings.requestIdHeader requestId

/-- A request with a database session, which is closed whatever happens. -/
def withSession {α : Type} (body : Action α) : Action α := do
  let result ←
    try body
    catch error => do
      ask .close
      throw error
  ask .close
  return result

def validateLoginState (request : HttpRequest) (state : UUID) : Except Exn Unit :=
  match request.cookie? "state" with
  | none => .error (.httpException (oauthStateHttpException "Cookie state is invalid or expired"))
  | some cookieStateRaw =>
    match if cookieStateRaw = "" then none else UUID.parse cookieStateRaw with
    | none => .error (.httpException (oauthStateHttpException "Cookie state is invalid or expired"))
    | some cookieState =>
      if state = cookieState then .ok ()
      else .error (.httpException (oauthStateHttpException "Login state is invalid or expired"))

/-- `urllib.parse.quote` with the characters Starlette keeps in a location. -/
def quoteLocation (url : String) : String :=
  let safe := ":/%#?=@[]!$&'()*+,;".toList.map Char.toNat
  String.ofList <| url.toUTF8.data.toList.flatMap fun byte =>
    if byte.toNat ∈ safe then [Char.ofNat byte.toNat]
    else if byte.toNat = 0x20 then "%20".toList
    else Encoding.quoteByte byte

/-- The redirect to the provider; it carries the `Authorization` header of the client. -/
def loginRedirect (redirectUrl : String) (state : UUID) : HttpResponse Token where
  status := 302
  headers := [("authorization", app.yandexidSettings.authHeader),
    ("location", quoteLocation redirectUrl)]
  cookies := [{
    key := "state", value := .text state.str, samesite := "lax", httponly := true
    secure := app.settings.prod, maxAge := some app.yandexidSettings.confirmationCodeTtl }]
  body := .empty

/-- `GET /yandexid/login`. -/
def oauthLogin (request : HttpRequest) : Action (HttpResponse Token) :=
  requestIdMiddleware app request do
    rateLimitRouteByIp app request "/yandexid/login"
    let state ← ask .uuid4
    withSession do
      let redirectUrl ←
        try buildLoginRedirect app state.val
        catch error =>
          match error with
          | .yandexIdProviderError _ =>
            throw (.httpException (oauthProviderHttpException "Failed to initialize Yandex OAuth"))
          | other => throw other
      return loginRedirect app redirectUrl state.val

/-- The response of a callback that logged a user in. -/
def loginConfirmed (tokens : TokenData Token) (deviceInfo : DeviceInfo) : HttpResponse Token where
  status := 200
  headers := []
  cookies := [
    { key := "state", value := .text "", maxAge := some 0 },
    { key := "device_id", value := .text deviceInfo.deviceId.val.str, samesite := "lax"
      httponly := true, secure := app.settings.prod },
    { key := "refresh", value := .token tokens.refresh, samesite := "lax", httponly := true
      secure := app.settings.prod
      maxAge := some (app.jwtSettings.refreshTokenExpireDays * 60 * 60 * 24) }]
  body := .access tokens.access

/-- How `confirm_login_yandex` translates the domain errors. -/
def callbackError : Exn → Exn
  | .yandexIdStateError _ => .httpException oauthStateHttpException
  | .yandexIdTokenError _ =>
      .httpException (oauthProviderHttpException "Error during token exchange with provider")
  | .yandexIdUserInfoError _ =>
      .httpException (oauthProviderHttpException "Error during user profile fetch from provider")
  | .yandexIdProviderError _ => .httpException oauthProviderHttpException
  | .yandexIdAccountConflictError _ =>
      .httpException (oauthCallbackHttpException "Yandex account link conflict")
  | other => other

/-- `GET /yandexid/token`; the cookie is compared only when the query parameter is a UUID. -/
def confirmLoginYandex (request : HttpRequest) : Action (HttpResponse Token) :=
  requestIdMiddleware app request do
    let code := request.query? "code"
    let state := (request.query? "state").bind app.pydantic.uuid
    rateLimitRouteByIp app request "/yandexid/token"
    match state.map (validateLoginState request) with
    | some (.error error) => throw error
    | _ => do
      let requestMeta := getRequestMeta app request
      let deviceId ← getOrCreateDeviceId request
      match getDeviceInfo app deviceId requestMeta with
      | .error error => throw error
      | .ok deviceInfo =>
        withSession do
          match code, state with
          | some code, some state => do
            let tokens ←
              try authorize app code state requestMeta deviceInfo
              catch error => throw (callbackError error)
            return loginConfirmed app tokens deviceInfo
          | code, state =>
            let badState := if state.isNone then ["state"] else []
            let badCode := if code.isNone then ["code"] else []
            throw (.requestValidationError (badState ++ badCode ++ badState))

end AuthApi
