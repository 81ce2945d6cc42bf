import AuthApi.Encoding.Text
import AuthApi.Model.YandexIdService
import AuthApi.RateLimiting.FloatDivision

/-! # HTTP requests, client addresses and the rate limiter

What the routes see of a request, `app/core/request_context.py`, `app/api/rate_limiter.py` and the
dependencies that read the request. Header names are compared without regard to case. The routes are those that
`app/main.py` mounts, with the templates of `scope["route"].path`, which the root path does not precede.
-/

namespace AuthApi

open Interleaving Interleaving.Program Encoding RateLimiting

structure HttpRequest where
  method : String
  client : Option String
  headers : List (String × String)
  cookies : List (String × String)
  query : List (String × String)
deriving DecidableEq, Repr

namespace HttpRequest

variable (request : HttpRequest)

/-- `request.headers.get(name)`: the first header of that name. -/
def header? (name : String) : Option String :=
  (request.headers.find? fun header => header.1.toLower = name.toLower).map Prod.snd

/-- `request.cookies.get(name)`: the last cookie of that name. -/
def cookie? (name : String) : Option String :=
  (request.cookies.reverse.find? fun cookie => cookie.1 = name).map Prod.snd

/-- The last query parameter of that name. -/
def query? (name : String) : Option String :=
  (request.query.reverse.find? fun param => param.1 = name).map Prod.snd

end HttpRequest

section RequestContext

variable (settings : AppSettings)

/-- `AppSettings.trusted_proxy_ip_set`. -/
def AppSettings.trustedProxyIpSet : List String :=
  ((splitOn ',' settings.trustedProxyIps.toList).map fun ip => stripSpace (String.ofList ip)).filter
    (· ≠ "")

def getClientIp (request : HttpRequest) : String :=
  let directClientIp := request.client.getD "unknown"
  match request.header? "X-Forwarded-For" with
  | none => directClientIp
  | some forwardedFor =>
    if forwardedFor = "" ∨ settings.trustProxyHeaders = false then directClientIp
    else if settings.trustedProxyIpSet ≠ [] ∧ directClientIp ∉ settings.trustedProxyIpSet then
      directClientIp
    else
      let firstHop := stripSpace (String.ofList ((splitOn ',' forwardedFor.toList).headD []))
      if firstHop = "" then directClientIp else firstHop

end RequestContext

structure RateLimitRule where
  name : String
  limit : ℤ
  windowSeconds : ℤ
deriving DecidableEq, Repr

structure RateLimitResult where
  allowed : Bool
  retryAfterSeconds : ℤ
  remaining : ℤ
  currentCount : ℤ
deriving DecidableEq, Repr

section RateLimiter

variable (settings : RateLimitSettings)

def ipPerRouteRule : RateLimitRule := ⟨"ip_per_route", settings.ipLimit, settings.ipWindowSeconds⟩

def rateLimitKey (rule : RateLimitRule) (identity : String) : String :=
  settings.redisPrefix ++ ":" ++ rule.name ++ ":" ++ identity

/-- The verdict on the two integers the script returns. -/
def RateLimitRule.verdict (rule : RateLimitRule) (currentCount ttlMs : ℤ) : RateLimitResult where
  allowed := currentCount ≤ rule.limit
  retryAfterSeconds := if 0 < ttlMs then ceilQuotient ttlMs.toNat 1000 else rule.windowSeconds
  remaining := max (rule.limit - currentCount) 0
  currentCount := currentCount

/-- `RedisFixedWindowRateLimiter.consume`. -/
def consume (rule : RateLimitRule) (identity : String) : Action RateLimitResult := do
  let windowMs := (max 1 (rule.windowSeconds * 1000)).toNat
  match ← ask (.redisIncrWithTtl (rateLimitKey settings rule identity) windowMs) with
  | .ok (currentCount, ttlMs) => return rule.verdict currentCount ttlMs
  | .error _ =>
    if settings.failOpen then return ⟨true, 0, rule.limit, 0⟩
    else throw (.rateLimitStorageError "Rate limiter storage unavailable")

def enforceRateLimit (rule : RateLimitRule) (identity : String) : Action Unit :=
  if settings.enabled then do
    let result ←
      try consume settings rule identity
      catch error =>
        match error with
        | .rateLimitStorageError _ =>
          throw (.httpException ⟨503, "Rate limiter is temporarily unavailable", []⟩)
        | other => throw other
    if result.allowed then return ()
    else throw (.httpException (rateLimitHttpException result.retryAfterSeconds))
  else return ()

end RateLimiter

section Dependencies

variable {Token : Type} (app : App Token)

def rateLimitRouteByIp (request : HttpRequest) (routePath : String) : Action Unit :=
  let routeKey := request.method ++ ":" ++ routePath
  enforceRateLimit app.rateLimitSettings (ipPerRouteRule app.rateLimitSettings)
    (getClientIp app.settings request ++ ":" ++ routeKey)

def getRequestMeta (request : HttpRequest) : RequestMeta :=
  ⟨some (getClientIp app.settings request), request.header? "User-Agent"⟩

def getOrCreateDeviceId (request : HttpRequest) : Action UUID :=
  let fresh : Action UUID := do
    let id ← ask .uuid4
    return id.val
  match request.cookie? "device_id" with
  | none => fresh
  | some rawDeviceId =>
    if rawDeviceId = "" then fresh
    else match UUID.parse rawDeviceId with
      | some id => return id
      | none => fresh

/-- The f-string of a device; a missing brand or model is spelled `None`. -/
def Device.describe (device : Device) : String :=
  stripSpace
    (device.family ++ " " ++ device.brand.getD "None" ++ " " ++ device.model.getD "None")

def getDeviceInfo (deviceId : UUID) (requestMeta : RequestMeta) : Except Exn DeviceInfo :=
  let deviceName := requestMeta.userAgent.bind fun text =>
    if text = "" then none else some (app.parseUserAgent text).describe
  match deviceId.toUUID4 with
  | some id => .ok ⟨id, deviceName⟩
  | none => .error .validationError

end Dependencies

/-- A method and a path template. -/
abbrev RouteTable := List (String × String)

/-- `include_router`, under a path. -/
def RouteTable.includedAt (routes : RouteTable) (base : String) : RouteTable :=
  routes.map fun (method, path) => (method, base ++ path)

def routerAuth : RouteTable :=
  [("POST", "/token"), ("POST", "/refresh"), ("POST", "/logout"), ("POST", "/logout-others")]

def routerUser : RouteTable :=
  [("POST", ""), ("GET", "/me"), ("PATCH", "/me/email"), ("PATCH", "/me/password"),
    ("GET", "/me/login-history")]

def routerRole : RouteTable :=
  [("POST", ""), ("GET", ""), ("DELETE", "/\x7brole_id\x7d"), ("PATCH", "/\x7brole_id\x7d"),
    ("POST", "/assign"), ("POST", "/revoke")]

def routerYandexid : RouteTable := [("GET", "/login"), ("GET", "/token")]

/-- The schema and the documentation of the application. -/
def documentationRoutes : RouteTable :=
  [("GET", "/openapi.json"), ("HEAD", "/openapi.json"), ("GET", "/docs"), ("HEAD", "/docs"),
    ("GET", "/docs/oauth2-redirect"), ("HEAD", "/docs/oauth2-redirect"), ("GET", "/redoc"), ("HEAD", "/redoc")]

def mountedRoutes : RouteTable :=
  documentationRoutes ++ routerAuth ++ routerUser.includedAt "/users" ++ routerRole.includedAt "/roles" ++
    routerYandexid.includedAt "/yandexid"

/-- The characters of a token in HTTP. -/
def isTokenChar (c : Char) : Bool := c.isAlphanum || "!#$%&'*+-.^_`|~".toList.contains c

/-- The method of a request line. -/
def IsMethod (method : String) : Prop := method ≠ "" ∧ method.toList.all isTokenChar = true

instance (method : String) : Decidable (IsMethod method) :=
  inferInstanceAs (Decidable (method ≠ "" ∧ method.toList.all isTokenChar = true))

theorem IsMethod.plain {method : String} (named : IsMethod method) : ':' ∉ method.toList := by
  intro member
  have token := List.all_eq_true.mp named.2 ':' member
  revert token
  decide

/-- No mounted template has a colon. -/
theorem mountedRoutes_plain {route : String × String} (mounted : route ∈ mountedRoutes) :
    ':' ∉ route.2.toList := by
  have plain : ∀ route ∈ mountedRoutes, ':' ∉ route.2.toList := by decide
  exact plain route mounted

end AuthApi
