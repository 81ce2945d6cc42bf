import AuthApi.Encoding.Base64
import AuthApi.Model.Uuid
import AuthApi.Model.Schema

/-! # Configuration and third-party code

`App` bundles the settings of `app/core/config.py` with the third-party code the service calls:
PyJWT's signature check, the password hasher, Pydantic's text parsers and the user-agent parser.
The laws carried as fields are the documented ones.
-/

namespace AuthApi

open Encoding

structure JWTSettings where
  accessTokenExpireMinutes : ℤ := 30
  refreshTokenExpireDays : ℤ := 30
deriving DecidableEq, Repr

structure YandexIdSettings where
  authUrl : String := "https://oauth.yandex.ru/authorize"
  tokenUrl : String := "https://oauth.yandex.ru/token"
  userInfoUrl : String := "https://login.yandex.ru/info"
  redirectUrl : String := "http://localhost:8000/yandexid/token"
  clientId : String
  clientSecret : String
  confirmationCodeTtl : ℤ := 600
deriving DecidableEq, Repr

/-- `YandexIdSettings.auth_header`. -/
def YandexIdSettings.authHeader (settings : YandexIdSettings) : String :=
  let encodedClientData := String.ofList <| Base64Alphabet.standard.encode
    (settings.clientId ++ ":" ++ settings.clientSecret).toUTF8.data.toList
  "Basic " ++ encodedClientData

structure RateLimitSettings where
  enabled : Bool := true
  redisPrefix : String := "rate_limit"
  failOpen : Bool := false
  ipLimit : ℤ := 5
  ipWindowSeconds : ℤ := 60
deriving DecidableEq, Repr

structure AppSettings where
  prod : Bool := false
  superuserEmail : String := "admin@example.com"
  superuserPassword : String := "password"
  requestIdHeader : String := "x-request-id"
  trustProxyHeaders : Bool := false
  trustedProxyIps : String := ""
deriving DecidableEq, Repr

/-- The payload of a token this service signs, as `jwt.decode` returns it. -/
structure Claims where
  type : String
  sub : UUID4
  iat : ℤ
  exp : ℤ
  jti : UUID4
  tv : ℕ
  isSuperuser : Option Bool := none
  role : Option String := none
  accessLabels : Option (List AccessLabel) := none
deriving DecidableEq, Repr

/-- Signing and signature checking with the key pair of the service. -/
structure PyJwt (Token : Type) where
  encode : Claims → Token
  verify : Token → Option Claims
  verify_encode : ∀ claims, verify (encode claims) = some claims

structure PasswordHash where
  hash : String → String → String
  verify : String → String → Bool

/-- How Pydantic reads texts of special types; `none` is a validation error. -/
structure Pydantic where
  emailStr : String → Option String
  httpUrl : String → Option String
  uuid : String → Option UUID
  int : String → Option ℤ

/-- `user_agents.parse(text).device`; brand and model may be `None`. -/
structure Device where
  family : String
  brand : Option String
  model : Option String

/-- `fitsIndex` tells the texts that fit a row of a unique index: PostgreSQL compresses them first, and
refuses what is then longer than a third of a page. -/
structure App (Token : Type) where
  settings : AppSettings
  jwtSettings : JWTSettings
  yandexidSettings : YandexIdSettings
  rateLimitSettings : RateLimitSettings
  jwt : PyJwt Token
  passwordHash : PasswordHash
  pydantic : Pydantic
  parseUserAgent : String → Device
  fitsIndex : String → Bool

/-- PostgreSQL holds every character in a text but U+0000. -/
def storesText (text : String) : Bool := text.toList.all (· ≠ '\x00')

/-- A text of a unique column has to fit its index. -/
def App.storesKey {Token : Type} (app : App Token) (text : String) : Bool := storesText text && app.fitsIndex text

end AuthApi
