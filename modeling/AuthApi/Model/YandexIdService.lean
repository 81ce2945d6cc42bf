import AuthApi.Encoding.Sha256
import AuthApi.Encoding.JsonText
import AuthApi.Model.RoleService

/-! # Login through Yandex ID

`YandexIdService` and the schemas of `app/schemas/yandexid.py`. The state is issued together with a
PKCE verifier that stays in Redis; the callback consumes it with one `GETDEL` before the provider is
asked for anything. What is stored under a key is a text, and that of a pending login is the JSON object that
`build_login_redirect` dumps and `_consume_cached_state` validates.
-/

namespace AuthApi

open Interleaving Interleaving.Program Encoding DbHelpers

namespace Json

/-- The value of a key of an object. -/
def field? (fields : List (String × Json)) (name : String) : Option Json :=
  (fields.find? fun field => field.1 = name).map Prod.snd

def str? : Json → Option String
  | .str value => some value
  | _ => none

/-- The integer Pydantic makes of a boolean or of a float without fractional part. -/
def coercedInt? : Json → Option ℤ
  | .bool value => some (if value then 1 else 0)
  | .float value => if value.den = 1 ∧ -2 ^ 63 < value.num ∧ value.num < 2 ^ 63 then some value.num
      else none
  | _ => none

/-- A field of type `int`. -/
def int? (pydantic : Pydantic) : Json → Option ℤ
  | .int value => some value
  | .str value => pydantic.int value
  | other => other.coercedInt?

/-- A field of type `int | str`, as `str(value)`: a text stays the text it is. -/
def intOrStr? : Json → Option String
  | .int value => some (toString value)
  | .str value => some value
  | other => other.coercedInt?.map toString

/-- An optional field of type `str | None`. -/
def optionalStr? (fields : List (String × Json)) (name : String) : Option (Option String) :=
  match field? fields name with
  | none => some none
  | some .null => some none
  | some (.str value) => some (some value)
  | some _ => none

end Json

structure YandexIdTokenData where
  tokenType : String
  accessToken : String
  expiresIn : ℤ
  refreshToken : String
  scope : Option String
deriving DecidableEq, Repr

structure YandexIdUserData where
  login : String
  id : String
  clientId : String
  psuid : String
  defaultEmail : String
  firstName : String
  lastName : String
  displayName : String
  realName : String
  sex : String
deriving DecidableEq, Repr

section Validation

variable (pydantic : Pydantic) (fields : List (String × Json))

def YandexIdTokenData.modelValidate : Option YandexIdTokenData := do
  let text name := (Json.field? fields name).bind Json.str?
  let tokenType ← text "token_type"
  let accessToken ← text "access_token"
  let expiresIn ← (Json.field? fields "expires_in").bind (Json.int? pydantic)
  let refreshToken ← text "refresh_token"
  let scope ← Json.optionalStr? fields "scope"
  return { tokenType, accessToken, expiresIn, refreshToken, scope }

/-- `id` holds `str(yandex_user_data.id)`, the only use of it. -/
def YandexIdUserData.modelValidate : Option YandexIdUserData := do
  let text name := (Json.field? fields name).bind Json.str?
  let login ← text "login"
  let id ← (Json.field? fields "id").bind Json.intOrStr?
  let clientId ← text "client_id"
  let psuid ← text "psuid"
  let defaultEmail ← (text "default_email").bind pydantic.emailStr
  let firstName ← text "first_name"
  let lastName ← text "last_name"
  let displayName ← text "display_name"
  let realName ← text "real_name"
  let sex ← text "sex"
  return { login, id, clientId, psuid, defaultEmail, firstName, lastName, displayName, realName, sex }

end Validation

namespace YandexIdService

variable {Token : Type} (app : App Token)

/-- `OAuthProvider.YANDEX`. -/
def YANDEX : String := "yandex"

def stateCacheKey (state : UUID) : String := "oauth:" ++ YANDEX ++ ":state:" ++ state.str

def generateCodeVerifier : Action String := ask (.tokenUrlsafe 64)

def generateCodeChallenge (codeVerifier : String) : String :=
  let digest := sha256 codeVerifier.toUTF8.data.toList
  String.ofList ((Base64Alphabet.urlSafe.encode digest).reverse.dropWhile (· == '=')).reverse

/-- `_build_login_params` dumped without its `None` fields; the schema has no `code_verifier`. -/
def buildLoginParams (state : UUID) (codeVerifier : String) :
    Except Exn (List (String × String)) :=
  match app.pydantic.httpUrl app.yandexidSettings.redirectUrl, state.toUUID4 with
  | some redirectUri, some _ => .ok <|
      [("response_type", "code"), ("client_id", app.yandexidSettings.clientId),
        ("redirect_uri", redirectUri), ("state", state.str)] ++
      (if codeVerifier = "" then [] else
        [("code_challenge", generateCodeChallenge codeVerifier), ("code_challenge_method", "S256")]) ++
      [("force_confirm", "yes")]
  | _, _ => .error .validationError

def buildLoginRedirect (state : UUID) : Action String := do
  let codeVerifier ← generateCodeVerifier
  match buildLoginParams app state codeVerifier with
  | .error error => throw error
  | .ok loginParams => do
    try
      redisSetex (stateCacheKey state) app.yandexidSettings.confirmationCodeTtl
        (.codeVerifier codeVerifier)
    catch error =>
      match error with
      | .redisError _ =>
        throw (.yandexIdProviderError "Failed to initialize Yandex authorization state")
      | other => throw other
    return app.yandexidSettings.authUrl ++ "?" ++ urlencode loginParams

/-- `_consume_cached_state`: the code verifier, which is gone from Redis afterwards. -/
def consumeCachedState (state : UUID) : Action String := do
  let payload ←
    try redisGetdel (stateCacheKey state)
    catch error =>
      match error with
      | .redisError _ =>
        throw (.yandexIdProviderError "Failed to validate Yandex authorization state")
      | other => throw other
  match payload with
  | none => throw (.yandexIdStateError "Yandex authorization state is invalid or expired")
  | some (.codeVerifier codeVerifier) => return codeVerifier
  | some _ => throw (.yandexIdStateError "Yandex authorization state payload is invalid")

/-- `_safe_json`: undecodable text and values that are no object become an empty object. -/
def safeJson : Except JsonError Json → Except Exn (List (String × Json))
  | .ok (.obj fields) => .ok fields
  | .ok _ => .ok []
  | .error .decode => .ok []
  | .error error => .error (.jsonError error)

/-- `response.is_error`. -/
def isError (status : ℕ) : Bool := 400 ≤ status && status ≤ 599

def exchangeCode (code codeVerifier : String) (deviceInfo : DeviceInfo) :
    Action YandexIdTokenData := do
  let payload : YandexIdTokenRequestData :=
    { code, codeVerifier, deviceId := deviceInfo.deviceId, deviceName := deviceInfo.deviceName }
  match ← ask (.httpPost app.yandexidSettings.tokenUrl payload app.yandexidSettings.authHeader) with
  | .requestError => throw (.yandexIdTokenError "Error during Yandex token exchange request")
  | .response status json =>
    match safeJson json with
    | .error error => throw error
    | .ok responseData =>
      if isError status then throw (.yandexIdTokenError "Yandex token exchange failed")
      else match YandexIdTokenData.modelValidate app.pydantic responseData with
        | none => throw (.yandexIdProviderError "Yandex token response payload is invalid")
        | some tokenData => return tokenData

/-- The header is encoded as ASCII before the request is sent. -/
def fetchUserInfo (accessToken : String) : Action YandexIdUserData := do
  if accessToken.toList.all fun c => c.toNat < 128 then
    match ← ask (.httpGet app.yandexidSettings.userInfoUrl [("format", "json")]
        ("OAuth " ++ accessToken)) with
    | .requestError => throw (.yandexIdUserInfoError "Error during Yandex user info request")
    | .response status json =>
      match safeJson json with
      | .error error => throw error
      | .ok responseData =>
        if isError status then
          throw (.yandexIdUserInfoError "Yandex user info request returned an error")
        else match YandexIdUserData.modelValidate app.pydantic responseData with
          | none => throw (.yandexIdUserInfoError "Yandex user info response payload is invalid")
          | some userData => return userData
  else throw .unicodeEncodeError

/-- `flushed` holds the statements already sent in the open transaction; a refresh repeats the
loader options the instance was read with. -/
def attachOauthAccount (flushed : List Write) (user : UserObject)
    (provider providerUserId : String) : Action UserObject := do
  let id ← ask .uuid4
  accept (app.fitsIndex providerUserId)
  try
    commit .request (flushed ++ [.insertOAuthAccount ⟨id, provider, providerUserId, user.id⟩])
  catch error =>
    match error with
    | .dbError .integrity => do
      rollback
      throw (.yandexIdAccountConflictError "Yandex account link conflict")
    | other => throw other
  match ← ask (.refreshUser user.id (user.role != .noValue)) with
  | some refreshed => return refreshed
  | none => throw .invalidRequestError

/-- The instance after a flush: the column defaults that later code reads are set. -/
def newUserObject (user : NewUser) : UserObject :=
  { user.row ⟨0, 0, 0, 0, 0⟩ with role := .noValue }

/-- `none` stands for the `None` that `get_user_by_id` returns when the row is gone. -/
def resolveUser (yandexUserData : YandexIdUserData) : Action (Option UserObject) := do
  let providerUserId := yandexUserData.id
  let linkedUser ← ask (.selectLinkedUser YANDEX providerUserId)
  -- A text that no column holds fails the statement, which is then not answered.
  accept (storesText providerUserId)
  match linkedUser with
  | some linkedUser => return some linkedUser
  | none =>
    match ← ask (.selectUserByEmail yandexUserData.defaultEmail true) with
    | some existingUser => do
      let linked ← attachOauthAccount app [] existingUser YANDEX providerUserId
      return some linked
    | none => do
      let defaultRole ← getOrCreateDefaultRole
      let password ← ask .uuid4
      let salt ← ask .salt
      let id ← ask .uuid4
      let newUser : NewUser :=
        { id, email := yandexUserData.defaultEmail
          passwordHash := app.passwordHash.hash password.val.str salt
          firstName := yandexUserData.firstName
          lastName := yandexUserData.lastName
          roleId := some defaultRole.id }
      accept (storesText newUser.firstName && storesText newUser.lastName)
      flush [.insertUser newUser]
      let createdUser ← attachOauthAccount app [.insertUser newUser] (newUserObject newUser) YANDEX
        providerUserId
      match ← ask (.selectUserById createdUser.id true) with
      | some found => return some { createdUser with role := found.role }
      | none => return none

def authorize (code : String) (state : UUID) (requestMeta : RequestMeta)
    (deviceInfo : DeviceInfo) : Action (TokenData Token) := do
  let codeVerifier ← consumeCachedState state
  let tokenData ← exchangeCode app code codeVerifier deviceInfo
  let userData ← fetchUserInfo app tokenData.accessToken
  match ← resolveUser app userData with
  | none => do
    let _ ← ask .now
    throw .noInspectionAvailable
  | some user => do
    let tokens ← issueTokenPair app user
    saveLoginHistory user.id requestMeta (some deviceInfo)
    return tokens

end YandexIdService

/-- The text that is stored for a value. -/
def RedisValue.payload : RedisValue → List Char
  | .text content => content.toList
  | .codeVerifier verifier => dumps true (.obj [("code_verifier", .str verifier)])
  | .counter value => dumpInt value

/-- `YandexIdCodeVerifier.model_validate_json`; `none` is a `ValidationError`. The last of several fields of the name
counts, and others are ignored. -/
def YandexIdCodeVerifier.modelValidateJson (payload : List Char) : Option String :=
  match loads payload with
  | some (.obj fields) =>
    match (fields.reverse.find? fun field => field.1 = "code_verifier").map Prod.snd with
    | some (.str codeVerifier) => some codeVerifier
    | _ => none
  | _ => none

namespace YandexIdService

/-- `_consume_cached_state` once `GETDEL` has returned a text. -/
def readCachedState : Option (List Char) → Except Exn String
  | none => .error (.yandexIdStateError "Yandex authorization state is invalid or expired")
  | some payload =>
    match YandexIdCodeVerifier.modelValidateJson payload with
    | some codeVerifier => .ok codeVerifier
    | none => .error (.yandexIdStateError "Yandex authorization state payload is invalid")

/-- The same for what the entry stands for. -/
def readCachedValue : Option RedisValue → Except Exn String
  | none => .error (.yandexIdStateError "Yandex authorization state is invalid or expired")
  | some (.codeVerifier codeVerifier) => .ok codeVerifier
  | some _ => .error (.yandexIdStateError "Yandex authorization state payload is invalid")

end YandexIdService

end AuthApi
