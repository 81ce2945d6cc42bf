import AuthApi.Model.Exceptions
import AuthApi.Model.Settings

/-! # Token pairs

`app/services/helpers.py` and the payload schemas of `app/schemas/auth.py`. A token carries the
version read together with the user; whether it is accepted later is decided against the stored one.
-/

namespace AuthApi

open Interleaving Interleaving.Program

structure AccessTokenPayload where
  sub : UUID4
  iat : ℤ
  exp : ℤ
  jti : UUID4
  tv : ℕ
  isSuperuser : Bool
  role : Option String
  accessLabels : List AccessLabel
deriving DecidableEq, Repr

structure RefreshTokenPayload where
  sub : UUID4
  iat : ℤ
  exp : ℤ
  jti : UUID4
  tv : ℕ
deriving DecidableEq, Repr

def AccessTokenPayload.modelDump (payload : AccessTokenPayload) : Claims where
  type := "access"
  sub := payload.sub
  iat := payload.iat
  exp := payload.exp
  jti := payload.jti
  tv := payload.tv
  isSuperuser := some payload.isSuperuser
  role := payload.role
  accessLabels := some payload.accessLabels

def RefreshTokenPayload.modelDump (payload : RefreshTokenPayload) : Claims where
  type := "refresh"
  sub := payload.sub
  iat := payload.iat
  exp := payload.exp
  jti := payload.jti
  tv := payload.tv

/-- The type is a literal; the flag and the labels are required, the role defaults to `None`. -/
def AccessTokenPayload.modelValidate (claims : Claims) : Option AccessTokenPayload := do
  guard (claims.type = "access")
  let isSuperuser ← claims.isSuperuser
  let accessLabels ← claims.accessLabels
  return { sub := claims.sub, iat := claims.iat, exp := claims.exp, jti := claims.jti
           tv := claims.tv, isSuperuser, role := claims.role, accessLabels }

def RefreshTokenPayload.modelValidate (claims : Claims) : Option RefreshTokenPayload := do
  guard (claims.type = "refresh")
  return { sub := claims.sub, iat := claims.iat, exp := claims.exp, jti := claims.jti
           tv := claims.tv }

@[simp] theorem AccessTokenPayload.modelValidate_modelDump (payload : AccessTokenPayload) :
    modelValidate payload.modelDump = some payload := by
  simp [modelValidate, modelDump]

@[simp] theorem RefreshTokenPayload.modelValidate_modelDump (payload : RefreshTokenPayload) :
    modelValidate payload.modelDump = some payload := by
  simp [modelValidate, modelDump]

/-- No token is both an access and a refresh token. -/
@[simp] theorem RefreshTokenPayload.modelValidate_access (payload : AccessTokenPayload) :
    modelValidate payload.modelDump = none := by
  simp [modelValidate, AccessTokenPayload.modelDump]

@[simp] theorem AccessTokenPayload.modelValidate_refresh (payload : RefreshTokenPayload) :
    modelValidate payload.modelDump = none := by
  simp [modelValidate, RefreshTokenPayload.modelDump]

theorem AccessTokenPayload.modelValidate_eq_some {claims : Claims} {payload : AccessTokenPayload}
    (valid : modelValidate claims = some payload) :
    payload.sub = claims.sub ∧ payload.iat = claims.iat ∧ payload.exp = claims.exp ∧
      payload.tv = claims.tv := by
  simp only [modelValidate, Option.bind_eq_bind, Option.bind_eq_some_iff] at valid
  obtain ⟨_, _, _, _, _, _, made⟩ := valid
  cases made
  exact ⟨rfl, rfl, rfl, rfl⟩

theorem RefreshTokenPayload.modelValidate_eq_some {claims : Claims} {payload : RefreshTokenPayload}
    (valid : modelValidate claims = some payload) :
    payload = ⟨claims.sub, claims.iat, claims.exp, claims.jti, claims.tv⟩ := by
  unfold modelValidate at valid
  by_cases type : claims.type = "refresh" <;> simp [type] at valid
  exact valid.symm

/-- `jwt.ExpiredSignatureError` and the other `jwt.InvalidTokenError`s. -/
inductive JwtError where
  | expired
  | invalid
deriving DecidableEq, Repr

/-- `jwt.decode` at a time: the signature, then `iat`, then `exp`. -/
def PyJwt.decode {Token : Type} (jwt : PyJwt Token) (token : Token) (now : Time) :
    Except JwtError Claims :=
  match jwt.verify token with
  | none => .error .invalid
  | some claims =>
      if (now : ℤ) < claims.iat * 1000000 then .error .invalid
      else if claims.exp * 1000000 ≤ (now : ℤ) then .error .expired
      else .ok claims

theorem PyJwt.decode_eq_ok {Token : Type} {jwt : PyJwt Token} {token : Token} {now : Time}
    {claims : Claims} : jwt.decode token now = .ok claims ↔
      jwt.verify token = some claims ∧ claims.iat * 1000000 ≤ (now : ℤ) ∧
        (now : ℤ) < claims.exp * 1000000 := by
  unfold decode
  split
  · simp_all
  · next found verified =>
    rw [verified]
    constructor
    · intro decoded
      split at decoded
      · cases decoded
      · split at decoded
        · cases decoded
        · cases decoded
          exact ⟨rfl, by omega, by omega⟩
    · rintro ⟨same, early, late⟩
      cases same
      rw [if_neg (by omega), if_neg (by omega)]

structure TokenData (Token : Type) where
  access : Token
  refresh : Token
deriving DecidableEq, Repr

section Helpers

variable {Token : Type} (app : App Token)

/-- `_resolve_role_claims`. -/
def resolveRoleClaims (user : UserObject) : Except Exn (Option String × List AccessLabel) :=
  match user.role with
  | .noValue =>
      .error (.valueError "User role must be eagerly loaded before creating an access token")
  | .loaded none =>
      if user.isSuperuser then .ok (none, [])
      else .error
        (.valueError "Non-superuser users must have a role before creating an access token")
  | .loaded (some role) => .ok (some role.title, role.accessLabels)

def createAccessToken (user : UserObject) : Action Token := do
  let now ← ask .now
  match resolveRoleClaims user with
  | .error error => throw error
  | .ok (roleTitle, accessLabels) => do
    let jti ← ask .uuid4
    let payload : AccessTokenPayload :=
      { sub := user.id
        iat := Time.seconds now
        exp := Time.seconds now + app.jwtSettings.accessTokenExpireMinutes * 60
        jti := jti
        tv := user.tokenVersion
        isSuperuser := user.isSuperuser
        role := roleTitle
        accessLabels := accessLabels }
    return app.jwt.encode payload.modelDump

def createRefreshToken (user : UserObject) : Action Token := do
  let now ← ask .now
  let jti ← ask .uuid4
  let payload : RefreshTokenPayload :=
    { sub := user.id
      iat := Time.seconds now
      exp := Time.seconds now + app.jwtSettings.refreshTokenExpireDays * 86400
      jti := jti
      tv := user.tokenVersion }
  return app.jwt.encode payload.modelDump

def issueTokenPair (user : UserObject) : Action (TokenData Token) := do
  let access ← createAccessToken app user
  let refresh ← createRefreshToken app user
  return { access, refresh }

structure RequestMeta where
  ipAddress : Option String
  userAgent : Option String
deriving DecidableEq, Repr

structure DeviceInfo where
  deviceId : UUID4
  deviceName : Option String
deriving DecidableEq, Repr

/-- Python's `value or default` for an optional text. -/
def orElse (value : Option String) (default : String) : String :=
  match value with
  | some text => if text = "" then default else text
  | none => default

/-- `build_login_history`; the id is drawn when the row is flushed. -/
def buildLoginHistory (id userId : UUID4) (requestMeta : RequestMeta)
    (deviceInfo : Option DeviceInfo) : NewLoginHistory where
  id := id
  userId := userId
  ipAddress := orElse requestMeta.ipAddress "unknown"
  userAgent := requestMeta.userAgent.bind fun text =>
    if text = "" then none else some (String.ofList (text.toList.take 500))
  deviceId := deviceInfo.map fun device => device.deviceId.val.str

end Helpers

end AuthApi
