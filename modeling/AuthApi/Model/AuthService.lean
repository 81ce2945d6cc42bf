import AuthApi.Model.Tokens

/-! # Accounts and sessions

`AuthService`, `UserService` and the default role of `app/db/helpers.py`. A method is the program of
calls it makes; a `User` instance read from the database is a value, and a commit writes the columns
in which the changed instance differs from the loaded one.
-/

namespace AuthApi

open Interleaving Interleaving.Program

variable {Token : Type} (app : App Token)

structure UserLoginData where
  email : String
  password : String
deriving DecidableEq, Repr

structure UserCreateIn where
  email : String
  password : String
deriving DecidableEq, Repr

structure UserChangeEmailIn where
  email : String
  password : String
deriving DecidableEq, Repr

structure UserChangePasswordIn where
  oldPassword : String
  newPassword : String
deriving DecidableEq, Repr

structure LoginDataOut where
  ipAddress : String
  userAgent : Option String
  deviceId : Option String
  loggedInAt : Time
deriving DecidableEq, Repr

/-- The UPDATE of one changed instance; without a change there is no statement. -/
def userUpdate (loaded current : User) : List Write :=
  if UserPatch.diff loaded current = {} then []
  else [.updateUser loaded.id (UserPatch.diff loaded current)]

namespace DbHelpers

/-- `get_or_create_default_role`, in a session of its own; it returns the attributes of the role. -/
def getOrCreateDefaultRole : Action NewRole := do
  match ← ask (.selectRoleByTitle DEFAULT_ROLE_TITLE) with
  | some role => return ⟨role.id, role.title, role.accessLabels⟩
  | none => do
    let id ← ask .uuid4
    let role : NewRole := ⟨id, DEFAULT_ROLE_TITLE, DEFAULT_ROLE_ACCESS_LABELS⟩
    commit .defaultRole [.insertRole role]
    return role

/-- `create_superuser` and the command of that name. -/
def createSuperuser (email password : String) : Action Unit := do
  match ← ask (.selectUserByEmail email false) with
  | some _ => return ()
  | none => do
    let salt ← ask .salt
    let id ← ask .uuid4
    try
      commit .request [.insertUser
        { id, email, passwordHash := app.passwordHash.hash password salt
          roleId := none, isSuperuser := true }]
    catch error =>
      match error with
      | .dbError _ => rollback
      | other => throw other

end DbHelpers

open DbHelpers

/-- The block of `login_user` and `authorize` that records a login; its failure is only logged. -/
def saveLoginHistory (userId : UUID4) (requestMeta : RequestMeta) (deviceInfo : Option DeviceInfo) :
    Action Unit :=
  try
    let id ← ask .uuid4
    commit .request [.insertLoginHistory (buildLoginHistory id userId requestMeta deviceInfo)]
  catch _ => rollback

namespace AuthService

def blacklistKey (jti : String) : String := "blacklist:" ++ jti

def checkBlacklistedToken (jti : String) : Action Bool := do
  let entry ← redisGet (blacklistKey jti)
  return entry.isSome

def blacklistToken (jti : String) (ttl : ℤ) : Action Unit :=
  redisSetex (blacklistKey jti) ttl (.text "true")

def loginUser (loginData : UserLoginData) (requestMeta : RequestMeta)
    (deviceInfo : Option DeviceInfo) : Action (TokenData Token) := do
  match ← ask (.selectUserByEmail loginData.email true) with
  | none => throw (.wrongCredentialsError "Incorrect email or password")
  | some user =>
    if app.passwordHash.verify loginData.password user.passwordHash then do
      let tokens ← issueTokenPair app user
      saveLoginHistory user.id requestMeta deviceInfo
      return tokens
    else throw (.wrongCredentialsError "Incorrect email or password")

/-- The literal type of the payload makes the check of `payload.type` redundant. -/
def refreshTokens (refreshToken : Token) : Action (TokenData Token) := do
  let decodedAt ← ask .now
  match app.jwt.decode refreshToken decodedAt with
  | .error .expired => throw (.refreshTokenError "Token has expired")
  | .error .invalid => throw (.refreshTokenError "Invalid token")
  | .ok claims =>
    match RefreshTokenPayload.modelValidate claims with
    | none => throw (.refreshTokenError "Invalid token payload")
    | some payload => do
      let isBlacklisted ← checkBlacklistedToken payload.jti.val.str
      if isBlacklisted then throw (.refreshTokenError "Token is invalid")
      else
        match ← ask (.selectUserById payload.sub true) with
        | none => throw (.refreshTokenError "User not found")
        | some user =>
          if payload.tv = user.tokenVersion then do
            let now ← ask .now
            blacklistToken payload.jti.val.str (max 1 (payload.exp - Time.seconds now))
            issueTokenPair app user
          else throw (.refreshTokenError "Token version mismatch")

def logout (refreshToken : Token) : Action Unit := do
  let decodedAt ← ask .now
  match app.jwt.decode refreshToken decodedAt with
  | .error _ => throw (.refreshTokenError "Invalid token")
  | .ok claims =>
    match RefreshTokenPayload.modelValidate claims with
    | none => throw (.refreshTokenError "Invalid token payload")
    | some payload => do
      let now ← ask .now
      let ttl := payload.exp - Time.seconds now
      if ttl ≤ 0 then return ()
      else blacklistToken payload.jti.val.str ttl

/-- The instance from the session's identity map keeps its columns and gets the role loaded. -/
def logoutOthers (user : UserObject) : Action (TokenData Token) := do
  let bumped : UserObject := { user with tokenVersion := user.tokenVersion + 1 }
  commit .request (userUpdate user.toUser bumped.toUser)
  match ← ask (.selectUserById user.id true) with
  | none => throw (.wrongCredentialsError "User not found")
  | some found => issueTokenPair app { bumped with role := found.role }

end AuthService

namespace UserService

/-- A conflict on the email is the domain error, whichever statement notices it. -/
def createUser (userData : UserCreateIn) : Action UserObject := do
  match ← ask (.selectUserByEmail userData.email false) with
  | some _ => throw (.userAlreadyExistsError "User with this username or email already exists")
  | none => do
    let salt ← ask .salt
    let defaultRole ← getOrCreateDefaultRole
    let id ← ask .uuid4
    try
      commit .request [.insertUser
        { id, email := userData.email
          passwordHash := app.passwordHash.hash userData.password salt
          roleId := some defaultRole.id }]
    catch error =>
      match error with
      | .dbError .integrity => do
        rollback
        throw (.userAlreadyExistsError "User with this username or email already exists")
      | other => throw other
    match ← ask (.refreshUser id false) with
    | some user => return user
    | none => throw .invalidRequestError

def changeEmail (changeEmailData : UserChangeEmailIn) (user : UserObject) : Action Unit :=
  if app.passwordHash.verify changeEmailData.password user.passwordHash then
    try
      commit .request (userUpdate user.toUser { user.toUser with email := changeEmailData.email })
    catch error =>
      match error with
      | .dbError .integrity => do
        rollback
        throw (.emailAlreadyExistsError "User with this email already exists")
      | other => throw other
  else throw (.wrongPasswordError "Wrong password")

def changePassword (changePasswordData : UserChangePasswordIn) (user : UserObject) :
    Action Unit :=
  if app.passwordHash.verify changePasswordData.oldPassword user.passwordHash then do
    let salt ← ask .salt
    commit .request (userUpdate user.toUser
      { user.toUser with
        passwordHash := app.passwordHash.hash changePasswordData.newPassword salt
        tokenVersion := user.tokenVersion + 1 })
  else throw (.wrongPasswordError "Wrong current password")

def getLoginHistory (userId : UUID4) (page pageSize : ℕ) : Action (List LoginDataOut) := do
  -- An OFFSET is a bigint.
  accept ((page - 1) * pageSize < 2 ^ 63)
  let loginHistory ← ask (.selectLoginHistory userId ((page - 1) * pageSize) pageSize)
  return loginHistory.map fun entry =>
    ⟨entry.ipAddress, entry.userAgent, entry.deviceId, entry.loggedInAt⟩

def getUserInfo (user : UserObject) : Action UserObject := do
  match ← ask (.selectUserById user.id true) with
  | none => throw (.userNotFoundError (some "User not found"))
  | some found => return { user with role := found.role }

end UserService

end AuthApi
