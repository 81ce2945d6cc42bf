import AuthApi.Model.Routes

/-! # Requests and runs of the service

A `Request` is one call of the service with all its arguments, a gate included where the API puts
one. A run is a pool of requests over one world: `started` is its first configuration, and every
interleaving at the granularity of database, Redis and provider calls is a path from it. Before the first one
`run_app.sh` has created the schema, in one of two ways, and run two commands.
-/

namespace AuthApi

open Interleaving Interleaving.Program

/-- What a finished request returns. -/
inductive Outcome (Token : Type) where
  | unit
  | tokens (pair : TokenData Token)
  | user (user : UserObject)
  | loginHistory (entries : List LoginDataOut)
  | role (role : RoleCreateOut)
  | roles (roles : List RoleCreateOut)
  | response (response : HttpResponse Token)
deriving DecidableEq, Repr

/-- The operations of the role endpoints. -/
inductive RoleOperation where
  | createRole (data : RoleCreateIn)
  | getAllRoles
  | removeRole (roleId : UUID4)
  | modifyRole (roleId : UUID4) (data : RoleCreateIn)
  | assignRole (userId roleId : UUID4)
  | revokeRole (userId : UUID4)
deriving DecidableEq, Repr

/-- The operations behind `get_token_user`. -/
inductive UserOperation where
  | checkAccess
  | getUserInfo
  | changeEmail (data : UserChangeEmailIn)
  | changePassword (data : UserChangePasswordIn)
  | getLoginHistory (page pageSize : ℕ)
  | logoutOthers
deriving DecidableEq, Repr

/-- `role` operations are the bare service calls; `roleEndpoint` puts the gate before them. -/
inductive Request (Token : Type) where
  | loginUser (data : UserLoginData) (requestMeta : RequestMeta) (deviceInfo : Option DeviceInfo)
  | refreshTokens (refreshToken : Token)
  | logout (refreshToken : Token)
  | createUser (data : UserCreateIn)
  | createSuperuser (email password : String)
  | getOrCreateDefaultRole
  | userEndpoint (accessToken : Token) (operation : UserOperation)
  | role (operation : RoleOperation)
  | roleEndpoint (accessToken : Token) (operation : RoleOperation)
  | authorize (code : String) (state : UUID) (requestMeta : RequestMeta) (deviceInfo : DeviceInfo)
  | oauthLogin (request : HttpRequest)
  | confirmLoginYandex (request : HttpRequest)
deriving DecidableEq, Repr

variable {Token : Type} (app : App Token)

def RoleOperation.program : RoleOperation → Action (Outcome Token)
  | .createRole data => do return .role (← RoleService.createRole app data)
  | .getAllRoles => do return .roles (← RoleService.getAllRoles)
  | .removeRole roleId => do RoleService.removeRole roleId; return .unit
  | .modifyRole roleId data => do RoleService.modifyRole app roleId data; return .unit
  | .assignRole userId roleId => do RoleService.assignRole userId roleId; return .unit
  | .revokeRole userId => do RoleService.revokeRole userId; return .unit

def UserOperation.program (user : UserObject) : UserOperation → Action (Outcome Token)
  | .checkAccess => return .user user
  | .getUserInfo => do return .user (← UserService.getUserInfo user)
  | .changeEmail data => do UserService.changeEmail app data user; return .unit
  | .changePassword data => do UserService.changePassword app data user; return .unit
  | .getLoginHistory page pageSize => do
      return .loginHistory (← UserService.getLoginHistory user.id page pageSize)
  | .logoutOthers => do return .tokens (← AuthService.logoutOthers app user)

def Request.program : Request Token → Action (Outcome Token)
  | .loginUser data requestMeta deviceInfo => withSession do
      return .tokens (← AuthService.loginUser app data requestMeta deviceInfo)
  | .refreshTokens refreshToken => withSession do
      return .tokens (← AuthService.refreshTokens app refreshToken)
  | .logout refreshToken => withSession do AuthService.logout app refreshToken; return .unit
  | .createUser data => withSession do return .user (← UserService.createUser app data)
  | .createSuperuser email password => withSession do
      DbHelpers.createSuperuser app email password
      return .unit
  | .getOrCreateDefaultRole => do
      let role ← DbHelpers.getOrCreateDefaultRole
      return .role ⟨role.id, role.title, role.accessLabels⟩
  | .userEndpoint accessToken operation => withSession do
      let user ← Dependencies.getTokenUser app accessToken
      operation.program app user
  | .role operation => withSession (operation.program app)
  | .roleEndpoint accessToken operation => do
      Dependencies.ensureSuperuser app accessToken
      withSession (operation.program app)
  | .authorize code state requestMeta deviceInfo => withSession do
      return .tokens (← YandexIdService.authorize app code state requestMeta deviceInfo)
  | .oauthLogin request => do return .response (← AuthApi.oauthLogin app request)
  | .confirmLoginYandex request => do return .response (← AuthApi.confirmLoginYandex app request)

/-- The answers the world can give, for every choice of its environment. -/
abbrev answers : Semantics Tid Reply World := semanticsOf World.answer

/-- One request for each number, none of which has started. -/
def started (world : World) (requests : Tid → Request Token) :
    Config Tid Reply World Exn (Outcome Token) :=
  .start world fun tid => (requests tid).program app

abbrev ServiceConfig (Token : Type) := Config Tid Reply World Exn (Outcome Token)

abbrev ServiceEvent := Event Tid Reply World

/-- The pair of a request that has returned one. -/
def returnedPair? : Action (Outcome Token) → Option (TokenData Token)
  | .done (.tokens pair) => some pair
  | _ => none

theorem returnedPair?_eq_some {program : Action (Outcome Token)} {pair : TokenData Token} :
    returnedPair? program = some pair ↔ program = .done (.tokens pair) := by
  unfold returnedPair?
  split <;> simp_all

/-- `create_all_tables` on an empty database: `login_history` is partitioned and has no partition. -/
def createAllTables : Database := .empty []

/-- Revision `717fefd51c65`, which creates the same tables. -/
def initialRevision : Database := .empty []

/-- `partman.create_parent` adds the premade ranges and the default partition. -/
def createParent (ranges : List Partition) (db : Database) : Database :=
  { db with
    partitions := db.partitions ++ .default :: ranges
    consistent := { db.consistent with
      historyPartitions := fun entry member => by
        obtain ⟨part, present, covers⟩ := db.consistent.historyPartitions entry member
        exact ⟨part, List.mem_append_left _ present, covers⟩ } }

/-- How a schema was created; the ranges are those `pg_partman` chose. -/
inductive SchemaSetup where
  | setupForDevelopment
  | alembicUpgrade (ranges : List Partition)
deriving DecidableEq, Repr

/-- The tables after the setup. -/
def SchemaSetup.database : SchemaSetup → Database
  | .setupForDevelopment => createAllTables
  | .alembicUpgrade ranges => createParent ranges initialRevision

namespace Commands

/-- The command `create_default_role`. -/
def createDefaultRole : Action Unit := do
  match ← ask (.selectRoleByTitle DEFAULT_ROLE_TITLE) with
  | some _ => return ()
  | none => do
    let id ← ask .uuid4
    try commit .request [.insertRole ⟨id, DEFAULT_ROLE_TITLE, DEFAULT_ROLE_ACCESS_LABELS⟩]
    catch error =>
      match error with
      | .dbError _ => rollback
      | other => throw other

/-- What `run_app.sh` runs before the workers; `create_superuser` is the helper of that name in a
session of the command. -/
def startUp {Token : Type} (app : App Token) (email password : String) : Action Unit := do
  withSession createDefaultRole
  withSession (DbHelpers.createSuperuser app email password)

end Commands

/-- An instance for concrete runs: tokens are their own claims, a password is its own hash, and every text is
accepted as an email address or a URL. -/
def transparentApp : App Claims where
  settings := {}
  jwtSettings := {}
  yandexidSettings := { clientId := "client", clientSecret := "secret" }
  rateLimitSettings := {}
  jwt := ⟨id, some, fun _ => rfl⟩
  passwordHash := ⟨fun password _ => password, fun password hash => password = hash⟩
  pydantic := ⟨some, some, UUID.parse, fun _ => none⟩
  parseUserAgent := fun _ => ⟨"Other", none, none⟩
  fitsIndex := fun text => text.toList.length ≤ 2600

/-- The version 4 UUID with the given low digits. -/
def numbered (n : ℕ) : UUID4 :=
  ((⟨BitVec.ofNat 128 (0x40008000000000000000 + n)⟩ : UUID).toUUID4).getD
    ⟨⟨0x40008000000000000000⟩, by decide⟩

def defaultRoleRow : Role := ⟨numbered 1, DEFAULT_ROLE_TITLE, DEFAULT_ROLE_ACCESS_LABELS, 0, 0⟩

def adminRow : User where
  id := numbered 2
  email := "admin@example.com"
  passwordHash := "password"
  tokenVersion := 1
  firstName := ""
  lastName := ""
  roleId := none
  isSuperuser := true
  createdAt := 0
  updatedAt := 0

/-- An access token of that superuser with the given version. -/
def adminAccess (version : ℕ) : Claims :=
  AccessTokenPayload.modelDump
    { sub := numbered 2, iat := 1700000000, exp := 1700001800, jti := numbered 3, tv := version
      isSuperuser := true, role := none, accessLabels := [] }

/-- A refresh token of that superuser. -/
def adminRefresh : Claims :=
  RefreshTokenPayload.modelDump
    { sub := numbered 2, iat := 1700000000, exp := 1702592000, jti := numbered 3, tv := 1 }

/-- The tables after the start-up commands. -/
def bootstrappedDb : Database where
  users := [adminRow]
  roles := [defaultRoleRow]
  oauthAccounts := []
  loginHistory := []
  partitions := [.default]
  consistent := by decide

def bootstrappedWorld : World where
  clock := 1700000000000000
  db := bootstrappedDb
  flushed := []
  redis := []
  defaults := fun _ => ⟨0, 0, 0, 0, 0⟩

/-- The same world with two login states waiting for their callbacks. -/
def pendingLogins : World :=
  { bootstrappedWorld with
    redis := [(YandexIdService.stateCacheKey (numbered 11).val, ⟨.codeVerifier "first", none⟩),
      (YandexIdService.stateCacheKey (numbered 12).val, ⟨.codeVerifier "second", none⟩)] }

/-- The provider's answer to a successful code exchange. -/
def tokenReply : ProviderReply :=
  .response 200 (.ok (.obj [("token_type", .str "bearer"), ("access_token", .str "token"),
    ("expires_in", .int 3600), ("refresh_token", .str "refresh")]))

/-- A profile with the given id and email. -/
def profileReply (id email : String) : ProviderReply :=
  .response 200 (.ok (.obj [("login", .str "login"), ("id", .str id), ("client_id", .str "client"),
    ("psuid", .str "psuid"), ("default_email", .str email), ("first_name", .str "Ann"),
    ("last_name", .str "Lee"), ("display_name", .str "Ann"), ("real_name", .str "Ann Lee"),
    ("sex", .str "female")]))

/-- The listed requests; the remaining numbers stand for requests that are never made. -/
def pool {Token : Type} (requests : List (Request Token)) (tid : Tid) : Request Token :=
  requests.getD tid .getOrCreateDefaultRole

/-- One call of a request, without passing time; draws give the UUID numbered `n`. -/
def move (tid : Tid) (n : ℕ := 0) : Tid × Choice := (tid, { uuid := numbered n })

/-- One request to the provider, with its answer. -/
def fetch (tid : Tid) (reply : ProviderReply) : Tid × Choice := (tid, { reply })

/-- A callback up to the resolution of the user. -/
def fetchProfile (tid : Tid) (id email : String) : List (Tid × Choice) :=
  [move tid, fetch tid tokenReply, fetch tid (profileReply id email)]

end AuthApi
