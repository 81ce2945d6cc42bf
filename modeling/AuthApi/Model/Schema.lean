import AuthApi.Model.Uuid
import AuthApi.Relational.Table

/-! # The database schema and its constraints

Rows follow `app/db/models.py`. `Database` carries the declared constraints (unique keys, foreign
keys, partition bounds) as a field, so every database state of the model satisfies them, and a
write succeeds exactly when the tables it would leave do (`Database.write`). Foreign keys act as
declared: deleting a role sets the referencing `role_id` columns to null.
-/

namespace AuthApi

open Relational

/-- Microseconds since the epoch, the resolution of `datetime`. -/
abbrev Time := ℕ

inductive AccessLabel where
  | free
  | premium
  | vip
deriving DecidableEq, Repr

/-- `DEFAULT_ROLE_TITLE`. -/
def DEFAULT_ROLE_TITLE : String := "user"

/-- `DEFAULT_ROLE_ACCESS_LABELS`. -/
def DEFAULT_ROLE_ACCESS_LABELS : List AccessLabel := [.free]

structure Role where
  id : UUID4
  title : String
  accessLabels : List AccessLabel
  createdAt : Time
  updatedAt : Time
deriving DecidableEq, Repr

structure User where
  id : UUID4
  email : String
  passwordHash : String
  tokenVersion : ℕ
  firstName : String
  lastName : String
  roleId : Option UUID4
  isSuperuser : Bool
  createdAt : Time
  updatedAt : Time
deriving DecidableEq, Repr

structure OAuthAccount where
  id : UUID4
  provider : String
  providerUserId : String
  userId : UUID4
  createdAt : Time
  updatedAt : Time
deriving DecidableEq, Repr

structure LoginHistory where
  id : UUID4
  userId : UUID4
  ipAddress : String
  userAgent : Option String
  deviceId : Option String
  loggedInAt : Time
deriving DecidableEq, Repr

/-- A partition of `login_history`: a half-open range of `logged_in_at`, or the default one. -/
inductive Partition where
  | default
  | range (lower upper : Time)
deriving DecidableEq, Repr

def Partition.covers : Partition → Time → Bool
  | .default, _ => true
  | .range lower upper, time => lower ≤ time && time < upper

/-- The key of the unique constraint on `oauth_accounts`. -/
def OAuthAccount.key (account : OAuthAccount) : String × String :=
  (account.provider, account.providerUserId)

structure Tables where
  users : List User
  roles : List Role
  oauthAccounts : List OAuthAccount
  loginHistory : List LoginHistory
  partitions : List Partition
deriving DecidableEq

/-- The constraints declared on the columns, checked after every statement. -/
structure Tables.Consistent (tables : Tables) : Prop where
  userIds : (tables.users.map User.id).Nodup
  userEmails : (tables.users.map User.email).Nodup
  userRoles : ∀ user ∈ tables.users, ∀ role ∈ user.roleId, role ∈ tables.roles.map Role.id
  roleIds : (tables.roles.map Role.id).Nodup
  roleTitles : (tables.roles.map Role.title).Nodup
  oauthIds : (tables.oauthAccounts.map OAuthAccount.id).Nodup
  oauthKeys : (tables.oauthAccounts.map OAuthAccount.key).Nodup
  oauthUsers : ∀ account ∈ tables.oauthAccounts, account.userId ∈ tables.users.map User.id
  historyKeys : (tables.loginHistory.map fun entry => (entry.id, entry.loggedInAt)).Nodup
  historyUsers : ∀ entry ∈ tables.loginHistory, entry.userId ∈ tables.users.map User.id
  historyPartitions : ∀ entry ∈ tables.loginHistory,
    ∃ part ∈ tables.partitions, part.covers entry.loggedInAt = true

instance (tables : Tables) : Decidable tables.Consistent :=
  decidable_of_iff
    ((tables.users.map User.id).Nodup ∧ (tables.users.map User.email).Nodup ∧
      (∀ user ∈ tables.users, ∀ role ∈ user.roleId, role ∈ tables.roles.map Role.id) ∧
      (tables.roles.map Role.id).Nodup ∧ (tables.roles.map Role.title).Nodup ∧
      (tables.oauthAccounts.map OAuthAccount.id).Nodup ∧
      (tables.oauthAccounts.map OAuthAccount.key).Nodup ∧
      (∀ account ∈ tables.oauthAccounts, account.userId ∈ tables.users.map User.id) ∧
      (tables.loginHistory.map fun entry => (entry.id, entry.loggedInAt)).Nodup ∧
      (∀ entry ∈ tables.loginHistory, entry.userId ∈ tables.users.map User.id) ∧
      ∀ entry ∈ tables.loginHistory, ∃ part ∈ tables.partitions,
        part.covers entry.loggedInAt = true)
    ⟨fun ⟨a, b, c, d, e, f, g, h, i, j, k⟩ => ⟨a, b, c, d, e, f, g, h, i, j, k⟩,
      fun ⟨a, b, c, d, e, f, g, h, i, j, k⟩ => ⟨a, b, c, d, e, f, g, h, i, j, k⟩⟩

/-- Tables that satisfy every declared constraint. -/
structure Database extends Tables where
  consistent : toTables.Consistent

/-- Freshly created tables. -/
def Database.empty (partitions : List Partition) : Database where
  users := []
  roles := []
  oauthAccounts := []
  loginHistory := []
  partitions := partitions
  consistent := by constructor <;> simp

/-- The `datetime.now(UTC)` column defaults, each evaluated once when the worker imports the models. -/
structure ModelDefaults where
  createdAt : Time
  updatedAt : Time
  onUpdate : Time
  userUpdatedAt : Time
  userOnUpdate : Time
deriving DecidableEq, Repr

/-- The attributes set on a new `User` instance; the other columns take their defaults. -/
structure NewUser where
  id : UUID4
  email : String
  passwordHash : String
  firstName : String := ""
  lastName : String := ""
  roleId : Option UUID4
  isSuperuser : Bool := false
deriving DecidableEq, Repr

structure NewRole where
  id : UUID4
  title : String
  accessLabels : List AccessLabel
deriving DecidableEq, Repr

structure NewOAuthAccount where
  id : UUID4
  provider : String
  providerUserId : String
  userId : UUID4
deriving DecidableEq, Repr

structure NewLoginHistory where
  id : UUID4
  userId : UUID4
  ipAddress : String
  userAgent : Option String
  deviceId : Option String
deriving DecidableEq, Repr

def NewUser.row (user : NewUser) (defaults : ModelDefaults) : User where
  id := user.id
  email := user.email
  passwordHash := user.passwordHash
  tokenVersion := 1
  firstName := user.firstName
  lastName := user.lastName
  roleId := user.roleId
  isSuperuser := user.isSuperuser
  createdAt := defaults.createdAt
  updatedAt := defaults.userUpdatedAt

def NewRole.row (role : NewRole) (defaults : ModelDefaults) : Role where
  id := role.id
  title := role.title
  accessLabels := role.accessLabels
  createdAt := defaults.createdAt
  updatedAt := defaults.updatedAt

def NewOAuthAccount.row (account : NewOAuthAccount) (defaults : ModelDefaults) : OAuthAccount where
  id := account.id
  provider := account.provider
  providerUserId := account.providerUserId
  userId := account.userId
  createdAt := defaults.createdAt
  updatedAt := defaults.updatedAt

def NewLoginHistory.row (entry : NewLoginHistory) (now : Time) : LoginHistory where
  id := entry.id
  userId := entry.userId
  ipAddress := entry.ipAddress
  userAgent := entry.userAgent
  deviceId := entry.deviceId
  loggedInAt := now

/-- The columns of a `User` an UPDATE writes; `none` leaves a column out of the statement. -/
structure UserPatch where
  email : Option String := none
  passwordHash : Option String := none
  tokenVersion : Option ℕ := none
  roleId : Option (Option UUID4) := none
  isSuperuser : Option Bool := none
deriving DecidableEq, Repr

structure RolePatch where
  title : Option String := none
  accessLabels : Option (List AccessLabel) := none
deriving DecidableEq, Repr

/-- The unit of work writes a column only when the attribute differs from its loaded value. -/
def changed {α : Type} [DecidableEq α] (loaded current : α) : Option α :=
  if loaded = current then none else some current

@[simp] theorem changed_self {α : Type} [DecidableEq α] (value : α) : changed value value = none := by
  simp [changed]

theorem changed_getD {α : Type} [DecidableEq α] (loaded current : α) :
    (changed loaded current).getD loaded = current := by
  unfold changed
  split
  · assumption
  · rfl

def UserPatch.diff (loaded current : User) : UserPatch where
  email := changed loaded.email current.email
  passwordHash := changed loaded.passwordHash current.passwordHash
  tokenVersion := changed loaded.tokenVersion current.tokenVersion
  roleId := changed loaded.roleId current.roleId
  isSuperuser := changed loaded.isSuperuser current.isSuperuser

def RolePatch.diff (loaded current : Role) : RolePatch where
  title := changed loaded.title current.title
  accessLabels := changed loaded.accessLabels current.accessLabels

/-- The UPDATE of a user row; `onupdate` fills `updated_at`. -/
def UserPatch.apply (patch : UserPatch) (defaults : ModelDefaults) (user : User) : User :=
  { user with
    email := patch.email.getD user.email
    passwordHash := patch.passwordHash.getD user.passwordHash
    tokenVersion := patch.tokenVersion.getD user.tokenVersion
    roleId := patch.roleId.getD user.roleId
    isSuperuser := patch.isSuperuser.getD user.isSuperuser
    updatedAt := defaults.userOnUpdate }

def RolePatch.apply (patch : RolePatch) (defaults : ModelDefaults) (role : Role) : Role :=
  { role with
    title := patch.title.getD role.title
    accessLabels := patch.accessLabels.getD role.accessLabels
    updatedAt := defaults.onUpdate }

@[simp] theorem UserPatch.apply_id (patch : UserPatch) (defaults : ModelDefaults) (user : User) :
    (patch.apply defaults user).id = user.id := rfl

@[simp] theorem RolePatch.apply_id (patch : RolePatch) (defaults : ModelDefaults) (role : Role) :
    (patch.apply defaults role).id = role.id := rfl

/-- A statement of the unit of work. -/
inductive Write where
  | insertUser (user : NewUser)
  | insertRole (role : NewRole)
  | insertOAuthAccount (account : NewOAuthAccount)
  | insertLoginHistory (entry : NewLoginHistory)
  | updateUser (id : UUID4) (patch : UserPatch)
  | updateRole (id : UUID4) (patch : RolePatch)
  | deleteRole (id : UUID4)
deriving DecidableEq, Repr

/-- SQLAlchemy's `IntegrityError`, `StaleDataError` for an UPDATE that matches no row, and the other
`DBAPIError`s, with which the database or its driver refuses the values of a statement. -/
inductive DbError where
  | integrity
  | staleData
  | data
deriving DecidableEq, Repr

/-- `ON DELETE SET NULL` for one user row. -/
def User.dropRole (id : UUID4) (user : User) : User :=
  if user.roleId = some id then { user with roleId := none } else user

@[simp] theorem User.dropRole_id (id : UUID4) (user : User) : (user.dropRole id).id = user.id := by
  unfold dropRole
  split <;> rfl

@[simp] theorem User.dropRole_email (id : UUID4) (user : User) :
    (user.dropRole id).email = user.email := by
  unfold dropRole
  split <;> rfl

/-- The rows a statement would leave, before its constraints are checked. -/
def Tables.write (tables : Tables) (defaults : ModelDefaults) (now : Time) :
    Write → Except DbError Tables
  | .insertUser user => .ok { tables with users := tables.users ++ [user.row defaults] }
  | .insertRole role => .ok { tables with roles := tables.roles ++ [role.row defaults] }
  | .insertOAuthAccount account =>
      .ok { tables with oauthAccounts := tables.oauthAccounts ++ [account.row defaults] }
  | .insertLoginHistory entry =>
      .ok { tables with loginHistory := tables.loginHistory ++ [entry.row now] }
  | .updateUser id patch =>
      if id ∈ tables.users.map User.id then
        .ok { tables with users := amend User.id tables.users id (patch.apply defaults) }
      else .error .staleData
  | .updateRole id patch =>
      if id ∈ tables.roles.map Role.id then
        .ok { tables with roles := amend Role.id tables.roles id (patch.apply defaults) }
      else .error .staleData
  | .deleteRole id =>
      .ok { tables with
        roles := discard Role.id tables.roles id
        users := tables.users.map (User.dropRole id) }

namespace Database

/-- Execute one statement; a violated constraint is an `IntegrityError`. -/
def write (db : Database) (defaults : ModelDefaults) (now : Time) (write : Write) :
    Except DbError Database :=
  match db.toTables.write defaults now write with
  | .error error => .error error
  | .ok tables =>
      if consistent : tables.Consistent then .ok { tables with consistent } else .error .integrity

/-- Execute the statements of one flush in order. -/
def writeAll (db : Database) (defaults : ModelDefaults) (now : Time) :
    List Write → Except DbError Database
  | [] => .ok db
  | first :: rest =>
      match db.write defaults now first with
      | .error error => .error error
      | .ok next => next.writeAll defaults now rest

/-- `session.get(User, id)` on the committed rows. -/
def user? (db : Database) (id : UUID4) : Option User := lookup User.id db.users id

def userByEmail? (db : Database) (email : String) : Option User :=
  lookup User.email db.users email

def role? (db : Database) (id : UUID4) : Option Role := lookup Role.id db.roles id

def roleByTitle? (db : Database) (title : String) : Option Role := lookup Role.title db.roles title

/-- The role a user row refers to, as `joinedload(User.role)` finds it. -/
def roleOf (db : Database) (user : User) : Option Role := user.roleId.bind db.role?

def account? (db : Database) (provider providerUserId : String) : Option OAuthAccount :=
  lookup OAuthAccount.key db.oauthAccounts (provider, providerUserId)

/-- The user an OAuth account is linked to. -/
def linkedUser? (db : Database) (provider providerUserId : String) : Option User :=
  (db.account? provider providerUserId).bind fun account => db.user? account.userId

/-- A successful statement left exactly the tables it describes. -/
theorem write_ok {db next : Database} {defaults : ModelDefaults} {now : Time} {statement : Write}
    (success : db.write defaults now statement = .ok next) :
    db.toTables.write defaults now statement = .ok next.toTables := by
  unfold write at success
  split at success
  · cases success
  · next tables written =>
    split at success
    · cases success
      exact written
    · cases success

/-- Whether a statement succeeds depends only on the constraints of the tables it leaves. -/
theorem write_of_consistent {db : Database} {defaults : ModelDefaults} {now : Time}
    {statement : Write} {tables : Tables}
    (written : db.toTables.write defaults now statement = .ok tables)
    (consistent : tables.Consistent) :
    db.write defaults now statement = .ok { tables with consistent } := by
  simp [write, written, consistent]

/-- The foreign key of a role id never dangles. -/
theorem roleOf_isSome (db : Database) {user : User} (member : user ∈ db.users)
    (assigned : user.roleId.isSome) : (db.roleOf user).isSome := by
  obtain ⟨role, set⟩ := Option.isSome_iff_exists.mp assigned
  have present := db.consistent.userRoles user member role set
  simpa only [roleOf, set, Option.bind_some, role?] using lookup_isSome.mpr present

end Database

end AuthApi
