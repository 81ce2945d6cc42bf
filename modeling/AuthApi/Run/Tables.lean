import AuthApi.Run.Commits

/-! # What a commit leaves in the tables

One lemma for each shape of `Commits`: the tables a successful commit leaves. An UPDATE is described
by what it does to the columns of the row it addresses.
-/

namespace AuthApi

open Relational

/-- A user row with a fresh id, a fresh email and an existing role keeps every constraint. -/
theorem Tables.Consistent.insertUser {tables : Tables} (consistent : tables.Consistent) {row : User}
    (freshId : row.id ∉ tables.users.map User.id) (freshEmail : row.email ∉ tables.users.map User.email)
    (role : ∀ roleId ∈ row.roleId, roleId ∈ tables.roles.map Role.id) :
    { tables with users := tables.users ++ [row] }.Consistent where
  userIds := by
    rw [List.map_append, List.map_singleton, List.nodup_append_comm]
    exact List.nodup_cons.mpr ⟨freshId, consistent.userIds⟩
  userEmails := by
    rw [List.map_append, List.map_singleton, List.nodup_append_comm]
    exact List.nodup_cons.mpr ⟨freshEmail, consistent.userEmails⟩
  userRoles user member := by
    rcases List.mem_append.mp member with old | new
    · exact consistent.userRoles user old
    · rw [List.mem_singleton.mp new]
      exact role
  roleIds := consistent.roleIds
  roleTitles := consistent.roleTitles
  oauthIds := consistent.oauthIds
  oauthKeys := consistent.oauthKeys
  oauthUsers account member := by
    rw [List.map_append]
    exact List.mem_append_left _ (consistent.oauthUsers account member)
  historyKeys := consistent.historyKeys
  historyUsers entry member := by
    rw [List.map_append]
    exact List.mem_append_left _ (consistent.historyUsers entry member)
  historyPartitions := consistent.historyPartitions

/-- A role with a fresh id and a fresh title keeps every constraint. -/
theorem Tables.Consistent.insertRole {tables : Tables} (consistent : tables.Consistent) {row : Role}
    (freshId : row.id ∉ tables.roles.map Role.id)
    (freshTitle : row.title ∉ tables.roles.map Role.title) :
    { tables with roles := tables.roles ++ [row] }.Consistent :=
  { consistent with
    userRoles := by
      intro user member role assigned
      rw [List.map_append]
      exact List.mem_append_left _ (consistent.userRoles user member role assigned)
    roleIds := by
      rw [List.map_append, List.map_singleton, List.nodup_append_comm]
      exact List.nodup_cons.mpr ⟨freshId, consistent.roleIds⟩
    roleTitles := by
      rw [List.map_append, List.map_singleton, List.nodup_append_comm]
      exact List.nodup_cons.mpr ⟨freshTitle, consistent.roleTitles⟩ }

namespace Database

variable {db next : Database} {defaults : ModelDefaults} {now : Time}

/-- A statement that finds its row fails by a constraint only. -/
theorem write_error {statement : Write} {tables : Tables} {error : DbError}
    (described : db.toTables.write defaults now statement = .ok tables)
    (failed : db.write defaults now statement = .error error) : error = .integrity := by
  unfold write at failed
  rw [described] at failed
  simp only at failed
  split at failed
  · cases failed
  · cases failed
    rfl

theorem insertUser_ok (defaults : ModelDefaults) (now : Time) {user : NewUser}
    (freshId : user.id ∉ db.users.map User.id) (freshEmail : user.email ∉ db.users.map User.email)
    (role : ∀ roleId ∈ user.roleId, roleId ∈ db.roles.map Role.id) :
    ∃ next, db.write defaults now (.insertUser user) = .ok next :=
  ⟨_, write_of_consistent rfl (db.consistent.insertUser freshId freshEmail role)⟩

theorem insertRole_ok (defaults : ModelDefaults) (now : Time) {role : NewRole}
    (freshId : role.id ∉ db.roles.map Role.id) (freshTitle : role.title ∉ db.roles.map Role.title) :
    ∃ next, db.write defaults now (.insertRole role) = .ok next :=
  ⟨_, write_of_consistent rfl (db.consistent.insertRole freshId freshTitle)⟩

theorem writeAll_singleton {statement : Write}
    (written : db.writeAll defaults now [statement] = .ok next) :
    db.toTables.write defaults now statement = .ok next.toTables := by
  simp only [writeAll] at written
  split at written
  · cases written
  · next middle first =>
    cases written
    exact write_ok first

theorem writeAll_insertUser {user : NewUser}
    (written : db.writeAll defaults now [.insertUser user] = .ok next) :
    next.toTables = { db.toTables with users := db.users ++ [user.row defaults] } :=
  (Except.ok.inj (writeAll_singleton written)).symm

theorem writeAll_insertRole {role : NewRole}
    (written : db.writeAll defaults now [.insertRole role] = .ok next) :
    next.toTables = { db.toTables with roles := db.roles ++ [role.row defaults] } :=
  (Except.ok.inj (writeAll_singleton written)).symm

theorem writeAll_insertOAuthAccount {account : NewOAuthAccount}
    (written : db.writeAll defaults now [.insertOAuthAccount account] = .ok next) :
    next.toTables =
      { db.toTables with oauthAccounts := db.oauthAccounts ++ [account.row defaults] } :=
  (Except.ok.inj (writeAll_singleton written)).symm

theorem writeAll_insertLoginHistory {entry : NewLoginHistory}
    (written : db.writeAll defaults now [.insertLoginHistory entry] = .ok next) :
    next.toTables = { db.toTables with loginHistory := db.loginHistory ++ [entry.row now] } :=
  (Except.ok.inj (writeAll_singleton written)).symm

theorem writeAll_deleteRole {id : UUID4}
    (written : db.writeAll defaults now [.deleteRole id] = .ok next) :
    next.toTables =
      { db.toTables with
        roles := discard Role.id db.roles id, users := db.users.map (User.dropRole id) } :=
  (Except.ok.inj (writeAll_singleton written)).symm

theorem writeAll_newLink {user : NewUser} {account : NewOAuthAccount}
    (written : db.writeAll defaults now [.insertUser user, .insertOAuthAccount account] = .ok next) :
    next.toTables =
      { db.toTables with
        users := db.users ++ [user.row defaults]
        oauthAccounts := db.oauthAccounts ++ [account.row defaults] } := by
  rw [writeAll] at written
  split at written
  · cases written
  · next middle first =>
    have users := (Except.ok.inj (write_ok first)).symm
    rw [writeAll_insertOAuthAccount written, users]

end Database

/-- The change of a user row sets the columns of the patch and keeps the others. -/
structure UserPatch.Describes (patch : UserPatch) (change : User → User) : Prop where
  id : ∀ user, (change user).id = user.id
  email : ∀ user, (change user).email = patch.email.getD user.email
  passwordHash : ∀ user, (change user).passwordHash = patch.passwordHash.getD user.passwordHash
  tokenVersion : ∀ user, (change user).tokenVersion = patch.tokenVersion.getD user.tokenVersion
  roleId : ∀ user, (change user).roleId = patch.roleId.getD user.roleId
  isSuperuser : ∀ user, (change user).isSuperuser = patch.isSuperuser.getD user.isSuperuser

structure RolePatch.Describes (patch : RolePatch) (change : Role → Role) : Prop where
  id : ∀ role, (change role).id = role.id
  title : ∀ role, (change role).title = patch.title.getD role.title
  accessLabels : ∀ role, (change role).accessLabels = patch.accessLabels.getD role.accessLabels

namespace Database

variable {db next : Database} {defaults : ModelDefaults} {now : Time}

/-- The UPDATE of a changed instance, or no statement at all, amends the row it was read from. -/
theorem writeAll_userUpdate {loaded current : User}
    (written : db.writeAll defaults now (userUpdate loaded current) = .ok next) :
    ∃ change, (UserPatch.diff loaded current).Describes change ∧
      next.toTables = { db.toTables with users := amend User.id db.users loaded.id change } := by
  unfold userUpdate at written
  split at written
  · next unchanged =>
    cases written
    refine ⟨id, ?_, by simp [amend]⟩
    rw [unchanged]
    constructor <;> exact fun _ => rfl
  · refine ⟨(UserPatch.diff loaded current).apply defaults, ?_, ?_⟩
    · constructor <;> exact fun _ => rfl
    · have tables := writeAll_singleton written
      simp only [Tables.write] at tables
      split at tables
      · exact (Except.ok.inj tables).symm
      · cases tables

/-- An UPDATE that has something to write finds its row. -/
theorem mem_of_writeAll_userUpdate {loaded current : User}
    (written : db.writeAll defaults now (userUpdate loaded current) = .ok next)
    (changed : UserPatch.diff loaded current ≠ {}) : loaded.id ∈ db.users.map User.id := by
  rw [userUpdate, if_neg changed] at written
  have tables := writeAll_singleton written
  simp only [Tables.write] at tables
  split at tables
  · assumption
  · cases tables

theorem writeAll_roleUpdate {loaded current : Role}
    (written : db.writeAll defaults now (roleUpdate loaded current) = .ok next) :
    ∃ change, (RolePatch.diff loaded current).Describes change ∧
      next.toTables = { db.toTables with roles := amend Role.id db.roles loaded.id change } := by
  unfold roleUpdate at written
  split at written
  · next unchanged =>
    cases written
    refine ⟨id, ?_, by simp [amend]⟩
    rw [unchanged]
    constructor <;> exact fun _ => rfl
  · refine ⟨(RolePatch.diff loaded current).apply defaults, ?_, ?_⟩
    · constructor <;> exact fun _ => rfl
    · have tables := writeAll_singleton written
      simp only [Tables.write] at tables
      split at tables
      · exact (Except.ok.inj tables).symm
      · cases tables

end Database

end AuthApi
