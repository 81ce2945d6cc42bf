import AuthApi.Run.Histories

/-! # What one event does to the rows

The tables before and after an event of a run, for any event: `UsersStep`, `RolesStep` and
`AccountsStep` are the cases an invariant of the rows has to consider.
-/

namespace AuthApi

open Interleaving Relational

section Steps

variable {Token : Type} (app : App Token) (request : Request Token) (trace : Trace Reply)
  (writes : List Write) (defaults : ModelDefaults)

/-- The users before and after an event of a request. -/
inductive UsersStep (before : List User) : List User → Prop
  | same : UsersStep before before
  | insertPlain (user : NewUser) (roleId : UUID4) (plain : user.isSuperuser = false)
      (holds : user.roleId = some roleId) (seen : SawDefaultRole trace roleId)
      (member : .insertUser user ∈ writes) : UsersStep before (before ++ [user.row defaults])
  | insertSuperuser (user : NewUser) (flag : user.isSuperuser = true) (email password : String)
      (requested : request = .createSuperuser email password) :
      UsersStep before (before ++ [user.row defaults])
  | update (readId : UUID4) (loaded : UserObject)
      (seen : ⟨.getUser readId, some loaded⟩ ∈ trace) (changed : User)
      (allowed : UserChange request trace loaded.toUser changed)
      (shape : writes = userUpdate loaded.toUser changed) (change : User → User)
      (described : (UserPatch.diff loaded.toUser changed).Describes change) :
      UsersStep before (amend User.id before loaded.id change)
  | dropRole (readId : UUID4) (role : Role) (seen : ⟨.getRole readId, some role⟩ ∈ trace)
      (free : role.title ≠ DEFAULT_ROLE_TITLE) (shape : writes = [.deleteRole role.id]) :
      UsersStep before (before.map (User.dropRole role.id))

/-- The roles before and after an event of a request. -/
inductive RolesStep (before : List Role) : List Role → Prop
  | same : RolesStep before before
  | insert (role : NewRole) : RolesStep before (before ++ [role.row defaults])
  | update (readId : UUID4) (role : Role) (data : RoleCreateIn)
      (seen : ⟨.getRole readId, some role⟩ ∈ trace)
      (guarded : role.title = DEFAULT_ROLE_TITLE → data.title = DEFAULT_ROLE_TITLE)
      (change : Role → Role)
      (described : (RolePatch.diff role
        { role with title := data.title, accessLabels := data.accessLabels }).Describes change) :
      RolesStep before (amend Role.id before role.id change)
  | delete (readId : UUID4) (role : Role) (seen : ⟨.getRole readId, some role⟩ ∈ trace)
      (free : role.title ≠ DEFAULT_ROLE_TITLE) :
      RolesStep before (discard Role.id before role.id)

/-- A user who was not there before is a row the event inserted. -/
inductive UserCreated (user : User) : Prop
  | plain (new : NewUser) (roleId : UUID4) (row : user = new.row defaults)
      (plain : new.isSuperuser = false) (holds : new.roleId = some roleId)
      (seen : SawDefaultRole trace roleId)
  | superuser (email password : String) (requested : request = .createSuperuser email password)

/-- The links before and after an event. -/
inductive AccountsStep (before : List OAuthAccount) : List OAuthAccount → Prop
  | same : AccountsStep before before
  | insert (account : OAuthAccount) : AccountsStep before (before ++ [account])

end Steps

theorem UsersStep.created {Token : Type} {request : Request Token} {trace : Trace Reply}
    {writes : List Write} {defaults : ModelDefaults} {before after : List User}
    (step : UsersStep request trace writes defaults before after) {user : User} (present : user ∈ after)
    (new : user.id ∉ before.map User.id) : UserCreated request trace defaults user := by
  have kept {rows : List User} (same : rows.map User.id = before.map User.id) (inside : user ∈ rows) :
      False := new (same ▸ List.mem_map_of_mem inside)
  cases step with
  | same => exact (kept rfl present).elim
  | insertPlain created roleId plain holds seen member =>
    rcases List.mem_append.mp present with old | added
    · exact (kept rfl old).elim
    · exact .plain created roleId (List.mem_singleton.mp added) plain holds seen
  | insertSuperuser created flag email password requested => exact .superuser email password requested
  | update readId loaded seen changed allowed shape change described =>
    exact (kept (map_key_amend described.id) present).elim
  | dropRole readId role seen free shape =>
    apply (kept ?_ present).elim
    simp [List.map_map, Function.comp_def]

section Events

variable {Token : Type} {app : App Token} {condition : Condition Tid Reply World} {world : World}
  {requests : Tid → Request Token} {older : List ServiceEvent} {event : ServiceEvent}

/-- The defaults of a request's worker. -/
abbrev eventDefaults (event : ServiceEvent) : ModelDefaults := event.before.defaults event.thread

/-- The tables before and after an event of a request, table by table. -/
structure RowsStep {Token : Type} (request : Request Token) (trace : Trace Reply) (writes : List Write)
    (defaults : ModelDefaults) (before after : Tables) : Prop where
  users : UsersStep request trace writes defaults before.users after.users
  roles : RolesStep trace defaults before.roles after.roles
  accounts : AccountsStep before.oauthAccounts after.oauthAccounts

theorem rows_step
    (lawful : LawfulEvent answers condition (fun tid => Allowed app (requests tid)) world older
      event) :
    RowsStep (requests event.thread) (traceOf older event.thread) (committed event)
      (eventDefaults event) event.before.db.toTables event.after.db.toTables := by
  have written := event_db lawful
  obtain none | commits := event_commits lawful
  · rw [db_of_committed_nil lawful none]
    exact ⟨.same, .same, .same⟩
  · generalize shape : committed event = writes at written commits ⊢
    cases commits with
    | defaultRole id absent =>
      rw [Database.writeAll_insertRole written]
      exact ⟨.same, .insert _, .same⟩
    | loginHistory entry =>
      rw [Database.writeAll_insertLoginHistory written]
      exact ⟨.same, .same, .same⟩
    | createUser user roleId plain holds seen data requested =>
      rw [Database.writeAll_insertUser written]
      exact ⟨.insertPlain user roleId plain holds seen (by simp), .same, .same⟩
    | createSuperuser user flag email password requested =>
      rw [Database.writeAll_insertUser written]
      exact ⟨.insertSuperuser user flag email password requested, .same, .same⟩
    | changeUser id user seen changed allowed =>
      obtain ⟨change, described, tables⟩ := Database.writeAll_userUpdate written
      rw [tables]
      exact ⟨.update id user seen changed allowed rfl change described, .same, .same⟩
    | createRole role requested =>
      rw [Database.writeAll_insertRole written]
      exact ⟨.same, .insert _, .same⟩
    | removeRole id role seen free requested =>
      rw [Database.writeAll_deleteRole written]
      exact ⟨.dropRole id role seen free rfl, .delete id role seen free, .same⟩
    | modifyRole id role data seen guarded requested =>
      obtain ⟨change, described, tables⟩ := Database.writeAll_roleUpdate written
      rw [tables]
      exact ⟨.same, .update id role data seen guarded change described, .same⟩
    | link profile user id callback fetched found =>
      rw [Database.writeAll_insertOAuthAccount written]
      exact ⟨.same, .same, .insert _⟩
    | newLink profile user roleId id callback fetched plain email holds seen =>
      rw [Database.writeAll_newLink written]
      exact ⟨.insertPlain user roleId plain holds seen (by simp), .same, .insert _⟩

end Events

end AuthApi
