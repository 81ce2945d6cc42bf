import AuthApi.Model.Requests
import AuthApi.Run.Credentials
import AuthApi.Run.Users

/-! # Calls of the user and role services change one row

Eight calls of `UserService` and `RoleService` write. One that raises has left the tables as they
were, apart from a default role it may have added; one that returns has changed the row it is about.
Other requests may run in between, so the statements are about the steps of the call itself.
-/

namespace AuthApi

open Interleaving Interleaving.Program Relational DbHelpers Dependencies

/-- A row of the users or of the roles. -/
inductive RowId where
  | user (id : UUID4)
  | role (id : UUID4)
deriving DecidableEq, Repr

/-- All role operations but the listing write. -/
def RoleOperation.edits : RoleOperation → Bool
  | .getAllRoles => false
  | _ => true

/-- The row an operation on existing rows is about. -/
def RoleOperation.row? : RoleOperation → Option RowId
  | .removeRole roleId => some (.role roleId)
  | .modifyRole roleId _ => some (.role roleId)
  | .assignRole userId _ => some (.user userId)
  | .revokeRole userId => some (.user userId)
  | _ => none

namespace Request

variable {Token : Type}

/-- The calls of the two services that write. -/
def edits : Request Token → Bool
  | .createUser _ => true
  | .userEndpoint _ (.changeEmail _) => true
  | .userEndpoint _ (.changePassword _) => true
  | .role operation => operation.edits
  | .roleEndpoint _ operation => operation.edits
  | _ => false

/-- The existing row a request is about: the subject of its token, or the row it names. -/
def row? (app : App Token) : Request Token → Option RowId
  | .userEndpoint token _ => (app.accessPayload token).map fun payload => .user payload.sub
  | request => request.roleOperation?.bind RoleOperation.row?

/-- The calls that fetch the default role. -/
def fetchesDefaultRole : Request Token → Bool
  | .createUser _ => true
  | .role (.revokeRole _) => true
  | .roleEndpoint _ (.revokeRole _) => true
  | _ => false

/-- What the call does to the user rows it is not about: a removed role is taken from its holders. -/
def toOthers (request : Request Token) : User → User :=
  match request.roleOperation? with
  | some (.removeRole roleId) => User.dropRole roleId
  | _ => id

end Request

section Programs

variable {Token α : Type} (app : App Token) (request : Request Token) (trace : Trace Reply)

/-- The statements with which a call ends, and their row. -/
inductive Edits : RowId → List Write → Prop
  | createUser (data : UserCreateIn) (requested : request = .createUser data) (user : NewUser)
      (email : user.email = data.email) : Edits (.user user.id) [.insertUser user]
  | changeUser (id : UUID4) (named : request.row? app = some (.user id)) (loaded : UserObject)
      (seen : ⟨.getUser id, some loaded⟩ ∈ trace) (current : User) :
      Edits (.user id) (userUpdate loaded.toUser current)
  | createRole (role : NewRole)
      (requested : request.roleOperation? = some (.createRole ⟨role.title, role.accessLabels⟩)) :
      Edits (.role role.id) [.insertRole role]
  | removeRole (id : UUID4) (requested : request.roleOperation? = some (.removeRole id)) (role : Role)
      (seen : ⟨.getRole id, some role⟩ ∈ trace) : Edits (.role id) [.deleteRole role.id]
  | modifyRole (id : UUID4) (data : RoleCreateIn)
      (requested : request.roleOperation? = some (.modifyRole id data)) (role : Role)
      (seen : ⟨.getRole id, some role⟩ ∈ trace) :
      Edits (.role id)
        (roleUpdate role { role with title := data.title, accessLabels := data.accessLabels })

/-- The exchange commits nothing, or the default role for a call that fetches it. -/
def Prepares (exchange : Exchange Reply) : Prop :=
  committedBy exchange.request exchange.reply = [] ∨ request.fetchesDefaultRole = true ∧
    ∃ id, committedBy exchange.request exchange.reply =
      [.insertRole ⟨id, DEFAULT_ROLE_TITLE, DEFAULT_ROLE_ACCESS_LABELS⟩]

/-- No row has been edited so far. -/
def Prepared : Prop := ∀ exchange ∈ trace, Prepares request exchange

/-- How a call ends. -/
inductive Concludes : Except Exn α → Prop
  | failed (error : Exn) (prepared : Prepared request trace) : Concludes (.error error)
  | vanished (error : Exn) (user : NewUser) (rest : Trace Reply)
      (committed : ⟨.commit .request [.insertUser user], .ok ()⟩ ∈ rest)
      (gone : ⟨.refreshUser user.id false, none⟩ :: rest <:+ trace) : Concludes (.error error)
  | edited (value : α) (row : RowId) (edits : ∀ exchange ∈ trace, Prepares request exchange ∨
      Edits app request trace row (committedBy exchange.request exchange.reply)) :
      Concludes (.ok value)

variable {app request trace}

theorem Prepared.cons {exchange : Exchange Reply} (prepared : Prepared request trace)
    (prepares : Prepares request exchange) : Prepared request (exchange :: trace) :=
  List.forall_mem_cons.mpr ⟨prepares, prepared⟩

theorem Edits.mono {later : Trace Reply} {row : RowId} {writes : List Write}
    (edits : Edits app request trace row writes) (grown : trace <:+ later) :
    Edits app request later row writes := by
  cases edits with
  | createUser data requested user email => exact .createUser data requested user email
  | changeUser id named loaded seen current =>
    exact .changeUser id named loaded (grown.subset seen) current
  | createRole role requested => exact .createRole role requested
  | removeRole id requested role seen => exact .removeRole id requested role (grown.subset seen)
  | modifyRole id data requested role seen =>
    exact .modifyRole id data requested role (grown.subset seen)

theorem Concludes.cons {outcome : Except Exn α} {exchange : Exchange Reply}
    (concludes : Concludes app request trace outcome) (prepares : Prepares request exchange) :
    Concludes app request (exchange :: trace) outcome := by
  cases concludes with
  | failed error prepared => exact .failed error (prepared.cons prepares)
  | vanished error user rest committed gone =>
    exact .vanished error user rest committed (gone.trans (List.suffix_cons _ _))
  | edited value row edits =>
    apply Concludes.edited value row
    rintro other (_ | ⟨_, member⟩)
    · exact .inl prepares
    · exact (edits other member).imp_right fun edits => edits.mono (List.suffix_cons _ _)

/-- What the steps before the edit keep. -/
theorem prepared_along {program : Action α} {post : Trace Reply → Except Exn α → Prop}
    (along : program.Along (fun _ call => ∀ reply, Prepares request ⟨call, reply⟩) post trace)
    (prepared : Prepared request trace) :
    program.Along (fun _ _ => True)
      (fun later outcome => post later outcome ∧ Prepared request later) trace :=
  (along.keeps (fun _ _ reply prepares prepared => prepared.cons (prepares reply)) prepared).mono
    (fun _ _ _ => trivial) fun _ _ ends => ends

theorem concludes_session {program : Action α}
    (along : program.Along (fun _ _ => True) (Concludes app request) trace) :
    (withSession program).Along (fun _ _ => True) (Concludes app request) trace :=
  along_withSession (fun _ => trivial)
    (along.mono (fun _ _ _ => trivial) fun _ _ concludes => concludes.cons (.inl rfl))

/-- The result of the service becomes the outcome of the request. -/
theorem concludes_map {β : Type} {program : Action α} (result : α → β)
    (along : program.Along (fun _ _ => True) (Concludes app request) trace) :
    (do return result (← program)).Along (fun _ _ => True) (Concludes app request) trace := by
  apply Along.bind along
  · rintro value later (_ | _ | ⟨_, row, edits⟩)
    exact .edited (result value) row edits
  · rintro error later (⟨_, prepared⟩ | ⟨_, user, rest, committed, gone⟩ | _)
    · exact .failed error prepared
    · exact .vanished error user rest committed gone

/-- A successful edit after steps that only prepared it. -/
theorem edited_cons {row : RowId} {writes : List Write} (value : α) (prepared : Prepared request trace)
    (edits : Edits app request trace row writes) :
    Concludes app request (⟨.commit .request writes, .ok ()⟩ :: trace) (.ok value) := by
  apply Concludes.edited value row
  rintro exchange (_ | ⟨_, member⟩)
  · exact .inr (edits.mono (List.suffix_cons _ _))
  · exact .inl (prepared exchange member)

/-- A service that ends with a commit whose failure it does not handle. -/
theorem commit_concludes {row : RowId} {writes : List Write} (prepared : Prepared request trace)
    (edits : Edits app request trace row writes) :
    (commit .request writes).Along (fun _ _ => True) (Concludes app request) trace := by
  refine ⟨trivial, fun reply => ?_⟩
  cases reply with
  | ok _ => exact edited_cons () prepared edits
  | error error => exact .failed _ (prepared.cons (.inl rfl))

/-- A service that turns a conflict of its commit into a domain error, after a rollback. -/
theorem commit_or_concludes {row : RowId} {writes : List Write} (conflict : Exn)
    (prepared : Prepared request trace) (edits : Edits app request trace row writes) :
    (tryCatch (commit .request writes) fun error =>
      match error with
      | .dbError .integrity => do
        rollback
        throw conflict
      | other => throw other : Action Unit).Along (fun _ _ => True) (Concludes app request) trace := by
  refine ⟨trivial, fun reply => ?_⟩
  cases reply with
  | ok _ => exact edited_cons () prepared edits
  | error error =>
    cases error with
    | integrity => exact ⟨trivial, fun _ => .failed _ ((prepared.cons (.inl rfl)).cons (.inl rfl))⟩
    | staleData | data => exact .failed _ (prepared.cons (.inl rfl))

theorem getOrCreateDefaultRole_prepares (fetches : request.fetchesDefaultRole = true)
    (prepared : Prepared request trace) :
    getOrCreateDefaultRole.Along (fun _ _ => True)
      (fun later _ => trace <:+ later ∧ Prepared request later) trace := by
  refine (prepared_along (getOrCreateDefaultRole_along (fun _ _ => .inl rfl) (fun _ _ => .inl rfl)
    fun _ id _ reply => ?_) prepared).mono (fun _ _ _ => trivial) fun _ _ ends => ⟨ends.1.1, ends.2⟩
  cases reply with
  | ok _ => exact .inr ⟨fetches, id, rfl⟩
  | error error => exact .inl rfl

theorem createUser_concludes (data : UserCreateIn) (requested : request = .createUser data)
    (prepared : Prepared request trace) :
    (UserService.createUser app data).Along (fun _ _ => True) (Concludes app request) trace := by
  refine ⟨trivial, fun found => ?_⟩
  have prepared : Prepared request (⟨.selectUserByEmail data.email false, found⟩ :: trace) :=
    prepared.cons (.inl rfl)
  cases found with
  | some user => exact .failed _ prepared
  | none =>
    refine ⟨trivial, fun salt => ?_⟩
    simp only [done_bind]
    apply Along.bind (getOrCreateDefaultRole_prepares (by rw [requested]; rfl)
      (prepared.cons (.inl rfl)))
    · rintro role later ⟨_, prepared⟩
      refine ⟨trivial, fun id => ⟨trivial, fun reply => ?_⟩⟩
      have prepared : Prepared request (⟨.uuid4, id⟩ :: later) := prepared.cons (.inl rfl)
      cases reply with
      | ok _ =>
        refine ⟨trivial, fun found => ?_⟩
        cases found with
        | some user => exact (edited_cons user prepared (.createUser data requested _ rfl)).cons (.inl rfl)
        | none =>
          exact .vanished _ { id, email := data.email, roleId := some role.id
                              passwordHash := app.passwordHash.hash data.password salt }
            _ List.mem_cons_self (List.suffix_refl _)
      | error error =>
        cases error with
        | integrity =>
          exact ⟨trivial, fun _ => .failed _ ((prepared.cons (.inl rfl)).cons (.inl rfl))⟩
        | staleData | data => exact .failed _ (prepared.cons (.inl rfl))
    · rintro error later ⟨_, prepared⟩
      exact .failed error prepared

theorem changeEmail_concludes {id : UUID4} {loaded : UserObject} (data : UserChangeEmailIn)
    (named : request.row? app = some (.user id)) (seen : ⟨.getUser id, some loaded⟩ ∈ trace)
    (prepared : Prepared request trace) :
    (UserService.changeEmail app data loaded).Along (fun _ _ => True) (Concludes app request) trace := by
  unfold UserService.changeEmail
  split
  · exact commit_or_concludes _ prepared (.changeUser id named loaded seen _)
  · exact .failed _ prepared

theorem changePassword_concludes {id : UUID4} {loaded : UserObject} (data : UserChangePasswordIn)
    (named : request.row? app = some (.user id)) (seen : ⟨.getUser id, some loaded⟩ ∈ trace)
    (prepared : Prepared request trace) :
    (UserService.changePassword app data loaded).Along (fun _ _ => True) (Concludes app request)
      trace := by
  unfold UserService.changePassword
  split
  · refine ⟨trivial, fun salt => ?_⟩
    exact commit_concludes (prepared.cons (.inl rfl))
      (.changeUser id named loaded (List.mem_cons_of_mem _ seen) _)
  · exact .failed _ prepared

theorem createRole_concludes (data : RoleCreateIn)
    (requested : request.roleOperation? = some (.createRole data)) (prepared : Prepared request trace) :
    (RoleService.createRole app data).Along (fun _ _ => True) (Concludes app request) trace := by
  refine ⟨trivial, fun id => along_accept (fun _ => ?_) fun _ => .failed _ (prepared.cons (.inl rfl))⟩
  refine concludes_map (fun _ => (⟨id, data.title, data.accessLabels⟩ : RoleCreateOut)) ?_
  exact commit_or_concludes _ (prepared.cons (.inl rfl)) (.createRole ⟨id, data.title, data.accessLabels⟩
    requested)

theorem removeRole_concludes (id : UUID4) (requested : request.roleOperation? = some (.removeRole id))
    (prepared : Prepared request trace) :
    (RoleService.removeRole id).Along (fun _ _ => True) (Concludes app request) trace := by
  refine ⟨trivial, fun found => ?_⟩
  have prepared : Prepared request (⟨.getRole id, found⟩ :: trace) := prepared.cons (.inl rfl)
  cases found with
  | none => exact .failed _ prepared
  | some role =>
    simp only [done_bind]
    split
    · exact .failed _ prepared
    · exact commit_concludes prepared (.removeRole id requested role List.mem_cons_self)

theorem modifyRole_concludes (id : UUID4) (data : RoleCreateIn)
    (requested : request.roleOperation? = some (.modifyRole id data))
    (prepared : Prepared request trace) :
    (RoleService.modifyRole app id data).Along (fun _ _ => True) (Concludes app request) trace := by
  refine ⟨trivial, fun found => ?_⟩
  have prepared : Prepared request (⟨.getRole id, found⟩ :: trace) := prepared.cons (.inl rfl)
  cases found with
  | none => exact .failed _ prepared
  | some role =>
    simp only [done_bind]
    split
    · exact .failed _ prepared
    · exact along_accept (fun _ => commit_or_concludes _ prepared (.modifyRole id data requested role
        List.mem_cons_self)) fun _ => .failed _ prepared

theorem assignRole_concludes (userId roleId : UUID4) (named : request.row? app = some (.user userId))
    (prepared : Prepared request trace) :
    (RoleService.assignRole userId roleId).Along (fun _ _ => True) (Concludes app request) trace := by
  refine ⟨trivial, fun found => ?_⟩
  have prepared : Prepared request (⟨.getUser userId, found⟩ :: trace) := prepared.cons (.inl rfl)
  cases found with
  | none => exact .failed _ prepared
  | some user =>
    refine ⟨trivial, fun role => ?_⟩
    have prepared : Prepared request (⟨.getRole roleId, role⟩ :: _) := prepared.cons (.inl rfl)
    cases role with
    | none => exact .failed _ prepared
    | some role => exact commit_concludes prepared (.changeUser userId named user (by simp) _)

theorem revokeRole_concludes (userId : UUID4)
    (requested : request.roleOperation? = some (.revokeRole userId))
    (named : request.row? app = some (.user userId)) (prepared : Prepared request trace) :
    (RoleService.revokeRole userId).Along (fun _ _ => True) (Concludes app request) trace := by
  refine ⟨trivial, fun found => ?_⟩
  have prepared : Prepared request (⟨.getUser userId, found⟩ :: trace) := prepared.cons (.inl rfl)
  cases found with
  | none => exact .failed _ prepared
  | some user =>
    simp only [done_bind]
    split
    · exact commit_concludes prepared (.changeUser userId named user List.mem_cons_self _)
    · apply Along.bind (getOrCreateDefaultRole_prepares _ prepared)
      · rintro role later ⟨grown, prepared⟩
        exact commit_concludes prepared (.changeUser userId named user (grown.subset List.mem_cons_self) _)
      · rintro error later ⟨_, prepared⟩
        exact .failed error prepared
      · cases request <;> cases requested <;> rfl

theorem roleOperation_concludes (operation : RoleOperation) (edits : operation.edits = true)
    (requested : request.roleOperation? = some operation)
    (named : request.row? app = operation.row?) (prepared : Prepared request trace) :
    (operation.program app).Along (fun _ _ => True) (Concludes app request)
      trace := by
  cases operation with
  | createRole data => exact concludes_map _ (createRole_concludes data requested prepared)
  | getAllRoles => cases edits
  | removeRole roleId => exact concludes_map _ (removeRole_concludes roleId requested prepared)
  | modifyRole roleId data => exact concludes_map _ (modifyRole_concludes roleId data requested prepared)
  | assignRole userId roleId => exact concludes_map _ (assignRole_concludes userId roleId named prepared)
  | revokeRole userId => exact concludes_map _ (revokeRole_concludes userId requested named prepared)

/-- What the gate lets through has read the subject of its token. -/
theorem gated_concludes (token : Token) (operation : UserOperation)
    (requested : request = .userEndpoint token operation)
    (resume : ∀ id (user : UserObject) (later : Trace Reply), request.row? app = some (.user id) →
      ⟨.getUser id, some user⟩ ∈ later → Prepared request later →
      (operation.program app user).Along (fun _ _ => True) (Concludes app request) later)
    (prepared : Prepared request trace) :
    (request.program app).Along (fun _ _ => True) (Concludes app request) trace := by
  subst requested
  apply concludes_session
  apply Along.bind (prepared_along
    (getTokenUser_along (fun _ _ => .inl rfl) token fun _ _ _ _ => .inl rfl) prepared)
  · rintro user later ⟨⟨time, payload, accepted, _, rfl⟩, prepared⟩
    refine resume payload.sub user _ ?_ List.mem_cons_self prepared
    rw [Request.row?, accepted.1]
    rfl
  · rintro error later ⟨_, prepared⟩
    exact .failed error prepared

/-- Every call of the services that writes ends as described. -/
theorem Request.concludes (app : App Token) (request : Request Token) (edits : request.edits = true) :
    (request.program app).Along (fun _ _ => True) (Concludes app request) [] := by
  have nothing : Prepared request [] := by
    intro exchange member
    cases member
  cases request with
  | createUser data =>
    exact concludes_session (concludes_map _ (createUser_concludes data rfl nothing))
  | userEndpoint token operation =>
    cases operation with
    | changeEmail data =>
      apply gated_concludes token _ rfl _ nothing
      intro id user later named seen prepared
      exact concludes_map _ (changeEmail_concludes data named seen prepared)
    | changePassword data =>
      apply gated_concludes token _ rfl _ nothing
      intro id user later named seen prepared
      exact concludes_map _ (changePassword_concludes data named seen prepared)
    | _ => cases edits
  | role operation =>
    exact concludes_session (roleOperation_concludes operation edits rfl rfl nothing)
  | roleEndpoint token operation =>
    apply Along.bind (prepared_along (ensureSuperuser_along (fun _ _ => .inl rfl) token) nothing)
    · rintro _ later ⟨_, prepared⟩
      exact concludes_session (roleOperation_concludes operation edits rfl rfl prepared)
    · rintro error later ⟨_, prepared⟩
      exact .failed error prepared
  | _ => cases edits

end Programs

section Steps

variable {Token : Type} (app : App Token) (request : Request Token) (before after : Database)

/-- A call that fetches the default role adds it, and only when no role has its title. -/
structure AddsDefaultRole : Prop where
  fetches : request.fetchesDefaultRole = true
  absent : before.roleByTitle? DEFAULT_ROLE_TITLE = none
  added : ∃ role, role.title = DEFAULT_ROLE_TITLE ∧
    after.toTables = { before.toTables with roles := before.roles ++ [role] }

/-- The row a call is about, which a creating call adds. -/
inductive IsAbout : RowId → Prop
  | named (row : RowId) (named : request.row? app = some row) : IsAbout row
  | createUser (data : UserCreateIn) (requested : request = .createUser data) (user : User)
      (email : user.email = data.email) (absent : before.user? user.id = none)
      (added : after.user? user.id = some user) : IsAbout (.user user.id)
  | createRole (data : RoleCreateIn) (requested : request.roleOperation? = some (.createRole data))
      (role : Role) (title : role.title = data.title) (accessLabels : role.accessLabels = data.accessLabels)
      (absent : before.role? role.id = none) (added : after.role? role.id = some role) :
      IsAbout (.role role.id)

/-- Nothing but the row changes, and the holders of a removed role lose it. -/
structure Confined (row : RowId) : Prop where
  users : ∀ id, row ≠ .user id → after.user? id = (before.user? id).map request.toOthers
  roles : ∀ id, row ≠ .role id → after.role? id = before.role? id
  oauthAccounts : after.oauthAccounts = before.oauthAccounts
  loginHistory : after.loginHistory = before.loginHistory

/-- The row the call is about changes, and no other. -/
structure EditsRow (row : RowId) : Prop where
  about : IsAbout app request before after row
  confined : Confined request before after row

variable {app request before after} {defaults : ModelDefaults} {now : Time}

theorem addsDefaultRole_of_written (fetches : request.fetchesDefaultRole = true) {id : UUID4}
    (written : before.writeAll defaults now
      [.insertRole ⟨id, DEFAULT_ROLE_TITLE, DEFAULT_ROLE_ACCESS_LABELS⟩] = .ok after) :
    AddsDefaultRole request before after := by
  have tables := Database.writeAll_insertRole written
  refine ⟨fetches, lookup_eq_none.mpr ?_, _, rfl, tables⟩
  have unique := after.consistent.roleTitles
  rw [tables] at unique
  exact not_mem_of_nodup_append unique

theorem Request.row?_of_role {operation : RoleOperation} {row : RowId}
    (requested : request.roleOperation? = some operation) (named : operation.row? = some row) :
    request.row? app = some row := by
  cases request <;> cases requested <;> exact named

/-- A request about an existing user row removes no role. -/
theorem Request.toOthers_of_user {userId : UUID4} (named : request.row? app = some (.user userId)) :
    request.toOthers = id := by
  have other {operation : RoleOperation} (named : operation.row? = some (.user userId)) :
      (Request.role operation : Request Token).toOthers = id := by
    cases operation <;> first | rfl | cases named
  cases request with
  | role operation => exact other named
  | roleEndpoint token operation => exact other named
  | _ => rfl

/-- A change of the row with the given id, and of no other. -/
theorem confined_of_user {userId : UUID4} {users : List User} (others : request.toOthers = id)
    (kept : ∀ id, id ≠ userId → lookup User.id users id = before.user? id)
    (tables : after.toTables = { before.toTables with users := users }) :
    Confined request before after (.user userId) where
  users id other := by
    rw [others, Option.map_id, Database.user?, tables]
    exact kept id fun same => other (congrArg RowId.user same.symm)
  roles id _ := by rw [Database.role?, tables]; rfl
  oauthAccounts := by rw [tables]
  loginHistory := by rw [tables]

theorem confined_of_role {roleId : UUID4} {roles : List Role}
    (kept : ∀ id, id ≠ roleId → lookup Role.id roles id = before.role? id)
    (tables : after.toTables = { before.toTables with
      roles := roles, users := before.users.map request.toOthers })
    (same : ∀ user, (request.toOthers user).id = user.id) :
    Confined request before after (.role roleId) where
  users id _ := by
    rw [Database.user?, tables]
    exact lookup_map same
  roles id other := by
    rw [Database.role?, tables]
    exact kept id fun same => other (congrArg RowId.role same.symm)
  oauthAccounts := by rw [tables]
  loginHistory := by rw [tables]

/-- The statements of the edit change its row. -/
theorem Edits.editsRow {trace : Trace Reply} {row : RowId} {writes : List Write}
    (edits : Edits app request trace row writes)
    (users : ∀ id (user : UserObject), ⟨.getUser id, some user⟩ ∈ trace → user.id = id)
    (roles : ∀ id role, ⟨.getRole id, some role⟩ ∈ trace → role.id = id)
    (written : before.writeAll defaults now writes = .ok after) :
    EditsRow app request before after row := by
  cases edits with
  | createUser data requested user email =>
    have tables := Database.writeAll_insertUser written
    have rows := congrArg Tables.users tables
    have unique := after.consistent.userIds
    rw [rows] at unique
    constructor
    · exact .createUser data requested (user.row defaults) email
        (lookup_eq_none.mpr (not_mem_of_nodup_append unique)) (Database.user?_of_inserted rows)
    · apply confined_of_user (by rw [requested]; rfl) _ tables
      exact fun id other => lookup_append_of_ne other.symm
  | changeUser id named loaded seen current =>
    obtain ⟨change, described, tables⟩ := Database.writeAll_userUpdate written
    constructor
    · exact .named _ named
    · apply confined_of_user (Request.toOthers_of_user named) _ tables
      intro other distinct
      rw [users id loaded seen]
      exact lookup_amend_of_ne described.id distinct
  | createRole role requested =>
    have tables := Database.writeAll_insertRole written
    have rows := congrArg Tables.roles tables
    have unique := after.consistent.roleIds
    rw [rows] at unique
    have kept : request.toOthers = id := by rw [Request.toOthers, requested]
    constructor
    · apply IsAbout.createRole _ requested (role.row defaults) rfl rfl
      · exact lookup_eq_none.mpr (not_mem_of_nodup_append unique)
      · apply Database.role?_of_mem
        rw [rows]
        exact List.mem_append_right _ List.mem_cons_self
    · apply @confined_of_role _ _ _ _ role.id (before.roles ++ [role.row defaults])
      · exact fun id other => lookup_append_of_ne other.symm
      · rw [kept, List.map_id]
        exact tables
      · rw [kept]
        exact fun user => rfl
  | removeRole id requested role seen =>
    have tables := Database.writeAll_deleteRole written
    have drops : request.toOthers = User.dropRole id := by rw [Request.toOthers, requested]
    rw [roles id role seen] at tables
    constructor
    · exact .named _ (Request.row?_of_role requested rfl)
    · apply confined_of_role _ (drops ▸ tables)
      · rw [drops]
        exact User.dropRole_id id
      · exact fun other distinct => lookup_discard_of_ne distinct
  | modifyRole id data requested role seen =>
    obtain ⟨change, described, tables⟩ := Database.writeAll_roleUpdate written
    have kept : request.toOthers = fun user => user := by rw [Request.toOthers, requested]; rfl
    rw [roles id role seen] at tables
    constructor
    · exact .named _ (Request.row?_of_role requested rfl)
    · apply @confined_of_role _ _ _ _ id (amend Role.id before.roles id change)
      · exact fun other distinct => lookup_amend_of_ne described.id distinct
      · rw [kept, List.map_id']
        exact tables
      · rw [kept]
        exact fun user => rfl

end Steps

section Runs

variable {Token : Type} {app : App Token} {condition : Condition Tid Reply World} {world : World}
  {requests : Tid → Request Token} {config : ServiceConfig Token} {past : List ServiceEvent} {tid : Tid}

/-- Every step of the call leaves the tables, or changes them in the given way. -/
def Contributes (config : ServiceConfig Token) (tid : Tid) (change : Database → Database → Prop) :
    Prop :=
  ∀ event ∈ config.past, event.thread = tid →
    event.after.db = event.before.db ∨ change event.before.db event.after.db

/-- A row the request inserted is there when it reads it again. -/
theorem inserted_refreshes (lawful : ServiceLawful app condition world requests past) {user : NewUser}
    {rest : Trace Reply} (inserted : ⟨.commit .request [.insertUser user], .ok ()⟩ ∈ rest) :
    ¬ ⟨.refreshUser user.id false, none⟩ :: rest <:+ traceOf past tid := by
  intro gone
  obtain ⟨event, older, suffix, rfl, same, rfl⟩ := event_of_trace_suffix gone
  have lawful := lawful.suffix suffix
  obtain ⟨newer, insertion, oldest, rfl, _, shape, _, _⟩ := seen_event lawful.2 inserted
  have written := event_db lawful.2.event
  rw [committed_of_exchange shape] at written
  have found := Database.user?_of_inserted
    (congrArg Tables.users (Database.writeAll_insertUser written))
  obtain ⟨row, there, _⟩ := flags_kept lawful.2 (List.suffix_append newer (insertion :: oldest)) _ _ found
  have reply := answers_refreshUser (event_answers lawful.1 same)
  change _ = ((stateAfter world _).db.user? user.id).map _ at reply
  rw [show (stateAfter world _).db.user? user.id = some row from there] at reply
  cases reply

/-- A step that prepares leaves the tables or adds the default role. -/
theorem prepares_step {specs : Tid → Trace Reply → Call → Prop} {older : List ServiceEvent}
    {event : ServiceEvent} (lawful : LawfulEvent answers condition specs world older event)
    {request : Request Token} (prepares : Prepares request event.exchange) :
    event.after.db = event.before.db ∨ AddsDefaultRole request event.before.db event.after.db := by
  rcases prepares with silent | ⟨fetches, id, shape⟩
  · exact .inl (db_of_committed_nil lawful silent)
  · have written := event_db lawful
    rw [committed_of_exchange rfl, shape] at written
    exact .inr (addsDefaultRole_of_written fetches written)

/-- In every interleaving, a finished call of the services that raised has changed no row, and one
that returned has changed the row it is about; a call that fetches the default role may have added
that role where there was none. -/
theorem service_call_confined (run : Reaches answers condition (started app world requests) config)
    (edits : (requests tid).edits = true) {outcome : Except Exn (Outcome Token)}
    (ended : (config.threads tid).outcome? = some outcome) :
    (∀ error, outcome = .error error → Contributes config tid (AddsDefaultRole (requests tid))) ∧
    ∀ value, outcome = .ok value → ∃ row, Contributes config tid fun before after =>
      AddsDefaultRole (requests tid) before after ∨ EditsRow app (requests tid) before after row := by
  have lawful := (service_course run).lawful
  have concludes : Concludes app (requests tid) (traceOf config.past tid) outcome := by
    have along (other : Tid) : ((requests other).program app).Along (fun _ _ => True)
        (fun trace outcome => (requests other).edits = true →
          Concludes app (requests other) trace outcome) [] := by
      apply along_ends
      exact fun edits => (requests other).concludes app edits
    exact (course_of_along _ _ run along).finished ended edits
  cases concludes with
  | failed error prepared =>
    refine ⟨fun _ _ event member mover => ?_, fun value same => by cases same⟩
    obtain ⟨newer, older, split⟩ := List.append_of_mem member
    rw [split] at lawful
    exact prepares_step lawful.event
      (prepared event.exchange (mem_traceOf.mpr ⟨event, member, mover, rfl⟩))
  | vanished error user rest inserted gone => exact absurd gone (inserted_refreshes lawful inserted)
  | edited value row edits =>
    refine ⟨fun _ same => by (cases same), fun _ _ => ⟨row, fun event member mover => ?_⟩⟩
    have whole := lawful
    obtain ⟨newer, older, split⟩ := List.append_of_mem member
    rw [split] at lawful
    rcases edits event.exchange (mem_traceOf.mpr ⟨event, member, mover, rfl⟩) with prepares | edits
    · exact (prepares_step lawful.event prepares).imp_right .inl
    · refine .inr (.inr (edits.editsRow ?_ ?_ (event_db lawful.event)))
      · intro id user seen
        obtain ⟨state, _, _, answered⟩ := seen_answer whole seen
        obtain ⟨row, found, rfl⟩ := Option.map_eq_some_iff.mp (answers_getUser answered).symm
        exact Database.user?_id found
      · intro id role seen
        obtain ⟨state, _, _, answered⟩ := seen_answer whole seen
        exact lookup_key (answers_getRole answered).symm

end Runs

/-- A second role with a title that is taken is refused, and nothing changes. -/
theorem service_call_confined_conflict : ∃ config : ServiceConfig Claims,
    (config.threads 0).outcome? = some (.error .roleAlreadyExistsError) ∧
      Contributes config 0 (AddsDefaultRole
        (pool [.role (.createRole ⟨DEFAULT_ROLE_TITLE, [.premium]⟩)] 0 : Request Claims)) := by
  have played : ((started transparentApp bootstrappedWorld
      (pool [.role (.createRole ⟨DEFAULT_ROLE_TITLE, [.premium]⟩)])).playAll World.answer unrestricted
      [move 0 3, move 0, move 0, move 0]).any (fun config =>
        decide ((config.threads 0).outcome? = some (.error .roleAlreadyExistsError))) = true := by decide
  obtain ⟨config, run, ended⟩ := Config.playAll_exists played
  have ended := of_decide_eq_true ended
  exact ⟨config, ended, (service_call_confined run rfl ended).1 _ rfl⟩

/-- The service over tables that the migrations have just created. -/
private def unstockedWorld : World := { bootstrappedWorld with db := (SchemaSetup.alembicUpgrade []).database }

theorem IsAbout.of_registration {Token : Type} {app : App Token} {data : UserCreateIn}
    {before after : Database} {row : RowId} (about : IsAbout app (.createUser data) before after row) :
    ∃ id, row = .user id := by
  cases about with
  | named _ named => cases named
  | createUser _ _ user => exact ⟨user.id, rfl⟩
  | createRole _ requested => cases requested

/-- The first registration in a database without roles adds two rows. -/
theorem first_registration_adds_role : ∃ (requests : Tid → Request Claims)
    (config : ServiceConfig Claims) (value : Outcome Claims),
    Reaches answers unrestricted (started transparentApp unstockedWorld requests) config ∧
      (∃ data, requests 0 = .createUser data) ∧ (config.threads 0).outcome? = some (.ok value) ∧
      ¬ ∃ row, Contributes config 0 (EditsRow transparentApp (requests 0) · · row) := by
  have played : ((started transparentApp unstockedWorld
      (pool [.createUser ⟨"a@example.com", "pw"⟩])).playAll World.answer unrestricted
      [move 0, move 0, move 0, move 0 1, move 0, move 0 3, move 0, move 0, move 0]).any (fun config =>
        (config.threads 0).value?.isSome &&
          config.past.any fun event => event.thread = 0 &&
            event.before.db.role? (numbered 1) ≠ event.after.db.role? (numbered 1)) = true := by
    decide
  obtain ⟨config, run, checked⟩ := Config.playAll_exists played
  rw [Bool.and_eq_true] at checked
  obtain ⟨value, returned⟩ := Option.isSome_iff_exists.mp checked.1
  obtain ⟨event, member, changes⟩ := List.any_eq_true.mp checked.2
  rw [Bool.and_eq_true, decide_eq_true_iff, decide_eq_true_iff] at changes
  refine ⟨_, config, value, run, ⟨_, rfl⟩, outcome?_eq_ok.mpr (value?_eq_some.mp returned), ?_⟩
  rintro ⟨row, contributes⟩
  rcases contributes event member changes.1 with same | edits
  · exact changes.2 (by rw [same])
  · apply changes.2
    symm
    apply edits.confined.roles
    rintro same
    obtain ⟨id, rfl⟩ := edits.about.of_registration
    cases same

end AuthApi
