import AuthApi.Model.RoleRoutes
import AuthApi.Run.Programs

/-! # The role operations

What an operation of `RoleService` commits, by what it has read, and how it ends. Each operation is walked
through once here. Only `create_role` and `modify_role` handle an error of their commit, an
`IntegrityError`; any other leaves the operation as it is.
-/

namespace AuthApi

open Interleaving Interleaving.Program DbHelpers

/-- The calls of an operation, by what it has read. -/
inductive RoleOperation.Issues : RoleOperation → Trace Reply → Call → Prop
  | silent {trace : Trace Reply} (operation : RoleOperation) (call : Call)
      (silent : call.isSilent = true) : Issues operation trace call
  | createRole {trace : Trace Reply} (data : RoleCreateIn) (id : UUID4) :
      Issues (.createRole data) trace (.commit .request [.insertRole ⟨id, data.title, data.accessLabels⟩])
  | removeRole {trace : Trace Reply} (roleId : UUID4) (role : Role)
      (seen : ⟨.getRole roleId, some role⟩ ∈ trace) (free : role.title ≠ DEFAULT_ROLE_TITLE) :
      Issues (.removeRole roleId) trace (.commit .request [.deleteRole role.id])
  | modifyRole {trace : Trace Reply} (roleId : UUID4) (data : RoleCreateIn) (role : Role)
      (seen : ⟨.getRole roleId, some role⟩ ∈ trace)
      (guarded : role.title = DEFAULT_ROLE_TITLE → data.title = DEFAULT_ROLE_TITLE) :
      Issues (.modifyRole roleId data) trace (.commit .request (roleUpdate role
        { role with title := data.title, accessLabels := data.accessLabels }))
  | assignRole {trace : Trace Reply} (userId roleId : UUID4) (user : UserObject) (role : Role)
      (seen : ⟨.getUser userId, some user⟩ ∈ trace) (found : ⟨.getRole roleId, some role⟩ ∈ trace) :
      Issues (.assignRole userId roleId) trace (.commit .request (userUpdate user.toUser
        { user.toUser with roleId := some roleId }))
  | strip {trace : Trace Reply} (userId : UUID4) (user : UserObject)
      (seen : ⟨.getUser userId, some user⟩ ∈ trace) (superuser : user.isSuperuser = true) :
      Issues (.revokeRole userId) trace (.commit .request (userUpdate user.toUser
        { user.toUser with roleId := none }))
  | defaultRole {trace : Trace Reply} (userId id : UUID4)
      (absent : ⟨.selectRoleByTitle DEFAULT_ROLE_TITLE, none⟩ ∈ trace) :
      Issues (.revokeRole userId) trace (.commit .defaultRole
        [.insertRole ⟨id, DEFAULT_ROLE_TITLE, DEFAULT_ROLE_ACCESS_LABELS⟩])
  | revoke {trace : Trace Reply} (userId roleId : UUID4) (user : UserObject)
      (seen : ⟨.getUser userId, some user⟩ ∈ trace) (saw : SawDefaultRole trace roleId) :
      Issues (.revokeRole userId) trace (.commit .request (userUpdate user.toUser
        { user.toUser with roleId := some roleId }))

/-- The role operation a request asks for, with or without the gate. -/
def Request.roleOperation? {Token : Type} : Request Token → Option RoleOperation
  | .role operation => some operation
  | .roleEndpoint _ operation => some operation
  | _ => none

/-- The errors of a commit that an operation handles. -/
def RoleOperation.handles : RoleOperation → DbError → Bool
  | .createRole _, .integrity => true
  | .modifyRole _ _, .integrity => true
  | _, _ => false

/-- A failed commit that the operation does not handle. -/
def RoleOperation.escapedCommit (operation : RoleOperation) : Exchange Reply → Bool
  | ⟨.commit _ _, .error error⟩ => !operation.handles error
  | _ => false

/-- The error is one of the domain, and the route answers it with a status of the 400s. -/
def RoleOperation.Reports (operation : RoleOperation) (error : Exn) : Prop :=
  error ∈ [.roleNotFoundError, .roleAlreadyExistsError, .protectedRoleError, .userNotFoundError none] ∧
    ∃ exception, operation.routeError error = .httpException exception ∧
      400 ≤ exception.statusCode ∧ exception.statusCode < 500

/-- By this reply the operation goes on to write a title that the database cannot store. -/
def RoleOperation.unstorable {Token : Type} (app : App Token) : RoleOperation → Exchange Reply → Bool
  | .createRole data, ⟨.uuid4, _⟩ => !app.storesKey data.title
  | .modifyRole roleId data, ⟨.getRole id, some read⟩ =>
    id = roleId && read.title ≠ DEFAULT_ROLE_TITLE && read.title ≠ data.title && !app.storesKey data.title
  | _, _ => false

/-- No commit has escaped, and no title has turned out unstorable. -/
def RoleOperation.Quiet {Token : Type} (app : App Token) (operation : RoleOperation) (trace : Trace Reply) :
    Prop :=
  ∀ exchange ∈ trace, operation.escapedCommit exchange = false ∧ operation.unstorable app exchange = false

/-- How an operation may end: well, or with an error of the database that it does not handle. -/
inductive RoleEnds {Token α : Type} (app : App Token) (operation : RoleOperation) (trace : Trace Reply) :
    Except Exn α → Prop
  | succeeded (value : α) (quiet : operation.Quiet app trace) : RoleEnds app operation trace (.ok value)
  | reported (error : Exn) (reports : operation.Reports error) (quiet : operation.Quiet app trace) :
      RoleEnds app operation trace (.error error)
  | failed (error : DbError) (loud : ¬ operation.Quiet app trace) :
      RoleEnds app operation trace (.error (.dbError error))

section Programs

variable {Token : Type} {app : App Token} {operation : RoleOperation} {trace : Trace Reply}

theorem RoleOperation.quiet_cons {exchange : Exchange Reply} : operation.Quiet app (exchange :: trace) ↔
    (operation.escapedCommit exchange = false ∧ operation.unstorable app exchange = false) ∧
      operation.Quiet app trace := by
  simp [Quiet]

theorem RoleOperation.Quiet.cons {exchange : Exchange Reply} (quiet : operation.Quiet app trace)
    (accepted : operation.escapedCommit exchange = false) (storable : operation.unstorable app exchange = false) :
    operation.Quiet app (exchange :: trace) :=
  quiet_cons.mpr ⟨⟨accepted, storable⟩, quiet⟩

theorem RoleOperation.Quiet.read (quiet : operation.Quiet app trace) (call : Call) (reply : Reply call)
    (accepted : operation.escapedCommit ⟨call, reply⟩ = false)
    (storable : operation.unstorable app ⟨call, reply⟩ = false) : operation.Quiet app (⟨call, reply⟩ :: trace) :=
  quiet.cons accepted storable

theorem RoleOperation.not_quiet_of_escaped {exchange : Exchange Reply}
    (escaped : operation.escapedCommit exchange = true) : ¬ operation.Quiet app (exchange :: trace) := by
  intro quiet
  rw [(quiet_cons.mp quiet).1.1] at escaped
  cases escaped

theorem RoleOperation.not_quiet_of_unstorable {exchange : Exchange Reply}
    (unstorable : operation.unstorable app exchange = true) : ¬ operation.Quiet app (exchange :: trace) := by
  intro quiet
  rw [(quiet_cons.mp quiet).1.2] at unstorable
  cases unstorable

/-- A step that is quiet itself does not change how the operation ended. -/
theorem RoleEnds.cons {α : Type} {outcome : Except Exn α} {exchange : Exchange Reply}
    (ends : RoleEnds app operation trace outcome) (accepted : operation.escapedCommit exchange = false)
    (storable : operation.unstorable app exchange = false) :
    RoleEnds app operation (exchange :: trace) outcome := by
  cases ends with
  | succeeded value quiet => exact .succeeded value (quiet.cons accepted storable)
  | reported error reports quiet => exact .reported error reports (quiet.cons accepted storable)
  | failed error loud => exact .failed error fun quiet => loud (RoleOperation.quiet_cons.mp quiet).2

/-- An operation that ends with its commit, and handles no error of it. -/
theorem commit_ends {session : Session} {writes : List Write}
    (unhandled : ∀ error, operation.handles error = false)
    (storable : ∀ reply, operation.unstorable app ⟨.commit session writes, reply⟩ = false)
    (quiet : operation.Quiet app trace) (issues : operation.Issues trace (.commit session writes)) :
    (commit session writes).Along operation.Issues (RoleEnds app operation) trace := by
  refine ⟨issues, fun reply => ?_⟩
  cases reply with
  | ok _ => exact .succeeded () (quiet.cons rfl (storable _))
  | error error =>
    have escaped : operation.escapedCommit ⟨.commit session writes, .error error⟩ = true := by
      simp [RoleOperation.escapedCommit, unhandled error]
    exact .failed error (RoleOperation.not_quiet_of_escaped escaped)

theorem createRole_ends {data : RoleCreateIn} (quiet : (RoleOperation.createRole data).Quiet app trace) :
    (RoleService.createRole app data).Along (RoleOperation.createRole data).Issues
      (RoleEnds app (.createRole data)) trace := by
  refine ⟨.silent _ _ rfl, fun id => along_accept (fun stores => ?_) fun refused => ?_⟩
  · have storable : (RoleOperation.createRole data).unstorable app ⟨.uuid4, id⟩ = false := by
      simp [RoleOperation.unstorable, stores]
    have quiet := quiet.read .uuid4 id rfl storable
    refine ⟨.createRole data id, fun reply => ?_⟩
    rcases reply with (_ | _ | _) | _
    · refine ⟨.silent _ _ rfl, fun _ => ?_⟩
      exact .reported _ ⟨by simp, _, rfl, by decide⟩ ((quiet.cons rfl rfl).cons rfl rfl)
    · exact .failed _ (RoleOperation.not_quiet_of_escaped rfl)
    · exact .failed _ (RoleOperation.not_quiet_of_escaped rfl)
    · exact .succeeded _ (quiet.cons rfl rfl)
  · exact .failed _ (RoleOperation.not_quiet_of_unstorable (by simp [RoleOperation.unstorable, refused]))

theorem removeRole_ends {roleId : UUID4} (quiet : (RoleOperation.removeRole roleId).Quiet app trace) :
    (RoleService.removeRole roleId).Along (RoleOperation.removeRole roleId).Issues
      (RoleEnds app (.removeRole roleId)) trace := by
  refine ⟨.silent _ _ rfl, fun found => ?_⟩
  have quiet := quiet.read (.getRole roleId) found rfl rfl
  cases found with
  | none => exact .reported _ ⟨by simp, _, rfl, by decide⟩ quiet
  | some role =>
    simp only [done_bind]
    split
    · exact .reported _ ⟨by simp, _, rfl, by decide⟩ quiet
    · next free =>
      exact commit_ends (fun _ => rfl) (fun _ => rfl) quiet (.removeRole roleId role List.mem_cons_self free)

theorem modifyRole_ends {roleId : UUID4} {data : RoleCreateIn}
    (quiet : (RoleOperation.modifyRole roleId data).Quiet app trace) :
    (RoleService.modifyRole app roleId data).Along (RoleOperation.modifyRole roleId data).Issues
      (RoleEnds app (.modifyRole roleId data)) trace := by
  refine ⟨.silent _ _ rfl, fun found => ?_⟩
  cases found with
  | none => exact .reported _ ⟨by simp, _, rfl, by decide⟩ (quiet.read (.getRole roleId) none rfl rfl)
  | some role =>
    simp only [done_bind]
    split
    · next refused =>
      have refused : role.title = DEFAULT_ROLE_TITLE ∧ data.title ≠ DEFAULT_ROLE_TITLE := by simpa using refused
      have storable :
          (RoleOperation.modifyRole roleId data).unstorable app ⟨.getRole roleId, some role⟩ = false := by
        simp [RoleOperation.unstorable, refused.1]
      exact .reported _ ⟨by simp, _, rfl, by decide⟩ (quiet.read (.getRole roleId) (some role) rfl storable)
    · next guarded =>
      have guarded : role.title = DEFAULT_ROLE_TITLE → data.title = DEFAULT_ROLE_TITLE := by simpa using guarded
      refine along_accept (fun stores => ?_) fun refused => ?_
      · have storable :
            (RoleOperation.modifyRole roleId data).unstorable app ⟨.getRole roleId, some role⟩ = false := by
          simp only [Bool.or_eq_true, decide_eq_true_eq] at stores
          obtain same | stores := stores
          · simp [RoleOperation.unstorable, same]
          · simp [RoleOperation.unstorable, stores]
        have quiet := quiet.read (.getRole roleId) (some role) rfl storable
        refine ⟨.modifyRole roleId data role List.mem_cons_self guarded, fun reply => ?_⟩
        rcases reply with (_ | _ | _) | _
        · refine ⟨.silent _ _ rfl, fun _ => ?_⟩
          exact .reported _ ⟨by simp, _, rfl, by decide⟩ ((quiet.cons rfl rfl).cons rfl rfl)
        · exact .failed _ (RoleOperation.not_quiet_of_escaped rfl)
        · exact .failed _ (RoleOperation.not_quiet_of_escaped rfl)
        · exact .succeeded _ (quiet.cons rfl rfl)
      · simp only [Bool.or_eq_false_iff, decide_eq_false_iff_not] at refused
        obtain ⟨differs, refused⟩ := refused
        have renamed : role.title ≠ DEFAULT_ROLE_TITLE := fun default =>
          differs (default.trans (guarded default).symm)
        refine .failed _ (RoleOperation.not_quiet_of_unstorable ?_)
        simp [RoleOperation.unstorable, renamed, differs, refused]

theorem assignRole_ends {userId roleId : UUID4} (quiet : (RoleOperation.assignRole userId roleId).Quiet app trace) :
    (RoleService.assignRole userId roleId).Along (RoleOperation.assignRole userId roleId).Issues
      (RoleEnds app (.assignRole userId roleId)) trace := by
  refine ⟨.silent _ _ rfl, fun found => ?_⟩
  have quiet := quiet.read (.getUser userId) found rfl rfl
  cases found with
  | none => exact .reported _ ⟨by simp, _, rfl, by decide⟩ quiet
  | some user =>
    refine ⟨.silent _ _ rfl, fun role => ?_⟩
    have quiet := quiet.read (.getRole roleId) role rfl rfl
    cases role with
    | none => exact .reported _ ⟨by simp, _, rfl, by decide⟩ quiet
    | some role =>
      exact commit_ends (fun _ => rfl) (fun _ => rfl) quiet (.assignRole userId roleId user role (by simp) (by simp))

/-- The default role is found or created, or the commit that creates it escapes. -/
theorem getOrCreateDefaultRole_ends {userId : UUID4} (quiet : (RoleOperation.revokeRole userId).Quiet app trace) :
    DbHelpers.getOrCreateDefaultRole.Along (RoleOperation.revokeRole userId).Issues
      (fun later outcome => RoleEnds app (.revokeRole userId) later outcome ∧ trace <:+ later ∧
        ∀ role, outcome = .ok role → SawDefaultRole later role.id) trace := by
  refine ⟨.silent _ _ rfl, fun found => ?_⟩
  have quiet := quiet.read (.selectRoleByTitle DEFAULT_ROLE_TITLE) found rfl rfl
  cases found with
  | some role =>
    refine ⟨.succeeded _ quiet, List.suffix_cons _ _, ?_⟩
    rintro _ ⟨⟩
    exact .inl ⟨role, rfl, List.mem_cons_self⟩
  | none =>
    refine ⟨.silent _ _ rfl, fun id => ?_⟩
    refine ⟨.defaultRole userId id (by simp), fun reply => ?_⟩
    cases reply with
    | ok _ =>
      refine ⟨.succeeded _ ((quiet.cons rfl rfl).cons rfl rfl), ⟨[_, _, _], rfl⟩, ?_⟩
      rintro _ ⟨⟩
      exact .inr List.mem_cons_self
    | error error =>
      exact ⟨.failed _ (RoleOperation.not_quiet_of_escaped rfl), ⟨[_, _, _], rfl⟩, nofun⟩

theorem revokeRole_ends {userId : UUID4} (quiet : (RoleOperation.revokeRole userId).Quiet app trace) :
    (RoleService.revokeRole userId).Along (RoleOperation.revokeRole userId).Issues
      (RoleEnds app (.revokeRole userId)) trace := by
  refine ⟨.silent _ _ rfl, fun found => ?_⟩
  have quiet := quiet.read (.getUser userId) found rfl rfl
  cases found with
  | none => exact .reported _ ⟨by simp, _, rfl, by decide⟩ quiet
  | some user =>
    simp only [done_bind]
    split
    · next superuser =>
      exact commit_ends (fun _ => rfl) (fun _ => rfl) quiet (.strip userId user List.mem_cons_self superuser)
    · apply Along.bind (@getOrCreateDefaultRole_ends _ app _ _ quiet)
      · rintro role later ⟨ends, grown, saw⟩
        cases ends with
        | succeeded _ quiet =>
          apply commit_ends (fun _ => rfl) (fun _ => rfl) quiet
          exact .revoke userId role.id user (grown.subset List.mem_cons_self) (saw role rfl)
      · rintro error later ⟨ends, _⟩
        cases ends with
        | reported _ reports quiet => exact .reported error reports quiet
        | failed error loud => exact .failed error loud

/-- How every operation ends. -/
theorem RoleOperation.ends (operation : RoleOperation) (quiet : operation.Quiet app trace) :
    (operation.program app).Along operation.Issues (RoleEnds app operation) trace := by
  have wrapped {α : Type} {body : Action α} (wrap : α → Outcome Token)
      (along : body.Along operation.Issues (RoleEnds app operation) trace) :
      (body.bind fun value => .done (wrap value)).Along operation.Issues (RoleEnds app operation) trace := by
    apply Along.bind along
    · intro value later ends
      cases ends with
      | succeeded _ quiet => exact .succeeded _ quiet
    · intro error later ends
      cases ends with
      | reported _ reports quiet => exact .reported error reports quiet
      | failed error loud => exact .failed error loud
  cases operation with
  | createRole data => exact wrapped .role (createRole_ends quiet)
  | getAllRoles =>
    exact ⟨.silent _ _ rfl, fun _ => .succeeded _ (quiet.cons rfl rfl)⟩
  | removeRole roleId => exact wrapped (fun _ => .unit) (removeRole_ends quiet)
  | modifyRole roleId data => exact wrapped (fun _ => .unit) (modifyRole_ends quiet)
  | assignRole userId roleId => exact wrapped (fun _ => .unit) (assignRole_ends quiet)
  | revokeRole userId => exact wrapped (fun _ => .unit) (revokeRole_ends quiet)

end Programs

section Requests

variable {Token : Type} {app : App Token} {operation : RoleOperation}

/-- The gate refused the token of the request. -/
def Request.Refused (request : Request Token) (operation : RoleOperation) {α : Type} (outcome : Except Exn α) :
    Prop :=
  ∃ token detail, request = .roleEndpoint token operation ∧
    outcome = .error (.httpException (credentialsHttpException detail))

theorem Request.ends_role (request : Request Token) (named : request.roleOperation? = some operation) :
    (request.program app).Along operation.Issues
      (fun later outcome => RoleEnds app operation later outcome ∨
        request.Refused operation outcome ∧ operation.Quiet app later) [] := by
  have session {trace : Trace Reply} (quiet : operation.Quiet app trace) :
      (withSession (operation.program app)).Along operation.Issues
        (RoleEnds app operation) trace := by
    apply along_withSession fun _ => .silent _ _ rfl
    apply (operation.ends quiet).mono fun _ _ admitted => admitted
    exact fun later outcome ends => ends.cons rfl (by cases operation <;> rfl)
  cases request with
  | role given =>
    cases named
    exact (session (by simp [RoleOperation.Quiet])).mono (fun _ _ admitted => admitted) fun _ _ => .inl
  | roleEndpoint token given =>
    cases named
    have quiet (time : Time) : operation.Quiet app [⟨.now, time⟩] := by
      simp [RoleOperation.Quiet, RoleOperation.escapedCommit, RoleOperation.unstorable]
    apply Along.bind (ensureSuperuser_along (fun _ => .silent _ _ rfl) token)
    · rintro _ _ ⟨time, rfl, _⟩
      exact (session (quiet time)).mono (fun _ _ admitted => admitted) fun _ _ => .inl
    · rintro error _ ⟨time, rfl, _, detail, rfl⟩
      exact .inr ⟨⟨token, detail, rfl, rfl⟩, quiet time⟩
  | _ => cases named

end Requests

end AuthApi
