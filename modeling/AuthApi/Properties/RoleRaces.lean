import AuthApi.Run.RoleWrites

/-! # Role requests at the same time

Every operation reads first and commits later, and another request may delete the role in between. Only
`create_role` and `modify_role` handle an `IntegrityError` of their commit: an assignment of a role that is
gone escapes as one, and an edit of it as a `StaleDataError`. A title that the database cannot store is
refused with a `DBAPIError`, which nothing handles.
-/

namespace AuthApi

open Interleaving Interleaving.Program Relational

/-- What an operation may commit, by what it has read. -/
def RoleOperation.Writes (operation : RoleOperation) (trace : Trace Reply) (writes : List Write) : Prop :=
  match operation with
  | .createRole data => ∃ id, writes = [.insertRole ⟨id, data.title, data.accessLabels⟩]
  | .getAllRoles => False
  | .removeRole _ => ∃ id, writes = [.deleteRole id]
  | .modifyRole roleId data => ∃ read, ⟨.getRole roleId, some read⟩ ∈ trace ∧
      writes = roleUpdate read { read with title := data.title, accessLabels := data.accessLabels }
  | .assignRole userId roleId => ∃ user : UserObject, ⟨.getUser userId, some user⟩ ∈ trace ∧
      writes = userUpdate user.toUser { user.toUser with roleId := some roleId }
  | .revokeRole userId => ⟨.selectRoleByTitle DEFAULT_ROLE_TITLE, none⟩ ∈ trace ∨
      ∃ (user : UserObject) (roleId : Option UUID4), ⟨.getUser userId, some user⟩ ∈ trace ∧
        (∀ id ∈ roleId, SawDefaultRole trace id) ∧
        writes = userUpdate user.toUser { user.toUser with roleId := roleId }

/-- The commits of an operation contain what it may write. -/
def RoleOperation.Commits (operation : RoleOperation) (trace : Trace Reply) (call : Call) : Prop :=
  ∀ session writes, call = .commit session writes → operation.Writes trace writes

section Programs

variable {operation : RoleOperation} {trace : Trace Reply}

theorem RoleOperation.Issues.commits {call : Call} (issues : operation.Issues trace call) :
    operation.Commits trace call := by
  rintro session writes rfl
  cases issues with
  | silent _ _ silent => cases silent
  | createRole data id => exact ⟨id, rfl⟩
  | removeRole roleId role _ _ => exact ⟨role.id, rfl⟩
  | modifyRole roleId data role seen _ => exact ⟨role, seen, rfl⟩
  | assignRole userId roleId user role seen _ => exact ⟨user, seen, rfl⟩
  | strip userId user seen _ => exact .inr ⟨user, none, seen, nofun, rfl⟩
  | defaultRole userId id absent => exact .inl absent
  | revoke userId roleId user seen saw =>
    refine .inr ⟨user, some roleId, seen, ?_, rfl⟩
    rintro _ ⟨⟩
    exact saw

end Programs

section Events

variable {Token : Type} {app : App Token} {condition : Condition Tid Reply World} {world : World}
  {requests : Tid → Request Token} {older : List ServiceEvent} {event : ServiceEvent} {default : UUID4}
  {operation : RoleOperation} {session : Session} {writes : List Write}

end Events

section Runs

variable {Token : Type} {app : App Token} {request : Request Token} {operation : RoleOperation}

/-- The request succeeded, or raised one of the domain errors its route answers, or was refused a 401 by the
gate. -/
def Request.Answered (request : Request Token) (operation : RoleOperation) {α : Type}
    (outcome : Except Exn α) : Prop :=
  (∃ value, outcome = .ok value) ∨ (∃ error, outcome = .error error ∧ operation.Reports error) ∨
    request.Refused operation outcome

variable {condition : Condition Tid Reply World} {world : World} {requests : Tid → Request Token}
  {config : ServiceConfig Token} {default : UUID4}

end Runs

end AuthApi
