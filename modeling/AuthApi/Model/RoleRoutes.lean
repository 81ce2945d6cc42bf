import AuthApi.Model.Requests

/-! # The routes of the role administration

Every route calls one operation of `RoleService` behind `ensure_superuser`. Its `except` clauses answer some
of the errors with an HTTP error, and an error that none of them names leaves the route as it is.
-/

namespace AuthApi

open Interleaving Interleaving.Program

/-- A route raises another error in place of the one its operation raised. -/
def raising {α : Type} (translate : Exn → Exn) (body : Action α) : Action α := do
  try body
  catch error => throw (translate error)

namespace RoutesRole

variable {Token : Type} (app : App Token)

def createRoleError : Exn → Exn
  | .roleAlreadyExistsError => .httpException roleAlreadyExistsHttpError
  | other => other

/-- `POST /roles`. -/
def createRole (roleDataIn : RoleCreateIn) : Action RoleCreateOut :=
  raising createRoleError (RoleService.createRole app roleDataIn)

/-- `GET /roles`. -/
def listRoles : Action (List RoleCreateOut) := RoleService.getAllRoles

def deleteRoleError : Exn → Exn
  | .roleNotFoundError => .httpException roleNotFoundHttpError
  | .protectedRoleError => .httpException protectedRoleHttpError
  | other => other

/-- `DELETE /roles/{role_id}`. -/
def deleteRole (roleId : UUID4) : Action Unit := raising deleteRoleError (RoleService.removeRole roleId)

def modifyRoleError : Exn → Exn
  | .roleNotFoundError => .httpException roleNotFoundHttpError
  | .roleAlreadyExistsError => .httpException roleAlreadyExistsHttpError
  | .protectedRoleError => .httpException protectedRoleHttpError
  | other => other

/-- `PATCH /roles/{role_id}`. -/
def modifyRole (roleId : UUID4) (modifyRoleData : RoleCreateIn) : Action Unit :=
  raising modifyRoleError (RoleService.modifyRole app roleId modifyRoleData)

def assignRoleError : Exn → Exn
  | .roleNotFoundError => .httpException roleNotFoundHttpError
  | .userNotFoundError _ => .httpException userNotFoundHttpError
  | other => other

/-- `POST /roles/assign`. -/
def assignRole (userId roleId : UUID4) : Action Unit :=
  raising assignRoleError (RoleService.assignRole userId roleId)

def revokeRoleError : Exn → Exn
  | .userNotFoundError _ => .httpException userNotFoundHttpError
  | other => other

/-- `POST /roles/revoke`. -/
def revokeRole (userId : UUID4) : Action Unit := raising revokeRoleError (RoleService.revokeRole userId)

end RoutesRole

namespace RoleOperation

open RoutesRole

variable {Token : Type} (app : App Token)

/-- The route of an operation. -/
def route : RoleOperation → Action (Outcome Token)
  | .createRole data => do return .role (← RoutesRole.createRole app data)
  | .getAllRoles => do return .roles (← RoutesRole.listRoles)
  | .removeRole roleId => do RoutesRole.deleteRole roleId; return .unit
  | .modifyRole roleId data => do RoutesRole.modifyRole app roleId data; return .unit
  | .assignRole userId roleId => do RoutesRole.assignRole userId roleId; return .unit
  | .revokeRole userId => do RoutesRole.revokeRole userId; return .unit

/-- What the route raises for an error of its operation. -/
def routeError : RoleOperation → Exn → Exn
  | .createRole _ => createRoleError
  | .getAllRoles => id
  | .removeRole _ => deleteRoleError
  | .modifyRole _ _ => modifyRoleError
  | .assignRole _ _ => assignRoleError
  | .revokeRole _ => revokeRoleError

end RoleOperation

section Routes

variable {Token : Type} {app : App Token}

theorem raising_id {α : Type} (body : Action α) : raising id body = body := by
  induction body with
  | done value => rfl
  | raise error => rfl
  | call request next ih =>
    change Program.call request (fun reply => raising id (next reply)) = _
    simp only [ih]

/-- The result of a route may be wrapped inside or outside. -/
theorem raising_bind {α β : Type} (translate : Exn → Exn) (body : Action α) (wrap : α → β) :
    (raising translate body >>= fun value => pure (wrap value)) =
      raising translate (body >>= fun value => pure (wrap value)) := by
  induction body with
  | done value => rfl
  | raise error => rfl
  | call request next ih =>
    change Program.call request (fun reply => raising translate (next reply) >>= fun value => pure (wrap value)) =
      Program.call request fun reply => raising translate (next reply >>= fun value => pure (wrap value))
    simp only [ih]

/-- A route is its operation with the errors translated. -/
theorem RoleOperation.route_eq (operation : RoleOperation) :
    operation.route app = raising operation.routeError (operation.program app) := by
  cases operation with
  | getAllRoles => exact (raising_id _).symm
  | _ => exact raising_bind _ _ _

end Routes

end AuthApi
