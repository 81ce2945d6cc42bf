import AuthApi.Model.AuthService

/-! # Role administration and the two gates of the API

`RoleService`, and the dependencies that decide who may call what: `getTokenUser` compares the
token version with the stored one, `ensureSuperuser` reads the token only.
-/

namespace AuthApi

open Interleaving Interleaving.Program DbHelpers

structure RoleCreateIn where
  title : String
  accessLabels : List AccessLabel
deriving DecidableEq, Repr

structure RoleCreateOut where
  id : UUID4
  title : String
  accessLabels : List AccessLabel
deriving DecidableEq, Repr

/-- The UPDATE of one changed role; without a change there is no statement. -/
def roleUpdate (loaded current : Role) : List Write :=
  if RolePatch.diff loaded current = {} then []
  else [.updateRole loaded.id (RolePatch.diff loaded current)]

namespace RoleService

variable {Token : Type} (app : App Token)

def createRole (roleDataIn : RoleCreateIn) : Action RoleCreateOut := do
  let id ← ask .uuid4
  accept (app.storesKey roleDataIn.title)
  try
    commit .request [.insertRole ⟨id, roleDataIn.title, roleDataIn.accessLabels⟩]
  catch error =>
    match error with
    | .dbError .integrity => do
      rollback
      throw .roleAlreadyExistsError
    | other => throw other
  return ⟨id, roleDataIn.title, roleDataIn.accessLabels⟩

def removeRole (roleId : UUID4) : Action Unit := do
  match ← ask (.getRole roleId) with
  | none => throw .roleNotFoundError
  | some role =>
    if role.title = DEFAULT_ROLE_TITLE then throw .protectedRoleError
    else commit .request [.deleteRole role.id]

def modifyRole (roleId : UUID4) (modifyRoleData : RoleCreateIn) : Action Unit := do
  match ← ask (.getRole roleId) with
  | none => throw .roleNotFoundError
  | some role =>
    if role.title = DEFAULT_ROLE_TITLE ∧ modifyRoleData.title ≠ DEFAULT_ROLE_TITLE then
      throw .protectedRoleError
    else do
      accept (role.title = modifyRoleData.title || app.storesKey modifyRoleData.title)
      try
        commit .request (roleUpdate role
          { role with title := modifyRoleData.title, accessLabels := modifyRoleData.accessLabels })
      catch error =>
        match error with
        | .dbError .integrity => do
          rollback
          throw .roleAlreadyExistsError
        | other => throw other

def getAllRoles : Action (List RoleCreateOut) := do
  let roles ← ask .selectRoles
  return roles.map fun role => ⟨role.id, role.title, role.accessLabels⟩

def assignRole (userId roleId : UUID4) : Action Unit := do
  match ← ask (.getUser userId) with
  | none => throw (.userNotFoundError none)
  | some user =>
    match ← ask (.getRole roleId) with
    | none => throw .roleNotFoundError
    | some _ => commit .request (userUpdate user.toUser { user.toUser with roleId := some roleId })

def revokeRole (userId : UUID4) : Action Unit := do
  match ← ask (.getUser userId) with
  | none => throw (.userNotFoundError none)
  | some user =>
    if user.isSuperuser then
      commit .request (userUpdate user.toUser { user.toUser with roleId := none })
    else do
      let defaultRole ← getOrCreateDefaultRole
      commit .request (userUpdate user.toUser { user.toUser with roleId := some defaultRole.id })

end RoleService

namespace Dependencies

variable {Token : Type} (app : App Token)

/-- The literal type of the payload makes the check of its `type` redundant. -/
def getAccessTokenPayload (token : Token) : Action AccessTokenPayload := do
  let now ← ask .now
  match app.jwt.decode token now with
  | .error .expired => throw (.httpException (credentialsHttpException "Token has expired"))
  | .error .invalid => throw (.httpException (credentialsHttpException "Invalid token"))
  | .ok claims =>
    match AccessTokenPayload.modelValidate claims with
    | none => throw (.httpException (credentialsHttpException "Invalid token payload"))
    | some payload => return payload

def getTokenUser (token : Token) : Action UserObject := do
  let payload ← getAccessTokenPayload app token
  match ← ask (.getUser payload.sub) with
  | none => throw (.httpException (credentialsHttpException "User not found"))
  | some user =>
    if payload.tv = user.tokenVersion then return user
    else throw (.httpException (credentialsHttpException "Token version mismatch"))

def ensureSuperuser (token : Token) : Action Unit := do
  let payload ← getAccessTokenPayload app token
  if payload.isSuperuser then return ()
  else throw (.httpException (credentialsHttpException "User is not a superuser"))

end Dependencies

end AuthApi
