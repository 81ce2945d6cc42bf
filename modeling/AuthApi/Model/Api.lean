import AuthApi.Model.Endpoints

/-! # The HTTP API

One constructor of `ApiRequest` for each route the application mounts, with everything the route reads. Parsed
cookies and headers that hold a token are given apart from the request, since tokens are abstract here. The email of a
body is not its text but what `EmailStr` returns for it.
-/

namespace AuthApi

open Interleaving Interleaving.Program

structure AssignRoleIn where
  roleId : UUID4
  userId : UUID4
deriving DecidableEq, Repr

/-- The path parameter `role_id` is the text between the slashes. -/
inductive ApiRequest (Token : Type) where
  | issueTokens (http : HttpRequest) (body : RequestBody UserLoginData)
  | refreshTokens (http : HttpRequest) (refreshCookie : Option Token)
  | logout (http : HttpRequest) (refreshCookie : Option Token)
  | logoutOthers (http : HttpRequest) (credentials : AuthorizationCredentials Token)
  | createUser (http : HttpRequest) (body : RequestBody UserCreateIn)
  | userInfo (http : HttpRequest) (credentials : AuthorizationCredentials Token)
  | changeEmail (http : HttpRequest) (credentials : AuthorizationCredentials Token)
    (body : RequestBody UserChangeEmailIn)
  | changePassword (http : HttpRequest) (credentials : AuthorizationCredentials Token)
      (body : RequestBody UserChangePasswordIn)
  | getLoginHistory (http : HttpRequest) (credentials : AuthorizationCredentials Token)
  | createRole (http : HttpRequest) (credentials : AuthorizationCredentials Token) (body : RequestBody RoleCreateIn)
  | listRoles (http : HttpRequest) (credentials : AuthorizationCredentials Token)
  | deleteRole (http : HttpRequest) (credentials : AuthorizationCredentials Token) (roleId : String)
  | modifyRole (http : HttpRequest) (credentials : AuthorizationCredentials Token) (roleId : String)
      (body : RequestBody RoleCreateIn)
  | assignRole (http : HttpRequest) (credentials : AuthorizationCredentials Token) (body : RequestBody AssignRoleIn)
  | revokeRole (http : HttpRequest) (credentials : AuthorizationCredentials Token) (body : RequestBody UUID4)
  | oauthLogin (http : HttpRequest)
  | confirmLoginYandex (http : HttpRequest)
deriving DecidableEq, Repr

namespace ApiRequest

variable {Token : Type} (app : App Token)

def http : ApiRequest Token → HttpRequest
  | .issueTokens http _ => http
  | .refreshTokens http _ => http
  | .logout http _ => http
  | .logoutOthers http _ => http
  | .createUser http _ => http
  | .userInfo http _ => http
  | .changeEmail http _ _ => http
  | .changePassword http _ _ => http
  | .getLoginHistory http _ => http
  | .createRole http _ _ => http
  | .listRoles http _ => http
  | .deleteRole http _ _ => http
  | .modifyRole http _ _ _ => http
  | .assignRole http _ _ => http
  | .revokeRole http _ _ => http
  | .oauthLogin http => http
  | .confirmLoginYandex http => http

/-- A response without a model. -/
def bare (route : Action (HttpResponse Token)) : Action (ApiResponse Token) := do
  let response ← route
  return { toHttpResponse := response }

/-- A route that has read a body; what its reading raises is answered inside the middleware. -/
def receiving {α : Type} (request : HttpRequest) (body : RequestBody α)
    (route : Option α → Action (ApiResponse Token)) : Action (ApiResponse Token) :=
  match body.read with
  | .error error => apiMiddleware app request (throw error)
  | .ok data => route data

/-- The routes of the own account distinguish credentials and no credentials only. -/
def withCredentials (request : HttpRequest) (credentials : AuthorizationCredentials Token)
    (route : Option Token → Action (HttpResponse Token)) : Action (ApiResponse Token) :=
  match credentials with
  | .otherScheme => apiMiddleware app request (throw otherSchemeError)
  | .missing => bare (route none)
  | .bearer token => bare (route (some token))

/-- A path parameter of type `UUID4`. -/
def roleIdParam (text : String) : Option UUID4 := (app.pydantic.uuid text).bind UUID.toUUID4

/-- The parameters of a role operation, or the names of those that fail validation. -/
def validated (params : List (String × Bool)) (operation : Option RoleOperation) :
    Except (List String) RoleOperation :=
  match operation with
  | some operation => .ok operation
  | none => .error ((params.filter fun param => !param.2).map Prod.fst)

def program : ApiRequest Token → Action (ApiResponse Token)
  | .issueTokens http body => receiving app http body fun data => bare (AuthApi.issueTokens app http data)
  | .refreshTokens http refreshCookie => bare (RoutesAuth.refreshTokens app http refreshCookie)
  | .logout http refreshCookie => bare (RoutesAuth.logout app http refreshCookie)
  | .logoutOthers http credentials => bare (RoutesAuth.logoutOthers app http credentials)
  | .createUser http body => receiving app http body fun data => RoutesUser.createUser app http data
  | .userInfo http credentials => RoutesUser.userInfo app http credentials
  | .changeEmail http credentials body => receiving app http body fun data =>
      withCredentials app http credentials fun token => changeEmailRoute app http token data
  | .changePassword http credentials body => receiving app http body fun data =>
      withCredentials app http credentials fun token => changePasswordRoute app http token data
  | .getLoginHistory http credentials => RoutesUser.getLoginHistory app http credentials
  | .createRole http credentials body => receiving app http body fun data =>
      RoutesRole.behindGate app http credentials (validated [("body", data.isSome)] (data.map .createRole))
  | .listRoles http credentials => RoutesRole.behindGate app http credentials (.ok .getAllRoles)
  | .deleteRole http credentials roleId =>
      let roleId := roleIdParam app roleId
      RoutesRole.behindGate app http credentials
        (validated [("role_id", roleId.isSome)] (roleId.map .removeRole))
  | .modifyRole http credentials roleId body => receiving app http body fun data =>
      let roleId := roleIdParam app roleId
      RoutesRole.behindGate app http credentials
        (validated [("role_id", roleId.isSome), ("body", data.isSome)] (do return .modifyRole (← roleId) (← data)))
  | .assignRole http credentials body => receiving app http body fun data =>
      RoutesRole.behindGate app http credentials
        (validated [("body", data.isSome)] (data.map fun data => .assignRole data.userId data.roleId))
  | .revokeRole http credentials body => receiving app http body fun data =>
      RoutesRole.behindGate app http credentials (validated [("body", data.isSome)] (data.map .revokeRole))
  | .oauthLogin http => bare (AuthApi.oauthLogin app http)
  | .confirmLoginYandex http => bare (AuthApi.confirmLoginYandex app http)

end ApiRequest

section Runs

variable {Token : Type} (app : App Token)

/-- One HTTP request for each number, none of which has started. -/
def receivedAll (world : World) (requests : Tid → ApiRequest Token) :
    Config Tid Reply World Exn (ApiResponse Token) :=
  .start world fun tid => (requests tid).program app

abbrev ApiConfig (Token : Type) := Config Tid Reply World Exn (ApiResponse Token)

end Runs

section Validation

variable (pydantic : Pydantic) (fields : List (String × Json))

/-- The fields `email: EmailStr` and `password: str` of a body. -/
def readEmailAndPassword : Option (String × String) := do
  let text name := (Json.field? fields name).bind Json.str?
  let email ← (text "email").bind pydantic.emailStr
  let password ← text "password"
  return (email, password)

def UserLoginData.modelValidate : Option UserLoginData :=
  (readEmailAndPassword pydantic fields).map fun (email, password) => { email, password }

def UserCreateIn.modelValidate : Option UserCreateIn :=
  (readEmailAndPassword pydantic fields).map fun (email, password) => { email, password }

def UserChangeEmailIn.modelValidate : Option UserChangeEmailIn :=
  (readEmailAndPassword pydantic fields).map fun (email, password) => { email, password }

variable {pydantic fields} {email password : String}

/-- A body that is accepted has both texts, and its email is read by `EmailStr`. -/
theorem readEmailAndPassword_eq_some :
    readEmailAndPassword pydantic fields = some (email, password) ↔
      ∃ text, (Json.field? fields "email").bind Json.str? = some text ∧ pydantic.emailStr text = some email ∧
        (Json.field? fields "password").bind Json.str? = some password := by
  unfold readEmailAndPassword
  simp only [Option.bind_eq_bind, Option.bind_eq_some_iff, Option.pure_def, Option.some.injEq, Prod.mk.injEq]
  constructor
  · rintro ⟨_, ⟨text, given, normal⟩, _, secret, rfl, rfl⟩
    exact ⟨text, given, normal, secret⟩
  · rintro ⟨text, given, normal, secret⟩
    exact ⟨_, ⟨text, given, normal⟩, _, secret, rfl, rfl⟩

/-- The email of an accepted body is the normal form of its text. -/
theorem modelValidate_email {Body : Type} {make : String × String → Body} {body : Body} {text : String}
    (read : (readEmailAndPassword pydantic fields).map make = some body)
    (given : (Json.field? fields "email").bind Json.str? = some text) :
    ∃ email password, pydantic.emailStr text = some email ∧ make (email, password) = body := by
  obtain ⟨⟨email, password⟩, accepted, made⟩ := Option.map_eq_some_iff.mp read
  obtain ⟨other, same, normal, _⟩ := readEmailAndPassword_eq_some.mp accepted
  obtain rfl := Option.some.inj (given.symm.trans same)
  exact ⟨email, password, normal, made⟩

end Validation

end AuthApi
