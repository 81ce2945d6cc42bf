import AuthApi.Model.World

/-! # Exceptions

`Exn` lists what can leave a function of the service: the domain errors of the services with their
texts, the `HTTPException`s of the API layer, and the library errors nothing catches.
-/

namespace AuthApi

open Interleaving

/-- `fastapi.HTTPException` and its subclasses in `app/api/exceptions.py`. -/
structure HttpException where
  statusCode : ℕ
  detail : String
  headers : List (String × String) := []
deriving DecidableEq, Repr

def credentialsHttpException (detail : String := "Incorrect email or password") : HttpException :=
  ⟨401, detail, [("WWW-Authenticate", "Bearer")]⟩

def refreshHttpException (detail : String := "Invalid refresh token") : HttpException :=
  ⟨401, detail, [("WWW-Authenticate", "Bearer")]⟩

def rateLimitHttpException (retryAfterSeconds : ℤ := 1) : HttpException :=
  ⟨429, "Too many requests", [("Retry-After", toString (max 1 retryAfterSeconds))]⟩

def oauthStateHttpException (detail : String := "OAuth state is invalid or expired") :
    HttpException := ⟨400, detail, []⟩

def oauthProviderHttpException (detail : String := "OAuth provider is temporarily unavailable") :
    HttpException := ⟨502, detail, []⟩

def oauthCallbackHttpException (detail : String := "OAuth callback failed") : HttpException :=
  ⟨409, detail, []⟩

/-- `WrongPasswordHttpError`. -/
def wrongPasswordHttpError : HttpException := ⟨400, "Wrong password", []⟩

/-- `RoleAlreadyExistsHttpError`. -/
def roleAlreadyExistsHttpError : HttpException := ⟨400, "Role already exists", []⟩

/-- `UserNotFoundHttpError`. -/
def userNotFoundHttpError : HttpException := ⟨404, "User not found", []⟩

/-- `RoleNotFoundHttpError`. -/
def roleNotFoundHttpError : HttpException := ⟨404, "Role not found", []⟩

/-- `ProtectedRoleHttpError`. -/
def protectedRoleHttpError : HttpException := ⟨400, "Default role is protected", []⟩

inductive Exn where
  | wrongCredentialsError (detail : String)
  | refreshTokenError (detail : String)
  | userAlreadyExistsError (detail : String)
  | wrongPasswordError (detail : String)
  | emailAlreadyExistsError (detail : String)
  | userNotFoundError (detail : Option String)
  | roleAlreadyExistsError
  | roleNotFoundError
  | protectedRoleError
  | yandexIdStateError (detail : String)
  | yandexIdTokenError (detail : String)
  | yandexIdProviderError (detail : String)
  | yandexIdUserInfoError (detail : String)
  | yandexIdAccountConflictError (detail : String)
  | rateLimitStorageError (detail : String)
  | httpException (exception : HttpException)
  | requestValidationError (params : List String)
  | valueError (detail : String)
  | validationError
  | jsonError (error : JsonError)
  | unicodeEncodeError
  | dbError (error : DbError)
  | invalidRequestError
  | noInspectionAvailable
  | redisError (error : RedisError)
deriving DecidableEq, Repr

/-- What a coroutine of the service does: calls, then a result or an exception. -/
abbrev Action (α : Type) := Program Reply Exn α

/-- Issue one call of the service. -/
abbrev ask (call : Call) : Action (Reply call) := Program.perform call

/-- Turn the failure of a call into an exception. -/
def attempt {ε α : Type} (error : ε → Exn) : Except ε α → Action α
  | .ok value => .done value
  | .error failure => .raise (error failure)

@[simp] theorem attempt_ok {ε α : Type} (error : ε → Exn) (value : α) :
    attempt error (.ok value) = .done value := rfl

@[simp] theorem attempt_error {ε α : Type} (error : ε → Exn) (failure : ε) :
    attempt error (.error failure : Except ε α) = .raise (error failure) := rfl

/-- The check the database makes of the values of the next statement. -/
def accept (values : Bool) : Action Unit := if values then .done () else .raise (.dbError .data)

/-- `session.flush()`. -/
def flush (writes : List Write) : Action Unit :=
  .call (.flush writes) (attempt .dbError)

/-- `session.commit()`. -/
def commit (session : Session) (writes : List Write) : Action Unit :=
  .call (.commit session writes) (attempt .dbError)

/-- `session.rollback()`. -/
def rollback : Action Unit := .call .rollback .done

/-- `redis.get(key)`. -/
def redisGet (key : String) : Action (Option RedisValue) :=
  .call (.redisGet key) (attempt .redisError)

/-- `redis.setex(key, ttl, value)`. -/
def redisSetex (key : String) (ttl : ℤ) (value : RedisValue) : Action Unit :=
  .call (.redisSetex key ttl value) (attempt .redisError)

/-- `redis.getdel(key)`. -/
def redisGetdel (key : String) : Action (Option RedisValue) :=
  .call (.redisGetdel key) (attempt .redisError)

end AuthApi
