import AuthApi.Relational.Abstraction
import AuthApi.Run.Credentials

/-! # The password store

What the account operations are for: a partial map from user ids to an email and a password, which
registrations extend, successful changes update, and logins query. Every sequential run of the
operations over the hashed rows is a run of that map.
-/

namespace AuthApi

open Interleaving Interleaving.Program Relational Dependencies

/-- The operations on accounts. -/
def Request.managesAccounts {Token : Type} : Request Token → Bool
  | .createUser _ => true
  | .userEndpoint _ (.changeEmail _) => true
  | .userEndpoint _ (.changePassword _) => true
  | .authorize _ _ _ _ => true
  | .loginUser _ _ _ => true
  | _ => false

/-- The login by email and password. -/
def Request.isPasswordLogin {Token : Type} : Request Token → Bool
  | .loginUser _ _ _ => true
  | _ => false

/-- A finished request with what it saw. -/
structure Completed (Token : Type) where
  request : Request Token
  trace : Trace Reply
  outcome : Except Exn (Outcome Token)

/-- Requests one after another, each of which runs alone. -/
inductive Sequential {Token : Type} (app : App Token) : World → List (Completed Token) → World → Prop
  | nil (world : World) : Sequential app world [] world
  | cons {first middle last : World} {calls : List (Completed Token)} (tid : Tid)
      (call : Completed Token)
      (run : (call.request.program app).Runs (solo tid) (first, []) call.outcome (middle, call.trace))
      (rest : Sequential app middle calls last) : Sequential app first (call :: calls) last

theorem Sequential.of_run {Token : Type} {app : App Token} {first middle last : World} {tid : Tid}
    {request : Request Token} {outcome : Except Exn (Outcome Token)} {calls : List (Completed Token)}
    (run : (request.program app).Runs (alone anyDraw tid) first outcome middle)
    (rest : Sequential app middle calls last) :
    ∃ trace, Sequential app first (⟨request, trace, outcome⟩ :: calls) last := by
  obtain ⟨trace, run⟩ := @Runs.record _ _ _ _ _ _ _ _ _ _ [] run
  exact ⟨trace, .cons tid ⟨request, trace, outcome⟩ run rest⟩

/-- The email and the password of an account. -/
structure Credentials where
  email : String
  password : String

/-- The current credentials of every account. -/
abbrev PasswordStore := UUID4 → Option Credentials

namespace PasswordStore

/-- Some account has this email and this password. -/
def Admits (store : PasswordStore) (email password : String) : Prop :=
  ∃ id, store id = some ⟨email, password⟩

/-- What a finished operation does to the store. A login is rejected exactly if the store does not
admit it; a callback may register an account with a drawn password; what fails changes nothing. -/
inductive Step {Token : Type} (app : App Token) (store : PasswordStore) :
    Completed Token → PasswordStore → Prop
  | login (data : UserLoginData) (requestMeta : RequestMeta) (deviceInfo : Option DeviceInfo)
      (trace : Trace Reply) (outcome : Except Exn (Outcome Token))
      (decided : Rejected outcome ↔ ¬ store.Admits data.email data.password) :
      Step app store ⟨.loginUser data requestMeta deviceInfo, trace, outcome⟩ store
  | create (data : UserCreateIn) (trace : Trace Reply) (user : UserObject)
      (fresh : store user.id = none) :
      Step app store ⟨.createUser data, trace, .ok (.user user)⟩
        (Function.update store user.id (some ⟨data.email, data.password⟩))
  | changeEmail (token : Token) (data : UserChangeEmailIn) (trace : Trace Reply)
      (payload : AccessTokenPayload) (subject : app.accessPayload token = some payload)
      (email : String) (held : store payload.sub = some ⟨email, data.password⟩) :
      Step app store ⟨.userEndpoint token (.changeEmail data), trace, .ok .unit⟩
        (Function.update store payload.sub (some ⟨data.email, data.password⟩))
  | changePassword (token : Token) (data : UserChangePasswordIn) (trace : Trace Reply)
      (payload : AccessTokenPayload) (subject : app.accessPayload token = some payload)
      (email : String) (held : store payload.sub = some ⟨email, data.oldPassword⟩) :
      Step app store ⟨.userEndpoint token (.changePassword data), trace, .ok .unit⟩
        (Function.update store payload.sub (some ⟨email, data.newPassword⟩))
  | authorize (code : String) (state : UUID) (requestMeta : RequestMeta) (deviceInfo : DeviceInfo)
      (trace : Trace Reply) (outcome : Except Exn (Outcome Token)) :
      Step app store ⟨.authorize code state requestMeta deviceInfo, trace, outcome⟩ store
  | register (code : String) (state : UUID) (requestMeta : RequestMeta) (deviceInfo : DeviceInfo)
      (trace : Trace Reply) (pair : TokenData Token) (profile : YandexIdUserData)
      (fetched : SawProfile app trace profile) (id secret : UUID4) (fresh : store id = none)
      (drawn : ⟨.uuid4, secret⟩ ∈ trace) :
      Step app store ⟨.authorize code state requestMeta deviceInfo, trace, .ok (.tokens pair)⟩
        (Function.update store id (some ⟨profile.defaultEmail, secret.val.str⟩))
  | failed (request : Request Token) (trace : Trace Reply) (error : Exn)
      (other : request.isPasswordLogin = false) : Step app store ⟨request, trace, .error error⟩ store

/-- The store after a list of finished operations. -/
inductive Runs {Token : Type} (app : App Token) :
    PasswordStore → List (Completed Token) → PasswordStore → Prop
  | nil (store : PasswordStore) : Runs app store [] store
  | cons {first middle last : PasswordStore} {call : Completed Token} {calls : List (Completed Token)}
      (step : Step app first call middle) (rest : Runs app middle calls last) :
      Runs app first (call :: calls) last

section Represents

variable {Token : Type} (app : App Token)

/-- The row of an account has its email and a hash of its password. -/
def Holds (credentials : Credentials) (row : User) : Prop :=
  row.email = credentials.email ∧
    ∃ salt, row.passwordHash = app.passwordHash.hash credentials.password salt

/-- The users of the database are the accounts of the store. -/
def Represents (store : PasswordStore) (db : Database) : Prop :=
  Abstracts User.id (Holds app) store db.users

variable {app} {store : PasswordStore} {before after : Database}

theorem Represents.of_users (represents : store.Represents app before)
    (same : after.users = before.users) : store.Represents app after := by
  rw [Represents, same]
  exact represents

/-- An added user is a new account. -/
theorem Represents.adds {id : UUID4} {email password : String}
    (represents : store.Represents app before)
    (added : GainsUser app before.users id email password after.users) :
    store id = none ∧ Represents app (Function.update store id (some ⟨email, password⟩)) after := by
  obtain ⟨row, salt, users, rfl, rfl, hash⟩ := added
  have fresh : row.id ∉ before.users.map User.id := by
    have unique := after.consistent.userIds
    rw [users, List.map_append, List.map_singleton, List.nodup_append_comm] at unique
    exact (List.nodup_cons.mp unique).1
  constructor
  · exact represents.eq_none.mpr fresh
  · rw [Represents, users]
    exact represents.insert fresh ⟨rfl, salt, hash⟩

/-- A changed user is a changed account. -/
theorem Represents.updates {user current : User} {credentials : Credentials}
    (represents : store.Represents app before) (found : before.user? user.id = some user)
    (updated : UpdatesUser before.users user current after.users) (holds : Holds app credentials current) :
    Represents app (Function.update store user.id (some credentials)) after := by
  obtain ⟨change, described, users⟩ := updated
  rw [Represents, users]
  apply Abstracts.amend represents described.id found
  constructor
  · rw [described.email]
    exact (changed_getD _ _).trans holds.1
  · obtain ⟨salt, hash⟩ := holds.2
    refine ⟨salt, ?_⟩
    rw [described.passwordHash]
    exact (changed_getD _ _).trans hash

section Verified

variable (verifies : ∀ password other salt,
  app.passwordHash.verify password (app.passwordHash.hash other salt) = true ↔ password = other)
include verifies

/-- The rows that a login finds and verifies are the accounts that admit it. -/
theorem Represents.admits_iff {email password : String} (represents : store.Represents app before) :
    store.Admits email password ↔ ∃ user ∈ before.users, user.email = email ∧
      app.passwordHash.verify password user.passwordHash = true := by
  rw [← @Abstracts.exists_iff _ _ _ _ User.id (Holds app) store before.users
    (fun credentials => credentials = ⟨email, password⟩) _ represents before.consistent.userIds]
  · exact exists_congr fun id => by simp
  · rintro ⟨known, secret⟩ row ⟨rfl, salt, hash⟩
    rw [hash, verifies, Credentials.mk.injEq]
    exact and_congr_right fun _ => eq_comm

/-- The account of a user who proved a password. -/
theorem Represents.held {user : User} {password : String} (represents : store.Represents app before)
    (found : before.user? user.id = some user)
    (verified : app.passwordHash.verify password user.passwordHash = true) :
    store user.id = some ⟨user.email, password⟩ ∧
      ∃ salt, user.passwordHash = app.passwordHash.hash password salt := by
  obtain ⟨⟨email, secret⟩, held, same, salt, hash⟩ := represents.of_lookup found
  rw [hash, verifies] at verified
  constructor
  · rw [held, verified, same]
  · exact ⟨salt, verified ▸ hash⟩

end Verified

end Represents

end PasswordStore

section Operations

variable {Token : Type} {app : App Token} {tid : Tid} {before : World} {store : PasswordStore}

/-- The run of a request is a step of the store. -/
def RefinesStore (app : App Token) (store : PasswordStore) (request : Request Token)
    (outcome : Except Exn (Outcome Token)) (after : World × Trace Reply) : Prop :=
  ∃ next, store.Step app ⟨request, after.2, outcome⟩ next ∧ next.Represents app after.1.db

/-- A request with a simple effect: a success is a step of the store, a failure changes nothing. -/
theorem refines_of_transacts {request : Request Token} {program : Action (Outcome Token)}
    {success : Outcome Token → List User → Prop} (represents : store.Represents app before.db)
    (other : request.isPasswordLogin = false)
    (transacts : program.Alone (solo tid)
      (fun outcome after => Transacts before.db.users success outcome after.1.db.users) (before, []))
    (succeeds : ∀ value (trace : Trace Reply) (after : Database), success value after.users →
      ∃ next, store.Step app ⟨request, trace, .ok value⟩ next ∧ next.Represents app after) :
    program.Alone (solo tid) (RefinesStore app store request) (before, []) := by
  apply transacts.mono
  rintro outcome ⟨after, trace⟩ ends
  cases outcome with
  | ok value => exact succeeds value trace after.db ends
  | error error => exact ⟨store, .failed request trace error other, represents.of_users ends⟩

theorem createUser_refines (represents : store.Represents app before.db) (data : UserCreateIn) :
    ((Request.createUser data).program app).Alone (solo tid) (RefinesStore app store (.createUser data))
      (before, []) := by
  apply refines_of_transacts represents rfl
    (session_users (Transacts.request .user (createUser_users data)))
  rintro _ trace after ⟨user, rfl, added⟩
  obtain ⟨fresh, next⟩ := represents.adds added
  exact ⟨_, .create data trace user fresh, next⟩

theorem authorize_refines (represents : store.Represents app before.db) (code : String) (state : UUID)
    (requestMeta : RequestMeta) (deviceInfo : DeviceInfo) :
    ((Request.authorize code state requestMeta deviceInfo).program app).Alone (solo tid)
      (RefinesStore app store (.authorize code state requestMeta deviceInfo)) (before, []) := by
  apply (authorize_session code state requestMeta deviceInfo).mono
  rintro outcome ⟨after, trace⟩ (kept | ⟨pair, profile, id, rfl, fetched, secret, drawn, added⟩)
  · exact ⟨store, .authorize code state requestMeta deviceInfo trace outcome, represents.of_users kept⟩
  · obtain ⟨fresh, next⟩ := represents.adds added
    exact ⟨_, .register code state requestMeta deviceInfo trace pair profile fetched id secret fresh
      drawn, next⟩

section Verified

variable (verifies : ∀ password other salt,
  app.passwordHash.verify password (app.passwordHash.hash other salt) = true ↔ password = other)
include verifies

theorem loginUser_refines (represents : store.Represents app before.db) (data : UserLoginData)
    (requestMeta : RequestMeta) (deviceInfo : Option DeviceInfo) :
    ((Request.loginUser data requestMeta deviceInfo).program app).Alone (solo tid)
      (RefinesStore app store (.loginUser data requestMeta deviceInfo)) (before, []) := by
  apply Alone.mono _ (session_users (p := fun outcome users => users = before.db.users ∧
    (Rejected outcome ↔ ¬ ∃ user ∈ before.db.users, user.email = data.email ∧
      app.passwordHash.verify data.password user.passwordHash = true))
    (Alone.bind (loginUser_users data requestMeta deviceInfo) _ _))
  · rintro outcome ⟨after, trace⟩ ⟨users, decided⟩
    rw [← represents.admits_iff verifies] at decided
    exact ⟨store, .login data requestMeta deviceInfo trace outcome decided, represents.of_users users⟩
  · rintro pair after ⟨users, decided⟩
    refine ⟨users, ?_⟩
    rw [← decided]
    simp
  · rintro error after ⟨users, decided⟩
    refine ⟨users, ?_⟩
    rw [← decided, rejected_error, rejected_error]

theorem changeEmail_refines (represents : store.Represents app before.db) (token : Token)
    (data : UserChangeEmailIn) :
    ((Request.userEndpoint token (.changeEmail data)).program app).Alone (solo tid)
      (RefinesStore app store (.userEndpoint token (.changeEmail data))) (before, []) := by
  apply refines_of_transacts represents rfl (changeEmail_gated token data)
  rintro _ trace after ⟨rfl, user, payload, subject, found, verified, _, rfl, updated⟩
  have same := Database.user?_id found
  rw [← same] at found
  obtain ⟨held, hash⟩ := represents.held verifies found verified
  have next := @PasswordStore.Represents.updates _ app store before.db after user _
    ⟨data.email, data.password⟩ represents found updated ⟨rfl, hash⟩
  rw [same] at held next
  exact ⟨_, .changeEmail token data trace payload subject user.email held, next⟩

theorem changePassword_refines (represents : store.Represents app before.db) (token : Token)
    (data : UserChangePasswordIn) :
    ((Request.userEndpoint token (.changePassword data)).program app).Alone (solo tid)
      (RefinesStore app store (.userEndpoint token (.changePassword data))) (before, []) := by
  apply refines_of_transacts represents rfl (changePassword_gated token data)
  rintro _ trace after ⟨rfl, user, payload, subject, found, verified, _, ⟨salt, rfl⟩, updated⟩
  have same := Database.user?_id found
  rw [← same] at found
  have held := (represents.held verifies found verified).1
  have next := @PasswordStore.Represents.updates _ app store before.db after user _
    ⟨user.email, data.newPassword⟩ represents found updated ⟨rfl, salt, rfl⟩
  rw [same] at held next
  exact ⟨_, .changePassword token data trace payload subject user.email held, next⟩

theorem Request.refines {request : Request Token} (managed : request.managesAccounts = true)
    (represents : store.Represents app before.db) :
    (request.program app).Alone (solo tid) (RefinesStore app store request) (before, []) := by
  cases request with
  | loginUser data requestMeta deviceInfo =>
    exact loginUser_refines verifies represents data requestMeta deviceInfo
  | createUser data => exact createUser_refines represents data
  | userEndpoint token operation =>
    cases operation with
    | changeEmail data => exact changeEmail_refines verifies represents token data
    | changePassword data => exact changePassword_refines verifies represents token data
    | _ => cases managed
  | authorize code state requestMeta deviceInfo =>
    exact authorize_refines represents code state requestMeta deviceInfo
  | _ => cases managed

end Verified

end Operations

/-- Every sequential run of the account operations is a run of the password store: from an initial
store that represents the users, through the steps of the finished requests, to a store that
represents the users the run leaves. -/
theorem password_store_refined {Token : Type} {app : App Token}
    (verifies : ∀ password other salt,
      app.passwordHash.verify password (app.passwordHash.hash other salt) = true ↔ password = other)
    {first last : World} {calls : List (Completed Token)}
    (managed : ∀ call ∈ calls, call.request.managesAccounts = true)
    (run : Sequential app first calls last) {store : PasswordStore}
    (initial : store.Represents app first.db) :
    ∃ final, store.Runs app calls final ∧ final.Represents app last.db := by
  induction run generalizing store with
  | nil world => exact ⟨store, .nil store, initial⟩
  | cons tid call run rest ih =>
    obtain ⟨here, later⟩ := List.forall_mem_cons.mp managed
    obtain ⟨next, step, represents⟩ := (Request.refines verifies here initial).run run
    obtain ⟨final, runs, represented⟩ := ih later represents
    exact ⟨final, .cons step runs, represented⟩

/-- The superuser of the start-up commands. -/
private def opening : PasswordStore := fun id =>
  (bootstrappedDb.user? id).map fun row => ⟨row.email, row.passwordHash⟩

private theorem opening_represents : opening.Represents transparentApp bootstrappedDb := by
  intro id
  unfold opening Database.user?
  cases lookup User.id bootstrappedDb.users id with
  | none => exact .none
  | some row => exact .some ⟨rfl, "", rfl⟩

private def renews : Request Claims :=
  .userEndpoint (adminAccess 1) (.changePassword ⟨"password", "better"⟩)

private def enters (password : String) : Request Claims :=
  .loginUser ⟨"admin@example.com", password⟩ ⟨none, none⟩ none

/-- The request, from the given world, with the listed draws. -/
private def plays (request : Request Claims) (draws : List ℕ) (before : World)
    (check : Except Exn (Outcome Claims) → World → Bool) : Bool :=
  ((request.program transparentApp).replay (freshAnswer anyDraw 0) before
    (draws.map fun n => (move 0 n).2)).any fun ended => check ended.1 ended.2

private def accepts (outcome : Except Exn (Outcome Claims)) (_ : World) : Bool :=
  match outcome with
  | .ok (.tokens _) => true
  | _ => false

private def rejectsThenAccepts (outcome : Except Exn (Outcome Claims)) (after : World) : Bool :=
  match outcome with
  | .error (.wrongCredentialsError _) => plays (enters "better") [0, 0, 7, 0, 8, 9, 0, 0] after accepts
  | _ => false

private def renewsThenRejects (_ : Except Exn (Outcome Claims)) (after : World) : Bool :=
  plays (enters "password") [0, 0] after rejectsThenAccepts

/-- The superuser changes its password; the old one is rejected and the new one is not. -/
theorem password_store_refined_change : ∃ renewed old new last final,
    Sequential transparentApp bootstrappedWorld [renewed, old, new] last ∧
      opening.Runs transparentApp [renewed, old, new] final ∧ final.Represents transparentApp last.db ∧
      Rejected old.outcome ∧ ¬ Rejected new.outcome := by
  have played : plays renews [0, 0, 0, 0, 0] bootstrappedWorld renewsThenRejects = true := by decide
  obtain ⟨changed, middle, first, played⟩ := replay_exists played
  obtain ⟨rejected, unchanged, second, played⟩ := replay_exists played
  unfold rejectsThenAccepts at played
  split at played
  · next detail =>
    obtain ⟨accepted, last, third, passed⟩ := replay_exists played
    obtain ⟨newTrace, run⟩ := Sequential.of_run third (.nil last)
    obtain ⟨oldTrace, run⟩ := Sequential.of_run second run
    obtain ⟨trace, run⟩ := Sequential.of_run first run
    obtain ⟨final, runs, represents⟩ :=
      password_store_refined (fun password other salt => decide_eq_true_iff)
        (by simp [renews, enters, Request.managesAccounts]) run
        opening_represents
    refine ⟨_, _, _, last, final, run, runs, represents, ⟨detail, rfl⟩, ?_⟩
    rintro ⟨other, same⟩
    simp only at same
    rw [same] at passed
    cases passed
  · cases played

end AuthApi
