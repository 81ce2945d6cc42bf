import AuthApi.Run.Issuance
import AuthApi.Run.StateCache

/-! # Recorded logins

A login commits its history row once, with an id it has just drawn and for the user it issued the
pair for. No other request inserts into `login_history`, so every row there has an id that was drawn
for it.
-/

namespace AuthApi

open Interleaving Interleaving.Program DbHelpers Dependencies

/-- The statement inserts into `login_history`. -/
def Write.isHistory : Write → Bool
  | .insertLoginHistory _ => true
  | _ => false

/-- The row a statement adds to `login_history`. -/
def Write.historyRow? (now : Time) : Write → Option LoginHistory
  | .insertLoginHistory entry => some (entry.row now)
  | _ => none

/-- A commit that contains a history row. -/
def Call.records : Call → Bool
  | .commit _ writes => writes.any Write.isHistory
  | _ => false

/-- Nothing was recorded yet. -/
def Unrecorded (trace : Trace Reply) : Prop := ∀ exchange ∈ trace, exchange.request.records = false

theorem unrecorded_cons {exchange : Exchange Reply} {trace : Trace Reply} :
    Unrecorded (exchange :: trace) ↔ exchange.request.records = false ∧ Unrecorded trace := by
  simp [Unrecorded]

/-- A request may record a login once, with a fresh id, of a user whose row it has read. -/
def RecordsOnce (trace : Trace Reply) (call : Call) : Prop :=
  call.records = true → Unrecorded trace ∧ ∃ entry rest user,
    call = .commit .request [.insertLoginHistory entry] ∧ trace = ⟨.uuid4, entry.id⟩ :: rest ∧
      SawUser trace user ∧ entry.userId = user.id

/-- The pair was issued for the user whose login was committed or refused. -/
def LoginCommitted {Token : Type} (app : App Token) (trace : Trace Reply)
    (outcome : Except Exn (TokenData Token)) : Prop :=
  ∀ pair, outcome = .ok pair → ∃ entry reply user, IssuedFor app trace user pair ∧
    entry.userId = user.id ∧ ⟨.commit .request [.insertLoginHistory entry], reply⟩ ∈ trace

/-- The calls of the other requests. -/
abbrev Unrecording : Trace Reply → Call → Prop := fun _ call => call.records = false

section Programs

variable {Token : Type} {app : App Token} {trace : Trace Reply}

theorem along_unrecording {α : Type} {program : Action α} {post : Trace Reply → Except Exn α → Prop}
    (along : program.Along Unrecording post trace) :
    program.Along RecordsOnce post trace :=
  along.mono (fun _ _ plain attempted => by rw [plain] at attempted; cases attempted)
    fun _ _ ends => ends

/-- A part that records nothing keeps the trace unrecorded. -/
theorem along_unrecorded {α : Type} {program : Action α} {post : Trace Reply → Except Exn α → Prop}
    (along : program.Along Unrecording post trace) (unrecorded : Unrecorded trace) :
    program.Along RecordsOnce (fun later outcome => post later outcome ∧ Unrecorded later) trace :=
  along_unrecording (along.keeps (fun _ _ _ plain before => unrecorded_cons.mpr ⟨plain, before⟩)
    unrecorded)

/-- The block at the end of a login. -/
theorem saveLoginHistory_records {user copy : UserObject} {pair : TokenData Token}
    (unrecorded : Unrecorded trace) (saw : SawUser trace copy) (same : user.id = copy.id)
    (issued : IssuedFor app trace user pair)
    (requestMeta : RequestMeta) (deviceInfo : Option DeviceInfo) :
    (saveLoginHistory user.id requestMeta deviceInfo).Along RecordsOnce
      (fun later outcome => outcome = .ok () → LoginCommitted app later (.ok pair)) trace := by
  refine ⟨nofun, fun id => ⟨fun _ => ⟨unrecorded_cons.mpr ⟨rfl, unrecorded⟩, _, trace, copy, rfl, rfl,
    saw.mono (List.suffix_cons _ _), same⟩, fun reply => ?_⟩⟩
  have committed (tail : Trace Reply) : LoginCommitted app (tail ++
      ⟨.commit .request [.insertLoginHistory (buildLoginHistory id user.id requestMeta deviceInfo)],
        reply⟩ :: ⟨.uuid4, id⟩ :: trace) (.ok pair) := by
    rintro _ ⟨⟩
    refine ⟨_, reply, user, issued.mono ?_, rfl, List.mem_append_right tail List.mem_cons_self⟩
    exact (List.suffix_append [_, _] trace).trans (List.suffix_append tail _)
  cases reply with
  | ok _ => exact fun _ => committed []
  | error error => exact ⟨nofun, fun _ _ => committed [⟨.rollback, ()⟩]⟩

theorem loginUser_records (data : UserLoginData) (requestMeta : RequestMeta)
    (deviceInfo : Option DeviceInfo) (unrecorded : Unrecorded trace) :
    (AuthService.loginUser app data requestMeta deviceInfo).Along RecordsOnce (LoginCommitted app)
      trace := by
  refine ⟨nofun, fun found => ?_⟩
  cases found with
  | none => exact nofun
  | some user =>
    simp only [done_bind]
    split
    · have saw : SawUser (⟨.selectUserByEmail data.email true, some user⟩ :: trace) user :=
        ⟨_, List.mem_cons_self, rfl⟩
      apply Along.bind (along_unrecorded (issueTokenPair_along (fun _ => by rfl) (fun _ => by rfl) user)
        (unrecorded_cons.mpr ⟨rfl, unrecorded⟩))
      · rintro pair later ⟨⟨grown, issued⟩, unrecorded⟩
        apply Along.bind (saveLoginHistory_records unrecorded (saw.mono grown) rfl issued
          requestMeta deviceInfo)
        · exact fun _ _ recorded => recorded rfl
        · exact fun _ _ _ => nofun
      · exact fun _ _ _ => nofun
    · exact nofun

/-- A silent call records nothing. -/
theorem Call.records_of_silent {call : Call} (silent : call.isSilent = true) : call.records = false := by
  cases call with
  | commit session writes => cases silent
  | _ => rfl

private theorem resolveUser_unrecording (profile : YandexIdUserData) :
    (YandexIdService.resolveUser app profile).Along Unrecording (ResolveEnds app profile trace) trace :=
  resolveUser_along profile (fun _ _ => Call.records_of_silent) (fun _ _ _ => rfl) (fun _ _ _ _ _ => rfl)
    fun _ _ _ _ _ _ _ _ _ => rfl

theorem authorize_records (code : String) (state : UUID) (requestMeta : RequestMeta)
    (deviceInfo : DeviceInfo) (unrecorded : Unrecorded trace) :
    (YandexIdService.authorize app code state requestMeta deviceInfo).Along RecordsOnce
      (LoginCommitted app) trace := by
  apply Along.bind (along_unrecorded (consumeCachedState_along state rfl) unrecorded) _ fun _ _ _ => nofun
  rintro codeVerifier _ ⟨_, unrecorded⟩
  apply Along.bind (along_unrecorded (exchangeCode_along code codeVerifier deviceInfo rfl) unrecorded) _
    fun _ _ _ => nofun
  rintro tokenData later ⟨_, unrecorded⟩
  have fetches : (YandexIdService.fetchUserInfo app tokenData.accessToken).Along Unrecording _ later :=
    fetchUserInfo_along tokenData.accessToken fun _ _ _ _ => rfl
  apply Along.bind (along_unrecorded fetches unrecorded) _ fun _ _ _ => nofun
  rintro profile later ⟨_, unrecorded⟩
  apply Along.bind (along_unrecorded (resolveUser_unrecording profile) unrecorded) _ fun _ _ _ => nofun
  rintro resolved later ⟨ends, unrecorded⟩
  cases resolved with
  | none => exact ⟨nofun, fun _ => nofun⟩
  | some user =>
    obtain ⟨copy, sawCopy, same⟩ := ends.saw
    apply Along.bind (along_unrecorded (issueTokenPair_along (fun _ => by rfl) (fun _ => by rfl) user)
      unrecorded)
    · rintro pair later ⟨⟨grown, issued⟩, unrecorded⟩
      apply Along.bind (saveLoginHistory_records unrecorded (sawCopy.mono grown) (by rw [same]) issued
        requestMeta (some deviceInfo))
      · exact fun _ _ recorded => recorded rfl
      · exact fun _ _ _ => nofun
    · exact fun _ _ _ => nofun

private theorem refreshTokens_unrecording (token : Token) :
    (AuthService.refreshTokens app token).Along Unrecording (fun _ _ => True) trace :=
  refreshTokens_along (fun _ => by rfl) (fun _ => by rfl) (fun _ _ _ => by rfl) (fun _ _ _ => by rfl)
    fun _ _ _ _ _ _ _ _ => by rfl

private theorem logout_unrecording (token : Token) :
    (AuthService.logout app token).Along Unrecording (fun _ _ => True) trace :=
  logout_along (fun _ => by rfl) fun _ _ _ _ _ _ _ _ => by rfl

private theorem createUser_unrecording (data : UserCreateIn) :
    (UserService.createUser app data).Along Unrecording (fun _ _ => True) trace :=
  createUser_along data (fun _ => rfl) (fun _ => rfl) (fun _ => rfl) (fun _ => rfl) (fun _ _ _ => rfl)
    (fun _ _ _ _ _ _ _ => rfl) (fun _ => rfl) fun _ _ => rfl

private theorem createSuperuser_unrecording (email password : String) :
    (createSuperuser app email password).Along Unrecording (fun _ _ => True) trace :=
  createSuperuser_along email password (fun _ => rfl) (fun _ => rfl) (fun _ => rfl) (fun _ _ _ _ => rfl)
    fun _ => rfl

/-- The UPDATE of a user is no history row. -/
private theorem userUpdate_unrecording (loaded current : User) :
    (Call.commit .request (userUpdate loaded current)).records = false := by
  unfold userUpdate
  split <;> rfl

private theorem roleUpdate_unrecording (loaded current : Role) :
    (Call.commit .request (roleUpdate loaded current)).records = false := by
  unfold roleUpdate
  split <;> rfl

private theorem userOperation_unrecording (operation : UserOperation) (user : UserObject) :
    (operation.program app user).Along Unrecording (fun _ _ => True) trace :=
  userOperation_along operation user (fun _ _ => Call.records_of_silent) fun _ _ => userUpdate_unrecording _ _

private theorem roleRequest_unrecording {request : Request Token} {operation : RoleOperation}
    (requested : request.roleOperation? = some operation) :
    (request.program app).Along Unrecording (fun _ _ => True) [] := by
  apply (request.ends_role requested).mono
  · intro later call issues
    cases issues with
    | silent _ _ silent => exact Call.records_of_silent silent
    | modifyRole roleId data role seen guarded => exact roleUpdate_unrecording _ _
    | assignRole userId roleId user role seen found => exact userUpdate_unrecording _ _
    | strip userId user seen superuser => exact userUpdate_unrecording _ _
    | revoke userId roleId user seen saw => exact userUpdate_unrecording _ _
    | _ => rfl
  · exact fun _ _ _ => trivial

private theorem oauthLogin_unrecording (http : HttpRequest) :
    (oauthLogin app http).Along Unrecording (fun _ _ => True) [] :=
  oauthLogin_along http (fun _ _ => Call.records_of_silent) (fun _ _ _ => rfl) fun _ _ _ => rfl

private theorem confirmLoginYandex_records (http : HttpRequest) :
    (confirmLoginYandex app http).Along RecordsOnce (fun _ _ => True) [] := by
  refine along_requestIdMiddleware (q := fun _ _ => True) (fun _ => nofun) ?_ fun _ _ _ _ => trivial
  intro drawn draws
  have unrecorded : Unrecorded (drawn ++ []) := by
    rw [List.append_nil]
    intro exchange member
    rw [draws exchange member]
    rfl
  apply Along.bind (along_unrecorded (rateLimitRouteByIp_along http _ fun _ _ => rfl) unrecorded) _
    fun _ _ _ => trivial
  rintro _ later ⟨_, unrecorded⟩
  simp only
  split
  · trivial
  · refine Along.bind (along_unrecorded (getOrCreateDeviceId_along http rfl) unrecorded) ?_
      fun _ _ _ => trivial
    rintro deviceId later ⟨_, unrecorded⟩
    split
    · trivial
    · refine along_withSession (fun _ => nofun) ?_
      split
      · refine Along.bind (q := fun _ _ => True) (Along.handle (authorize_records _ _ _ _ unrecorded)
          (fun _ _ _ => trivial) fun _ _ _ => trivial) (fun _ _ _ => trivial) fun _ _ _ => trivial
      · trivial

/-- The requests that log a user in and return the pair. -/
def Request.isLogin : Request Token → Bool
  | .loginUser .. => true
  | .authorize .. => true
  | _ => false

/-- The outcome of a login is a pair whose history row was committed or refused. -/
def LoginRecords (app : App Token) (request : Request Token) (trace : Trace Reply)
    (outcome : Except Exn (Outcome Token)) : Prop :=
  request.isLogin = true → ∀ pair, outcome = .ok (.tokens pair) → LoginCommitted app trace (.ok pair)

private theorem login_records {program : Action (TokenData Token)} {request : Request Token}
    (along : program.Along RecordsOnce (LoginCommitted app) []) :
    (withSession do return Outcome.tokens (← program)).Along RecordsOnce (LoginRecords app request) [] := by
  refine along_withSession (fun _ => nofun) (Along.bind along ?_ fun _ _ _ _ => nofun)
  rintro tokens later committed _ pair ⟨⟩ pair ⟨⟩
  obtain ⟨entry, reply, user, issued, same, member⟩ := committed tokens rfl
  exact ⟨entry, reply, user, issued.mono (List.suffix_cons _ _), same, List.mem_cons_of_mem _ member⟩

private theorem other_records {program : Action (Outcome Token)} {request : Request Token}
    (other : request.isLogin = false) (along : program.Along Unrecording (fun _ _ => True) []) :
    program.Along RecordsOnce (LoginRecords app request) [] := by
  apply (along_unrecording along).mono (fun _ _ issued => issued)
  intro later outcome _ login
  rw [other] at login
  cases login

/-- A request that logs nobody in records nothing. -/
theorem Request.unrecording {request : Request Token} (other : request.isLogin = false)
    (direct : ∀ http, request ≠ .confirmLoginYandex http) :
    (request.program app).Along Unrecording (fun _ _ => True) [] := by
  have session {α : Type} {body : Action α} {result : α → Outcome Token}
      (along : body.Along Unrecording (fun _ _ => True) []) :
      (withSession do return result (← body)).Along Unrecording (fun _ _ => True) [] :=
    along_withSession (fun _ => rfl) (Along.bind along (fun _ _ _ => trivial) fun _ _ _ => trivial)
  cases request with
  | loginUser data requestMeta deviceInfo => cases other
  | authorize code state requestMeta deviceInfo => cases other
  | confirmLoginYandex http => exact absurd rfl (direct http)
  | refreshTokens refreshToken => exact session (refreshTokens_unrecording refreshToken)
  | logout refreshToken => exact session (logout_unrecording refreshToken)
  | createUser data => exact session (createUser_unrecording data)
  | createSuperuser email password => exact session (createSuperuser_unrecording email password)
  | getOrCreateDefaultRole =>
    exact Along.bind (getOrCreateDefaultRole_along (fun _ => rfl) (fun _ => rfl) fun _ _ _ => rfl)
      (fun _ _ _ => trivial) fun _ _ _ => trivial
  | userEndpoint accessToken operation =>
    exact along_withSession (fun _ => rfl) (Along.bind (getTokenUser_along (fun _ => by rfl) accessToken
      fun _ _ _ => by rfl) (fun _ _ _ => userOperation_unrecording operation _) fun _ _ _ => trivial)
  | role operation => exact roleRequest_unrecording rfl
  | roleEndpoint accessToken operation => exact roleRequest_unrecording rfl
  | oauthLogin http =>
    exact Along.bind (oauthLogin_unrecording http) (fun _ _ _ => trivial) fun _ _ _ => trivial

/-- Every request records at most one login, and every login is recorded before it returns. -/
theorem Request.records (request : Request Token) :
    (request.program app).Along RecordsOnce (LoginRecords app request) [] := by
  cases request with
  | loginUser data requestMeta deviceInfo =>
    exact login_records (loginUser_records data requestMeta deviceInfo (List.forall_mem_nil _))
  | authorize code state requestMeta deviceInfo =>
    exact login_records (authorize_records code state requestMeta deviceInfo (List.forall_mem_nil _))
  | confirmLoginYandex http =>
    exact Along.bind (confirmLoginYandex_records http) (fun _ _ _ => nofun) fun _ _ _ => nofun
  | _ => exact other_records rfl (Request.unrecording rfl nofun)

end Programs

end AuthApi
