import AuthApi.Run.Callbacks
import AuthApi.Run.ApiServices
import AuthApi.Run.OpenStatements

/-! # How services fail

What each service may raise, and what it has committed by then. An error that a route reports to its client comes
before any commit of the request; the other errors are internal.
-/

namespace AuthApi

open Interleaving Interleaving.Program DbHelpers Dependencies YandexIdService

/-- No route and no handler knows the error, so it becomes a bare 500. -/
def Exn.isInternal : Exn → Bool
  | .valueError _ => true
  | .validationError => true
  | .jsonError _ => true
  | .unicodeEncodeError => true
  | .dbError _ => true
  | .invalidRequestError => true
  | .noInspectionAvailable => true
  | .redisError _ => true
  | _ => false

/-- The statements that the session of a request has committed; the default role has a session of its own. -/
def ownWrites : Exchange Reply → List Write
  | ⟨.commit .request writes, .ok _⟩ => writes
  | _ => []

/-- The request has committed nothing yet. -/
def Spotless (trace : Trace Reply) : Prop := ∀ exchange ∈ trace, ownWrites exchange = []

/-- The call is no flush and no commit of the request's session. -/
def Call.isReading : Call → Bool
  | .commit .request _ => false
  | .flush _ => false
  | _ => true

/-- An error is one of the known ones and comes before any commit, or it is fatal. -/
def Reports {α : Type} (known fatal : Exn → Prop) (trace : Trace Reply) (outcome : Except Exn α) : Prop :=
  ∀ error, outcome = .error error → known error ∧ Spotless trace ∨ fatal error

/-- Only internal errors are fatal. -/
abbrev ReportsOnly {α : Type} (known : Exn → Prop) (trace : Trace Reply) (outcome : Except Exn α) : Prop :=
  Reports known (fun error => error.isInternal = true) trace outcome

/-- A program without a flush. -/
abbrev direct : Trace Reply → Call → Prop := fun _ call => call.isDirect = true

theorem direct_close (trace : Trace Reply) : direct trace .close := rfl

theorem spotless_nil : Spotless [] := List.forall_mem_nil _

theorem spotless_cons {exchange : Exchange Reply} {trace : Trace Reply} :
    Spotless (exchange :: trace) ↔ ownWrites exchange = [] ∧ Spotless trace := by
  simp [Spotless]

theorem Spotless.cons {exchange : Exchange Reply} {trace : Trace Reply} (spotless : Spotless trace)
    (quiet : ownWrites exchange = []) : Spotless (exchange :: trace) := spotless_cons.mpr ⟨quiet, spotless⟩

theorem Spotless.read {trace : Trace Reply} (spotless : Spotless trace) (call : Call)
    (reading : call.isReading = true) (reply : Reply call) : Spotless (⟨call, reply⟩ :: trace) := by
  apply spotless.cons
  cases call with
  | commit session writes =>
    cases session with
    | request => cases reading
    | defaultRole => rfl
  | _ => rfl

theorem Call.isDirect_of_reading {call : Call} (reading : call.isReading = true) : call.isDirect = true := by
  cases call with
  | flush writes => cases reading
  | _ => rfl

section Reports

variable {α β : Type} {known fatal : Exn → Prop} {trace : Trace Reply}

theorem reports_ok (value : α) : Reports known fatal trace (.ok value) := by
  intro error same
  cases same

theorem reports_known {error : Exn} (isKnown : known error) (spotless : Spotless trace) :
    Reports known fatal trace (.error error : Except Exn α) := by
  intro other same
  cases same
  exact .inl ⟨isKnown, spotless⟩

theorem reports_fatal {error : Exn} (isFatal : fatal error) :
    Reports known fatal trace (.error error : Except Exn α) := by
  intro other same
  cases same
  exact .inr isFatal

theorem Reports.retype {error : Exn} (reports : Reports known fatal trace (.error error : Except Exn α)) :
    Reports known fatal trace (.error error : Except Exn β) := by
  intro other same
  cases same
  exact reports error rfl

/-- A part that commits nothing keeps the trace spotless. -/
theorem along_spotless {program : Action α} {post : Trace Reply → Except Exn α → Prop}
    (along : program.Along (fun _ call => call.isReading = true) post trace) (spotless : Spotless trace) :
    program.Along direct (fun later outcome => post later outcome ∧ Spotless later) trace := by
  apply (along.keeps _ spotless).mono (fun _ _ => Call.isDirect_of_reading) fun _ _ ends => ends
  exact fun later call reply reading before => before.read call reading reply

end Reports

section Services

variable {Token : Type} {app : App Token} {trace : Trace Reply}

/-- What a gate refuses with. -/
def IsRefusedToken (error : Exn) : Prop := ∃ detail, error = .httpException (credentialsHttpException detail)

theorem ensureSuperuser_reports (accessToken : Token) {fatal : Exn → Prop} (spotless : Spotless trace) :
    (ensureSuperuser app accessToken).Along direct
      (fun later outcome => Reports IsRefusedToken fatal later outcome ∧ Spotless later) trace := by
  have gate := @ensureSuperuser_along _ app trace (fun _ call => call.isReading = true) (fun _ => rfl) accessToken
  apply (along_spotless gate spotless).mono (fun _ _ issued => issued)
  rintro later outcome ⟨⟨time, rfl, refusal⟩, clean⟩
  refine ⟨?_, clean⟩
  rintro error rfl
  exact .inl ⟨refusal.2, clean⟩

theorem getTokenUser_reports (accessToken : Token) {fatal : Exn → Prop} (spotless : Spotless trace) :
    (getTokenUser app accessToken).Along direct
      (fun later outcome => Reports IsRefusedToken fatal later outcome ∧ Spotless later) trace := by
  have gate := @getTokenUser_along _ app trace (fun _ call => call.isReading = true) (fun _ => rfl) accessToken
    fun _ _ _ => rfl
  apply (along_spotless gate spotless).mono (fun _ _ issued => issued)
  rintro later outcome ⟨refusal, clean⟩
  refine ⟨?_, clean⟩
  rintro error rfl
  refine .inl ⟨?_, clean⟩
  obtain ⟨_, _, _, _, rfl⟩ | ⟨_, _, _, _, _, ⟨_, rfl⟩ | ⟨_, _, _, rfl⟩⟩ := refusal <;> exact ⟨_, rfl⟩

theorem issueTokenPair_reports (user : UserObject) {known : Exn → Prop} :
    (issueTokenPair app user).Along direct (ReportsOnly known) trace := by
  have issues := @issueTokenPair_along _ app trace direct (fun _ => rfl) (fun _ => rfl) user
  apply issues.mono (fun _ _ issued => issued)
  rintro later outcome ⟨_, issued⟩ error rfl
  obtain ⟨detail, rfl⟩ := resolveRoleClaims_error issued
  exact .inr rfl

theorem saveLoginHistory_reports (userId : UUID4) (requestMeta : RequestMeta) (deviceInfo : Option DeviceInfo)
    {known : Exn → Prop} :
    (saveLoginHistory userId requestMeta deviceInfo).Along direct (ReportsOnly known) trace := by
  have records := @saveLoginHistory_along trace direct (fun _ => rfl) (fun _ => rfl) (fun _ _ => rfl)
    userId requestMeta deviceInfo
  apply records.mono (fun _ _ issued => issued)
  rintro later outcome ⟨_, rfl⟩
  exact reports_ok ()

/-- A pair is issued and the login recorded. -/
theorem issued_recorded_reports (user : UserObject) (requestMeta : RequestMeta) (deviceInfo : Option DeviceInfo)
    {known : Exn → Prop} :
    ((issueTokenPair app user).bind fun tokens =>
      (saveLoginHistory user.id requestMeta deviceInfo).bind fun _ => .done tokens).Along direct
        (ReportsOnly known) trace := by
  apply Along.bind (issueTokenPair_reports user)
  · intro tokens later _
    apply Along.bind (saveLoginHistory_reports user.id requestMeta deviceInfo)
    · exact fun _ last _ => reports_ok tokens
    · exact fun error last reports => reports.retype
  · exact fun error later reports => reports

def IsWrongCredentials (error : Exn) : Prop := ∃ detail, error = .wrongCredentialsError detail

theorem loginUser_reports (data : UserLoginData) (requestMeta : RequestMeta) (deviceInfo : Option DeviceInfo)
    (spotless : Spotless trace) :
    (AuthService.loginUser app data requestMeta deviceInfo).Along direct (ReportsOnly IsWrongCredentials)
      trace := by
  refine ⟨rfl, fun found => ?_⟩
  have clean := spotless.read (.selectUserByEmail data.email true) rfl found
  cases found with
  | none => exact reports_known ⟨_, rfl⟩ clean
  | some user =>
    simp only [done_bind]
    split
    · exact issued_recorded_reports user requestMeta deviceInfo
    · exact reports_known ⟨_, rfl⟩ clean

def IsRefreshError (error : Exn) : Prop := ∃ detail, error = .refreshTokenError detail

theorem refreshTokens_reports (refreshToken : Token) (spotless : Spotless trace) :
    (AuthService.refreshTokens app refreshToken).Along direct (ReportsOnly IsRefreshError) trace := by
  refine ⟨rfl, fun decodedAt => ?_⟩
  have clean := spotless.read .now rfl decodedAt
  simp only [done_bind]
  split
  · exact reports_known ⟨_, rfl⟩ clean
  · exact reports_known ⟨_, rfl⟩ clean
  · split
    · exact reports_known ⟨_, rfl⟩ clean
    · next payload _ =>
      refine ⟨rfl, fun entry => ?_⟩
      have clean := clean.read (.redisGet (AuthService.blacklistKey payload.jti.val.str)) rfl entry
      cases entry with
      | error error => exact reports_fatal rfl
      | ok entry =>
        simp only [attempt_ok, done_bind, pure_eq]
        split
        · exact reports_known ⟨_, rfl⟩ clean
        · refine ⟨rfl, fun found => ?_⟩
          have clean := clean.read (.selectUserById payload.sub true) rfl found
          cases found with
          | none => exact reports_known ⟨_, rfl⟩ clean
          | some user =>
            simp only [done_bind]
            split
            · refine ⟨rfl, fun moment => ⟨rfl, fun reply => ?_⟩⟩
              cases reply with
              | error error => exact reports_fatal rfl
              | ok _ => exact issueTokenPair_reports user
            · exact reports_known ⟨_, rfl⟩ clean

theorem logout_reports (refreshToken : Token) (spotless : Spotless trace) :
    (AuthService.logout app refreshToken).Along direct (ReportsOnly IsRefreshError) trace := by
  refine ⟨rfl, fun decodedAt => ?_⟩
  have clean := spotless.read .now rfl decodedAt
  simp only [done_bind]
  split
  · exact reports_known ⟨_, rfl⟩ clean
  · split
    · exact reports_known ⟨_, rfl⟩ clean
    · refine ⟨rfl, fun moment => ?_⟩
      simp only [done_bind]
      split
      · exact reports_ok ()
      · refine ⟨rfl, fun reply => ?_⟩
        cases reply with
        | error error => exact reports_fatal rfl
        | ok _ => exact reports_ok ()

/-- `logout_others` reports nothing; the error of a user who is gone is not translated either. -/
theorem logoutOthers_reports (user : UserObject) :
    (AuthService.logoutOthers app user).Along direct
      (Reports (fun _ => False) fun error => error.isInternal = true ∨ IsWrongCredentials error) trace := by
  refine ⟨rfl, fun reply => ?_⟩
  cases reply with
  | error error => exact reports_fatal (.inl rfl)
  | ok _ =>
    refine ⟨rfl, fun found => ?_⟩
    cases found with
    | none => exact reports_fatal (.inr ⟨_, rfl⟩)
    | some loaded =>
      apply (issueTokenPair_reports _).mono (fun _ _ issued => issued)
      rintro later outcome reports error rfl
      exact (reports error rfl).imp_right .inl

def IsUserExists (error : Exn) : Prop := ∃ detail, error = .userAlreadyExistsError detail

theorem getOrCreateDefaultRole_reports {known : Exn → Prop} (spotless : Spotless trace) :
    getOrCreateDefaultRole.Along direct
      (fun later outcome => ReportsOnly known later outcome ∧ Spotless later) trace := by
  have calls := @getOrCreateDefaultRole_along trace (fun _ call => call.isReading = true) (fun _ => rfl)
    (fun _ => rfl) fun _ _ _ => rfl
  apply (along_spotless calls spotless).mono (fun _ _ issued => issued)
  rintro later outcome ⟨⟨_, created⟩, clean⟩
  refine ⟨?_, clean⟩
  rintro error rfl
  obtain ⟨_, fault, rfl⟩ := created
  exact .inr rfl

theorem createUser_reports (data : UserCreateIn) (spotless : Spotless trace) :
    (UserService.createUser app data).Along direct (ReportsOnly IsUserExists) trace := by
  refine ⟨rfl, fun found => ?_⟩
  have clean := spotless.read (.selectUserByEmail data.email false) rfl found
  cases found with
  | some user => exact reports_known ⟨_, rfl⟩ clean
  | none =>
    refine ⟨rfl, fun salt => ?_⟩
    have clean := clean.read .salt rfl salt
    apply Along.bind (getOrCreateDefaultRole_reports clean)
    · rintro role later ⟨_, clean⟩
      refine ⟨rfl, fun id => ⟨rfl, fun reply => ?_⟩⟩
      have clean := clean.read .uuid4 rfl id
      rcases reply with (_ | _ | _) | _
      · refine ⟨rfl, fun _ => ?_⟩
        exact reports_known ⟨_, rfl⟩ ((clean.cons rfl).cons rfl)
      · exact reports_fatal rfl
      · exact reports_fatal rfl
      · refine ⟨rfl, fun stored => ?_⟩
        cases stored with
        | none => exact reports_fatal rfl
        | some user => exact reports_ok user
    · exact fun error later ends => ends.1.retype

def IsUserNotFound (error : Exn) : Prop := ∃ detail, error = .userNotFoundError detail

theorem getUserInfo_reports (user : UserObject) (spotless : Spotless trace) :
    (UserService.getUserInfo user).Along direct (ReportsOnly IsUserNotFound) trace := by
  refine ⟨rfl, fun found => ?_⟩
  cases found with
  | none => exact reports_known ⟨_, rfl⟩ (spotless.cons rfl)
  | some loaded => exact reports_ok _

theorem getLoginHistory_reports (userId : UUID4) (page pageSize : ℕ) :
    (UserService.getLoginHistory userId page pageSize).Along direct (ReportsOnly fun _ => False) trace :=
  along_accept (fun _ => ⟨rfl, fun _ => reports_ok _⟩) fun _ => reports_fatal rfl

def IsWrongPassword (error : Exn) : Prop := ∃ detail, error = .wrongPasswordError detail

def IsEmailTaken (error : Exn) : Prop := ∃ detail, error = .emailAlreadyExistsError detail

theorem changeEmail_reports (data : UserChangeEmailIn) (user : UserObject) (spotless : Spotless trace) :
    (UserService.changeEmail app data user).Along direct
      (ReportsOnly fun error => IsWrongPassword error ∨ IsEmailTaken error) trace := by
  unfold UserService.changeEmail
  split
  · refine ⟨rfl, fun reply => ?_⟩
    rcases reply with (_ | _ | _) | _
    · refine ⟨rfl, fun _ => ?_⟩
      exact reports_known (.inr ⟨_, rfl⟩) ((spotless.cons rfl).cons rfl)
    · exact reports_fatal rfl
    · exact reports_fatal rfl
    · exact reports_ok ()
  · exact reports_known (.inl ⟨_, rfl⟩) spotless

theorem changePassword_reports (data : UserChangePasswordIn) (user : UserObject) (spotless : Spotless trace) :
    (UserService.changePassword app data user).Along direct (ReportsOnly IsWrongPassword) trace := by
  unfold UserService.changePassword
  split
  · refine ⟨rfl, fun salt => ⟨rfl, fun reply => ?_⟩⟩
    cases reply with
    | error error => exact reports_fatal rfl
    | ok _ => exact reports_ok ()
  · exact reports_known ⟨_, rfl⟩ spotless

/-- A commit that nothing handles is the last thing an operation does. -/
theorem lastCommit_reports {known : Exn → Prop} (session : Session) (writes : List Write) :
    (commit session writes).Along direct (ReportsOnly known) trace := by
  refine ⟨rfl, fun reply => ?_⟩
  cases reply with
  | error error => exact reports_fatal rfl
  | ok _ => exact reports_ok ()

/-- The errors that an operation reports. -/
def RoleOperation.reported : RoleOperation → List Exn
  | .createRole _ => [.roleAlreadyExistsError]
  | .getAllRoles => []
  | .removeRole _ => [.roleNotFoundError, .protectedRoleError]
  | .modifyRole _ _ => [.roleNotFoundError, .roleAlreadyExistsError, .protectedRoleError]
  | .assignRole _ _ => [.roleNotFoundError, .userNotFoundError none]
  | .revokeRole _ => [.userNotFoundError none]

theorem roleOperation_reports (operation : RoleOperation) (spotless : Spotless trace) :
    (operation.program app).Along direct
      (ReportsOnly fun error => error ∈ operation.reported) trace := by
  have wrapped {α : Type} {body : Action α} (wrap : α → Outcome Token)
      (along : body.Along direct (ReportsOnly fun error => error ∈ operation.reported) trace) :
      (body.bind fun value => .done (wrap value)).Along direct
        (ReportsOnly fun error => error ∈ operation.reported) trace := by
    apply Along.bind along
    · exact fun value later _ => reports_ok (wrap value)
    · exact fun error later reports => reports.retype
  cases operation with
  | createRole data =>
    refine wrapped .role ⟨rfl, fun id => along_accept (fun _ => ⟨rfl, fun reply => ?_⟩) fun _ => reports_fatal rfl⟩
    rcases reply with (_ | _ | _) | _
    · refine ⟨rfl, fun _ => reports_known (by simp [RoleOperation.reported]) ?_⟩
      exact ((spotless.read .uuid4 rfl id).cons rfl).cons rfl
    · exact reports_fatal rfl
    · exact reports_fatal rfl
    · exact reports_ok _
  | getAllRoles => exact ⟨rfl, fun _ => reports_ok _⟩
  | removeRole roleId =>
    refine wrapped (fun _ => .unit) ⟨rfl, fun found => ?_⟩
    have clean := spotless.read (.getRole roleId) rfl found
    cases found with
    | none => exact reports_known (by simp [RoleOperation.reported]) clean
    | some role =>
      simp only [done_bind]
      split
      · exact reports_known (by simp [RoleOperation.reported]) clean
      · exact lastCommit_reports _ _
  | modifyRole roleId data =>
    refine wrapped (fun _ => .unit) ⟨rfl, fun found => ?_⟩
    have clean := spotless.read (.getRole roleId) rfl found
    cases found with
    | none => exact reports_known (by simp [RoleOperation.reported]) clean
    | some role =>
      simp only [done_bind]
      split
      · exact reports_known (by simp [RoleOperation.reported]) clean
      · refine along_accept (fun _ => ⟨rfl, fun reply => ?_⟩) fun _ => reports_fatal rfl
        rcases reply with (_ | _ | _) | _
        · exact ⟨rfl, fun _ => reports_known (by simp [RoleOperation.reported]) ((clean.cons rfl).cons rfl)⟩
        · exact reports_fatal rfl
        · exact reports_fatal rfl
        · exact reports_ok ()
  | assignRole userId roleId =>
    refine wrapped (fun _ => .unit) ⟨rfl, fun found => ?_⟩
    have clean := spotless.read (.getUser userId) rfl found
    cases found with
    | none => exact reports_known (by simp [RoleOperation.reported]) clean
    | some user =>
      refine ⟨rfl, fun role => ?_⟩
      have clean := clean.read (.getRole roleId) rfl role
      cases role with
      | none => exact reports_known (by simp [RoleOperation.reported]) clean
      | some role => exact lastCommit_reports _ _
  | revokeRole userId =>
    refine wrapped (fun _ => .unit) ⟨rfl, fun found => ?_⟩
    have clean := spotless.read (.getUser userId) rfl found
    cases found with
    | none => exact reports_known (by simp [RoleOperation.reported]) clean
    | some user =>
      simp only [done_bind]
      split
      · exact lastCommit_reports _ _
      · apply Along.bind (getOrCreateDefaultRole_reports clean)
        · exact fun role later _ => lastCommit_reports _ _
        · exact fun error later ends => ends.1.retype

def IsProviderError (error : Exn) : Prop := ∃ detail, error = .yandexIdProviderError detail

theorem buildLoginRedirect_reports (state : UUID) (spotless : Spotless trace) :
    (buildLoginRedirect app state).Along direct (ReportsOnly IsProviderError) trace := by
  refine ⟨rfl, fun codeVerifier => ?_⟩
  simp only [done_bind]
  cases made : buildLoginParams app state codeVerifier with
  | error error =>
    unfold buildLoginParams at made
    split at made
    · cases made
    · cases made
      exact reports_fatal rfl
  | ok loginParams =>
    refine ⟨rfl, fun reply => ?_⟩
    cases reply with
    | ok _ => exact reports_ok _
    | error error => exact reports_known ⟨_, rfl⟩ ((spotless.cons rfl).cons rfl)

theorem ResolveEnds.reports {profile : YandexIdUserData} {later : Trace Reply} {error : Exn}
    (ends : ResolveEnds app profile trace later (.error error)) :
    error.isYandexError = true ∨ error.isInternal = true := by
  have attached {pending : List Write} {user : UserObject} {id : String} {before after : Trace Reply}
      (ends : AttachEnds app pending user YANDEX id before after (.error error)) :
      error.isYandexError = true ∨ error.isInternal = true := by
    cases ends with
    | unstored id unfit => exact .inr rfl
    | vanished id => exact .inr rfl
    | conflict id detail => exact .inl rfl
    | stale id => exact .inr rfl
  cases ends with
  | unstored _ grown unfit => exact .inr rfl
  | unlinked user _ _ ends => exact attached ends
  | unassigned _ fault grown absent => exact .inr rfl
  | refused user roleId _ fault grown holds saw => exact .inr rfl
  | failed user middle _ _ grown ends => exact attached ends

/-- A commit of a callback is about the default role or contains a link. -/
def CommitsLinks (trace : Trace Reply) : Prop :=
  ∀ exchange ∈ trace, ownWrites exchange = [] ∨ exchange.request.links = true

theorem CommitsLinks.cons {call : Call} (commits : CommitsLinks trace)
    (issued : (∀ reply, ownWrites ⟨call, reply⟩ = []) ∨ call.links = true) (reply : Reply call) :
    CommitsLinks (⟨call, reply⟩ :: trace) :=
  List.forall_mem_cons.mpr ⟨issued.imp_left fun quiet => quiet reply, commits⟩

/-- What commits links only and has committed none is spotless. -/
theorem CommitsLinks.spotless (commits : CommitsLinks trace) (free : ∀ exchange ∈ trace, linked exchange = false) :
    Spotless trace := by
  intro exchange member
  obtain quiet | links := commits exchange member
  · exact quiet
  · have unlinked := free exchange member
    obtain ⟨request, reply⟩ := exchange
    cases request with
    | commit session writes =>
      cases reply with
      | error error => cases session <;> rfl
      | ok _ =>
        change writes.any Write.isLink = true at links
        change writes.any Write.isLink = false at unlinked
        rw [links] at unlinked
        cases unlinked
    | _ => cases links

/-- What a commit inserts beside the open statements of a callback waits for nobody, and a return leaves nothing
open. -/
theorem attachOauthAccount_orderly (user : UserObject) (providerUserId : String) {pending : List Write}
    (holds : opened trace = pending) :
    (attachOauthAccount app pending user YANDEX providerUserId).Along Orderly
      (fun later outcome => ∀ value, outcome = .ok value → opened later = []) trace := by
  refine ⟨orderly_of_plain rfl rfl, fun id => along_accept (fun _ => ⟨⟨fun statement issued => ?_,
    fun flushes => by cases flushes⟩, fun reply => ?_⟩) fun _ => nofun⟩
  · obtain held | link := List.mem_append.mp issued
    · exact .inr (.inl (holds ▸ held))
    · obtain rfl := List.mem_singleton.mp link
      exact .inr (.inr fun row => rfl)
  · rcases reply with (_ | _ | _) | _
    · exact ⟨orderly_of_plain rfl rfl, fun _ => nofun⟩
    · exact nofun
    · exact nofun
    · refine ⟨orderly_of_plain rfl rfl, fun found => ?_⟩
      cases found with
      | none => exact nofun
      | some refreshed => exact fun _ _ => rfl

/-- A callback opens one new user at most, and nothing else waits while it is open. -/
theorem resolveUser_orderly (profile : YandexIdUserData) (closed : opened trace = []) :
    (resolveUser app profile).Along Orderly
      (fun later outcome => ∀ value, outcome = .ok value → opened later = []) trace := by
  have free {later : Trace Reply} {call : Call} (closed : opened later = []) (isDirect : call.isDirect = true) :
      Orderly later call := orderly_of_direct closed isDirect
  refine ⟨free closed rfl, fun linked => along_accept (fun _ => ?_) fun _ => nofun⟩
  cases linked with
  | some user => exact fun _ _ => closed
  | none =>
    refine ⟨free closed rfl, fun found => ?_⟩
    cases found with
    | some user =>
      simp only [done_bind]
      refine Along.bind (attachOauthAccount_orderly user profile.id ?_) ?_ ?_
      · exact closed
      · exact fun linked later closed _ _ => closed linked rfl
      · exact fun _ _ _ => nofun
    | none =>
      simp only [done_bind]
      have calls := @getOrCreateDefaultRole_along (⟨.selectUserByEmail profile.defaultEmail true, none⟩ ::
        ⟨.selectLinkedUser YANDEX profile.id, none⟩ :: trace) direct (fun _ => rfl) (fun _ => rfl) fun _ _ _ => rfl
      apply Along.bind (along_direct calls closed)
      · rintro role later ⟨_, closed⟩
        refine ⟨free closed rfl, fun password => ⟨free closed rfl, fun salt => ⟨free closed rfl, fun id =>
          along_accept (fun _ => ⟨⟨fun _ _ => .inl closed, fun _ statement issued =>
            ⟨_, List.mem_singleton.mp issued⟩⟩, fun reply => ?_⟩) fun _ => nofun⟩⟩⟩
        cases reply with
        | error error => exact nofun
        | ok _ =>
          simp only [attempt_ok, done_bind]
          refine Along.bind (attachOauthAccount_orderly _ profile.id ?_) ?_ ?_
          · rfl
          · intro created last closed
            refine ⟨free (closed created rfl) rfl, fun found => ?_⟩
            cases found <;> exact fun _ _ => closed created rfl
          · exact fun _ _ _ => nofun
      · exact fun _ _ _ => nofun

theorem resolveUser_reports (profile : YandexIdUserData) (unlinked : Unlinked trace)
    (commits : CommitsLinks trace) (closed : opened trace = []) :
    (resolveUser app profile).Along Orderly
      (fun later outcome => ReportsOnly (fun error => error.isYandexError = true) later outcome ∧
        ∀ value, outcome = .ok value → opened later = []) trace := by
  have quiet (call : Call) (silent : call.isSilent = true) (reply : Reply call) :
      ownWrites ⟨call, reply⟩ = [] := by
    cases call with
    | commit session writes => cases silent
    | _ => rfl
  have calls : (resolveUser app profile).Along
      (fun _ call => (∀ reply, ownWrites ⟨call, reply⟩ = []) ∨ call.links = true) (ResolveEnds app profile trace)
      trace := by
    apply resolveUser_along profile
    · exact fun _ call silent => .inl (quiet call silent)
    · exact fun _ _ _ => .inl fun _ => rfl
    · exact fun _ _ _ _ _ => .inr rfl
    · exact fun _ _ _ _ _ _ _ _ _ => .inr rfl
  have kept := calls.keeps (p := CommitsLinks) (fun _ _ reply issued before => before.cons issued reply) commits
  apply ((kept.and (resolveUser_linksOnce profile unlinked)).and (resolveUser_orderly profile closed)).mono
  · exact fun _ _ issued => issued.2
  · rintro later outcome ⟨⟨⟨ends, commits⟩, free⟩, closed⟩
    refine ⟨?_, closed⟩
    rintro error rfl
    obtain yandex | internal := ends.reports
    · refine .inl ⟨yandex, CommitsLinks.spotless commits (free error rfl ?_)⟩
      rw [Exn.isRefusal, yandex, Bool.true_or]
    · exact .inr internal

/-- The stages before a user is looked for commit nothing. -/
theorem along_stage {α : Type} {program : Action α} {post : Trace Reply → Except Exn α → Prop}
    (along : program.Along (fun _ call => call.isReading = true ∧ call.links = false) post trace)
    (unlinked : Unlinked trace) (commits : CommitsLinks trace) (closed : opened trace = []) :
    program.Along Orderly
      (fun later outcome => (post later outcome ∧ Unlinked later ∧ CommitsLinks later) ∧ opened later = []) trace := by
  apply along_direct _ closed
  apply (along.keeps _ ⟨unlinked, commits⟩).mono (fun _ _ issued => Call.isDirect_of_reading issued.1)
    fun _ _ ends => ends
  rintro later call reply ⟨reading, plain⟩ ⟨unlinked, commits⟩
  refine ⟨unlinked_cons.mpr ⟨plain, unlinked⟩, commits.cons (.inl fun reply => ?_) reply⟩
  exact (spotless_nil.read call reading reply) _ List.mem_cons_self

theorem authorize_reports (code : String) (state : UUID) (requestMeta : RequestMeta) (deviceInfo : DeviceInfo) :
    (authorize app code state requestMeta deviceInfo).Along Orderly
      (ReportsOnly fun error => error.isYandexError = true) [] := by
  have known {later : Trace Reply} {error : Exn} (yandex : error.isYandexError = true) (unlinked : Unlinked later)
      (commits : CommitsLinks later) : ReportsOnly (fun error => error.isYandexError = true) later
        (.error error : Except Exn (TokenData Token)) :=
    reports_known yandex (commits.spotless fun _ => unlinked.linked)
  apply Along.bind (along_stage (consumeCachedState_along state ⟨rfl, rfl⟩) (List.forall_mem_nil _)
    (List.forall_mem_nil _) rfl)
  rotate_left
  · rintro error later ⟨⟨⟨_, yandex⟩, unlinked, commits⟩, _⟩
    exact known yandex unlinked commits
  rintro codeVerifier later ⟨⟨_, unlinked, commits⟩, closed⟩
  apply Along.bind (along_stage (exchangeCode_along code codeVerifier deviceInfo ⟨rfl, rfl⟩) unlinked commits closed)
  rotate_left
  · rintro error last ⟨⟨⟨_, yandex | fault⟩, unlinked, commits⟩, _⟩
    · exact known yandex unlinked commits
    · obtain ⟨_, _, _, _, rfl⟩ | ⟨_, rfl⟩ | ⟨_, rfl⟩ := fault <;> exact reports_fatal rfl
  rintro tokenData later ⟨⟨_, unlinked, commits⟩, closed⟩
  have fetches := @fetchUserInfo_along _ app later (fun _ call => call.isReading = true ∧ call.links = false)
    tokenData.accessToken fun _ _ _ _ => ⟨rfl, rfl⟩
  apply Along.bind (along_stage fetches unlinked commits closed)
  rotate_left
  · rintro error last ⟨⟨⟨_, yandex | ⟨_, _, _, _, rfl⟩ | ⟨_, rfl⟩⟩, unlinked, commits⟩, _⟩
    · exact known yandex unlinked commits
    · exact reports_fatal rfl
    · exact reports_fatal rfl
  rintro profile later ⟨⟨_, unlinked, commits⟩, closed⟩
  apply Along.bind (resolveUser_reports profile unlinked commits closed)
  · rintro resolved last ⟨_, returned⟩
    have closed := returned resolved rfl
    cases resolved with
    | none => exact ⟨orderly_of_direct closed rfl, fun _ => reports_fatal rfl⟩
    | some user =>
      apply (along_direct (issued_recorded_reports user requestMeta (some deviceInfo)) closed).mono
      · exact fun _ _ issued => issued
      · exact fun _ _ ends => ends.1
  · exact fun error last ends => ends.1.retype

end Services

end AuthApi
