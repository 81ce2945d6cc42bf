import AuthApi.Run.ApiEnds
import AuthApi.Run.TokenOrigins

/-! # What answered services have committed

`written` is all that the session of a request has committed, in order. A service that returns has committed the
writes it was asked for, once, and nothing else (`Request.Wrote`).
-/

namespace AuthApi

open Interleaving Interleaving.Program DbHelpers Dependencies YandexIdService

/-- What the session of a request has committed, in order. -/
def written : Trace Reply → List Write
  | [] => []
  | exchange :: trace => written trace ++ ownWrites exchange

section Written

variable {trace later : Trace Reply} {exchange : Exchange Reply}

@[simp] theorem written_nil : written [] = [] := rfl

theorem written_cons (exchange : Exchange Reply) (trace : Trace Reply) :
    written (exchange :: trace) = written trace ++ ownWrites exchange := rfl

theorem written_quiet (quiet : ownWrites exchange = []) : written (exchange :: trace) = written trace := by
  rw [written_cons, quiet, List.append_nil]

theorem written_read (call : Call) (reading : call.isReading = true) (reply : Reply call) :
    written (⟨call, reply⟩ :: trace) = written trace :=
  written_quiet (spotless_nil.read call reading reply _ List.mem_cons_self)

/-- A part that only reads leaves what has been written. -/
theorem along_written {α : Type} {program : Action α} {post : Trace Reply → Except Exn α → Prop}
    (along : program.Along (fun _ call => call.isReading = true) post trace) :
    program.Along (fun _ _ => True) (fun later outcome => post later outcome ∧ written later = written trace)
      trace := by
  have kept := along.keeps (p := fun later => written later = written trace)
    (fun _ call reply reading same => (written_read call reading reply).trans same) rfl
  exact kept.mono (fun _ _ _ => trivial) fun _ _ ends => ends

/-- The hidden calls of a route commit nothing. -/
theorem Shows.written {Token : Type} {app : App Token} {shown : Trace Reply} (shows : Shows app trace shown) :
    AuthApi.written trace = AuthApi.written shown := by
  induction shows with
  | nil => rfl
  | skip isHidden rest ih => exact (written_quiet (ownWrites_of_hidden isHidden)).trans ih
  | keep exchange rest ih => rw [written_cons, written_cons, ih]

end Written

/-- How an operation on the own account changes the loaded row. -/
inductive OwnChange {Token : Type} (app : App Token) (loaded : User) : UserOperation → User → Prop
  | email (data : UserChangeEmailIn) (verified : app.passwordHash.verify data.password loaded.passwordHash) :
      OwnChange app loaded (.changeEmail data) { loaded with email := data.email }
  | password (data : UserChangePasswordIn) (salt : String)
      (verified : app.passwordHash.verify data.oldPassword loaded.passwordHash) :
      OwnChange app loaded (.changePassword data)
        { loaded with
          passwordHash := app.passwordHash.hash data.newPassword salt
          tokenVersion := loaded.tokenVersion + 1 }
  | logoutOthers : OwnChange app loaded .logoutOthers { loaded with tokenVersion := loaded.tokenVersion + 1 }

/-- The operations on the own account that write nothing. -/
def UserOperation.onlyReads : UserOperation → Bool
  | .checkAccess => true
  | .getUserInfo => true
  | .getLoginHistory _ _ => true
  | _ => false

/-- A login is recorded, unless the record fails. -/
inductive Recorded (userId : UUID4) (requestMeta : RequestMeta) (deviceInfo : Option DeviceInfo) : List Write → Prop
  | failed : Recorded userId requestMeta deviceInfo []
  | recorded (id : UUID4) : Recorded userId requestMeta deviceInfo
      [.insertLoginHistory (buildLoginHistory id userId requestMeta deviceInfo)]

/-- The account of a profile is linked to the user already, or becomes so, or with a user of its own. -/
inductive Linked (trace : Trace Reply) (profile : YandexIdUserData) (copy : UserObject) : List Write → Prop
  | found (seen : ⟨.selectLinkedUser YANDEX profile.id, some copy⟩ ∈ trace) : Linked trace profile copy []
  | linked (owner : UserObject) (id : UUID4) (role : Bool)
      (seen : ⟨.selectUserByEmail profile.defaultEmail true, some owner⟩ ∈ trace)
      (refreshed : ⟨.refreshUser owner.id role, some copy⟩ ∈ trace) :
      Linked trace profile copy [.insertOAuthAccount ⟨id, YANDEX, profile.id, owner.id⟩]
  | added (user : NewUser) (id : UUID4) (role : Bool) (email : user.email = profile.defaultEmail)
      (plain : user.isSuperuser = false) (refreshed : ⟨.refreshUser user.id role, some copy⟩ ∈ trace) :
      Linked trace profile copy [.insertUser user, .insertOAuthAccount ⟨id, YANDEX, profile.id, user.id⟩]

section Wrote

variable {Token : Type} (app : App Token)

/-- What a request of a service has committed when it returns. -/
inductive Request.Wrote (trace : Trace Reply) : Request Token → Outcome Token → List Write → Prop
  | loginUser (data : UserLoginData) (requestMeta : RequestMeta) (deviceInfo : Option DeviceInfo)
      (pair : TokenData Token) (copy : UserObject) (shown : ByPassword app trace copy data) (history : List Write)
      (recorded : Recorded copy.id requestMeta deviceInfo history) :
      Wrote trace (.loginUser data requestMeta deviceInfo) (.tokens pair) history
  | refreshTokens (refreshToken : Token) (pair : TokenData Token) :
      Wrote trace (.refreshTokens refreshToken) (.tokens pair) []
  | logout (refreshToken : Token) : Wrote trace (.logout refreshToken) .unit []
  | createUser (data : UserCreateIn) (user : NewUser) (salt : String) (roleId : UUID4) (stored : UserObject)
      (email : user.email = data.email) (password : user.passwordHash = app.passwordHash.hash data.password salt)
      (plain : user.isSuperuser = false) (holds : user.roleId = some roleId) (saw : SawDefaultRole trace roleId)
      (refreshed : ⟨.refreshUser user.id false, some stored⟩ ∈ trace) :
      Wrote trace (.createUser data) (.user stored) [.insertUser user]
  | own (accessToken : Token) (operation : UserOperation) (outcome : Outcome Token) (loaded : UserObject)
      (changed : User) (opens : AuthenticatesAs app trace accessToken loaded)
      (change : OwnChange app loaded.toUser operation changed) :
      Wrote trace (.userEndpoint accessToken operation) outcome (userUpdate loaded.toUser changed)
  | read (accessToken : Token) (operation : UserOperation) (outcome : Outcome Token)
      (onlyReads : operation.onlyReads = true) : Wrote trace (.userEndpoint accessToken operation) outcome []
  | listRoles (accessToken : Token) (outcome : Outcome Token) :
      Wrote trace (.roleEndpoint accessToken .getAllRoles) outcome []
  | role (accessToken : Token) (operation : RoleOperation) (outcome : Outcome Token) (seen : Trace Reply)
      (among : ∀ exchange ∈ seen, exchange ∈ trace) (writes : List Write)
      (issues : operation.Issues seen (.commit .request writes)) :
      Wrote trace (.roleEndpoint accessToken operation) outcome writes
  | authorize (code : String) (state : UUID) (requestMeta : RequestMeta) (deviceInfo : DeviceInfo)
      (pair : TokenData Token) (profile : YandexIdUserData) (fetched : SawProfile app trace profile)
      (copy : UserObject) (links history : List Write) (linked : Linked trace profile copy links)
      (recorded : Recorded copy.id requestMeta (some deviceInfo) history) :
      Wrote trace (.authorize code state requestMeta deviceInfo) (.tokens pair) (links ++ history)

end Wrote

section Services

variable {Token : Type} {app : App Token} {trace : Trace Reply}

/-- A program that returns has committed what its service was asked for. -/
def WroteAs {α : Type} (app : App Token) (request : Request Token) (wrap : α → Outcome Token) (trace : Trace Reply)
    (outcome : Except Exn α) : Prop :=
  ∀ value, outcome = .ok value → request.Wrote app trace (wrap value) (written trace)

/-- A service that returns has committed what it was asked for. -/
abbrev Acknowledges (app : App Token) (request : Request Token) : Trace Reply → Except Exn (Outcome Token) → Prop :=
  WroteAs app request id

section WroteAs

variable {α : Type} {request : Request Token} {wrap : α → Outcome Token}

theorem wroteAs_error {error : Exn} : WroteAs app request wrap trace (.error error) := by
  rintro value ⟨⟩

theorem wroteAs_ok {value : α} {writes : List Write} (wrote : request.Wrote app trace (wrap value) writes)
    (all : written trace = writes) : WroteAs app request wrap trace (.ok value) := by
  rintro _ ⟨⟩
  rw [all]
  exact wrote

theorem acknowledges_wrapped (wrap : α → Outcome Token) {program : Action α}
    (along : program.Along (fun _ _ => True) (WroteAs app request wrap) trace) :
    (program.bind fun value => .done (wrap value)).Along (fun _ _ => True) (Acknowledges app request) trace := by
  apply Along.bind along
  · rintro value later wrote _ ⟨⟩
    exact wrote value rfl
  · exact fun _ _ _ => wroteAs_error

/-- A program that only reads. -/
theorem wroteAs_reading {program : Action α} {post : Trace Reply → Except Exn α → Prop}
    (along : program.Along (fun _ call => call.isReading = true) post trace) (clean : written trace = [])
    (wrote : ∀ later value, request.Wrote app later (wrap value) []) :
    program.Along (fun _ _ => True) (WroteAs app request wrap) trace := by
  apply (along_written along).mono fun _ _ _ => trivial
  rintro later _ ⟨_, same⟩ value rfl
  rw [same, clean]
  exact wrote later value

end WroteAs

section Mono

variable {later : Trace Reply} (grown : ∀ exchange ∈ trace, exchange ∈ later)
include grown

theorem Linked.mono {profile : YandexIdUserData} {copy : UserObject} {links : List Write}
    (linked : Linked trace profile copy links) : Linked later profile copy links := by
  cases linked with
  | found seen => exact .found (grown _ seen)
  | linked owner id role seen refreshed => exact .linked owner id role (grown _ seen) (grown _ refreshed)
  | added user id role email plain refreshed => exact .added user id role email plain (grown _ refreshed)

/-- What entitled a request to its writes still does. -/
theorem Request.Wrote.mono {request : Request Token} {value : Outcome Token} {writes : List Write}
    (wrote : request.Wrote app trace value writes) : request.Wrote app later value writes := by
  cases wrote with
  | loginUser data requestMeta deviceInfo pair copy shown history recorded =>
    exact .loginUser data requestMeta deviceInfo pair copy ⟨grown _ shown.1, shown.2⟩ _ recorded
  | refreshTokens refreshToken pair => exact .refreshTokens refreshToken pair
  | logout refreshToken => exact .logout refreshToken
  | createUser data user salt roleId stored email password plain holds saw refreshed =>
    have saw : SawDefaultRole later roleId := by
      obtain ⟨role, same, seen⟩ | created := saw
      · exact .inl ⟨role, same, grown _ seen⟩
      · exact .inr (grown _ created)
    exact .createUser data user salt roleId stored email password plain holds saw (grown _ refreshed)
  | own accessToken operation outcome loaded changed opens change =>
    exact .own accessToken operation value loaded changed (opens.mono grown) change
  | read accessToken operation outcome onlyReads => exact .read accessToken operation value onlyReads
  | listRoles accessToken outcome => exact .listRoles accessToken value
  | role accessToken operation outcome seen among writes issues =>
    exact .role accessToken operation value seen (fun exchange seen => grown _ (among exchange seen)) writes issues
  | authorize code state requestMeta deviceInfo pair profile fetched copy links history linked recorded =>
    obtain ⟨exchange, member, read⟩ := fetched
    exact .authorize code state requestMeta deviceInfo pair profile ⟨exchange, grown _ member, read⟩ copy links history
      (linked.mono grown) recorded

end Mono

/-- What was written stays so while the session closes. -/
theorem acknowledges_session {program : Action (Outcome Token)} {request : Request Token}
    (along : program.Along (fun _ _ => True) (Acknowledges app request) trace) :
    (withSession program).Along (fun _ _ => True) (Acknowledges app request) trace := by
  apply along_withSession fun _ => trivial
  apply along.mono fun _ _ _ => trivial
  rintro later _ acknowledges value rfl
  have same : written (⟨.close, ()⟩ :: later) = written later := written_quiet rfl
  rw [same]
  exact (acknowledges value rfl).mono fun _ => List.mem_cons_of_mem _

theorem issueTokenPair_written (user : UserObject) :
    (issueTokenPair app user).Along (fun _ _ => True)
      (fun later _ => trace <:+ later ∧ written later = written trace) trace := by
  have issues := @issueTokenPair_along _ app trace (fun _ call => call.isReading = true) (fun _ => rfl) (fun _ => rfl)
    user
  apply (along_written issues).mono fun _ _ _ => trivial
  exact fun later outcome ends => ⟨ends.1.1, ends.2⟩

theorem saveLoginHistory_wrote (userId : UUID4) (requestMeta : RequestMeta) (deviceInfo : Option DeviceInfo) :
    (saveLoginHistory userId requestMeta deviceInfo).Along (fun _ _ => True)
      (fun later _ => trace <:+ later ∧ ∃ history, Recorded userId requestMeta deviceInfo history ∧
        written later = written trace ++ history) trace := by
  refine ⟨trivial, fun id => ⟨trivial, fun reply => ?_⟩⟩
  cases reply with
  | ok _ => exact ⟨⟨[_, _], rfl⟩, _, .recorded id, by simp [written_cons, ownWrites]⟩
  | error error => exact ⟨trivial, fun _ => ⟨⟨[_, _, _], rfl⟩, [], .failed, by simp [written_cons, ownWrites]⟩⟩

theorem issue_and_record_wrote (user : UserObject) (requestMeta : RequestMeta) (deviceInfo : Option DeviceInfo) :
    (do
      let tokens ← issueTokenPair app user
      saveLoginHistory user.id requestMeta deviceInfo
      return tokens : Action (TokenData Token)).Along (fun _ _ => True)
      (fun later outcome => ∀ pair, outcome = .ok pair → trace <:+ later ∧
        ∃ history, Recorded user.id requestMeta deviceInfo history ∧ written later = written trace ++ history)
      trace := by
  apply Along.bind (issueTokenPair_written user)
  · rintro tokens middle ⟨grown, same⟩
    apply Along.bind (saveLoginHistory_wrote user.id requestMeta deviceInfo)
    · rintro _ later ⟨more, history, recorded, wrote⟩ pair _
      exact ⟨grown.trans more, history, recorded, by rw [wrote, same]⟩
    · rintro error later _ pair ⟨⟩
  · rintro error later _ pair ⟨⟩

theorem loginUser_wrote (data : UserLoginData) (requestMeta : RequestMeta) (deviceInfo : Option DeviceInfo)
    (clean : written trace = []) :
    (AuthService.loginUser app data requestMeta deviceInfo).Along (fun _ _ => True)
      (WroteAs app (.loginUser data requestMeta deviceInfo) .tokens) trace := by
  refine ⟨trivial, fun found => ?_⟩
  cases found with
  | none => rintro pair ⟨⟩
  | some user =>
    simp only [done_bind]
    split
    · next verified =>
      apply (issue_and_record_wrote user requestMeta deviceInfo).mono fun _ _ _ => trivial
      intro later outcome wrote pair same
      obtain ⟨grown, history, recorded, all⟩ := wrote pair same
      have shown : ByPassword app later user data := ⟨grown.subset List.mem_cons_self, verified⟩
      rw [all, written_read _ rfl, clean, List.nil_append]
      exact .loginUser data requestMeta deviceInfo pair user shown history recorded
    · rintro pair ⟨⟩

theorem logoutOthers_wrote {accessToken : Token} {loaded : UserObject}
    (opens : AuthenticatesAs app trace accessToken loaded) (clean : written trace = []) :
    (AuthService.logoutOthers app loaded).Along (fun _ _ => True)
      (WroteAs app (.userEndpoint accessToken .logoutOthers) .tokens) trace := by
  refine ⟨trivial, fun reply => ?_⟩
  cases reply with
  | error error => exact wroteAs_error
  | ok _ =>
    refine ⟨trivial, fun found => ?_⟩
    cases found with
    | none => exact wroteAs_error
    | some found =>
      apply (issueTokenPair_written _).mono fun _ _ _ => trivial
      rintro later _ ⟨grown, same⟩ pair rfl
      have opens : AuthenticatesAs app later accessToken loaded :=
        opens.mono fun _ seen => grown.subset (List.mem_cons_of_mem _ (List.mem_cons_of_mem _ seen))
      rw [same, written_read _ rfl, written_cons, clean]
      exact .own accessToken .logoutOthers (.tokens pair) loaded _ opens .logoutOthers

theorem createUser_wrote (data : UserCreateIn) (clean : written trace = []) :
    (UserService.createUser app data).Along (fun _ _ => True) (WroteAs app (.createUser data) .user) trace := by
  refine ⟨trivial, fun found => ?_⟩
  cases found with
  | some user => exact wroteAs_error
  | none =>
    refine ⟨trivial, fun salt => ?_⟩
    have calls := @getOrCreateDefaultRole_along (⟨.salt, salt⟩ :: ⟨.selectUserByEmail data.email false, none⟩ :: trace)
      (fun _ call => call.isReading = true) (fun _ => rfl) (fun _ => rfl) fun _ _ _ => rfl
    apply Along.bind (along_written calls)
    · rintro role later ⟨⟨_, saw⟩, same⟩
      have clean : written later = [] := by
        rw [same, written_read _ rfl, written_read _ rfl, clean]
      refine ⟨trivial, fun id => ⟨trivial, fun reply => ?_⟩⟩
      rcases reply with (_ | _ | _) | _
      · exact ⟨trivial, fun _ => wroteAs_error⟩
      · exact wroteAs_error
      · exact wroteAs_error
      · refine ⟨trivial, fun stored => ?_⟩
        cases stored with
        | none => exact wroteAs_error
        | some stored =>
          let user : NewUser :=
            { id, email := data.email, passwordHash := app.passwordHash.hash data.password salt,
              roleId := some role.id }
          refine wroteAs_ok (.createUser data user salt role.id stored rfl rfl rfl rfl ?_ List.mem_cons_self) ?_
          · exact SawDefaultRole.mono saw ⟨[_, _, _], rfl⟩
          · rw [written_read _ rfl, written_cons, written_read _ rfl, clean]
            rfl
    · exact fun _ _ _ => wroteAs_error

theorem changeEmail_wrote (data : UserChangeEmailIn) {accessToken : Token} {loaded : UserObject}
    (opens : AuthenticatesAs app trace accessToken loaded) (clean : written trace = []) :
    (UserService.changeEmail app data loaded).Along (fun _ _ => True)
      (WroteAs app (.userEndpoint accessToken (.changeEmail data)) fun _ => .unit) trace := by
  unfold UserService.changeEmail
  split
  · next verified =>
    refine ⟨trivial, fun reply => ?_⟩
    rcases reply with (_ | _ | _) | _
    · exact ⟨trivial, fun _ => wroteAs_error⟩
    · exact wroteAs_error
    · exact wroteAs_error
    · have opens := opens.mono fun exchange seen => List.mem_cons_of_mem
        (⟨.commit .request (userUpdate loaded.toUser { loaded.toUser with email := data.email }), .ok ()⟩ :
          Exchange Reply) seen
      refine wroteAs_ok (.own accessToken _ .unit loaded _ opens (.email data verified)) ?_
      rw [written_cons, clean]
      rfl
  · exact wroteAs_error

theorem changePassword_wrote (data : UserChangePasswordIn) {accessToken : Token} {loaded : UserObject}
    (opens : AuthenticatesAs app trace accessToken loaded) (clean : written trace = []) :
    (UserService.changePassword app data loaded).Along (fun _ _ => True)
      (WroteAs app (.userEndpoint accessToken (.changePassword data)) fun _ => .unit) trace := by
  unfold UserService.changePassword
  split
  · next verified =>
    refine ⟨trivial, fun salt => ⟨trivial, fun reply => ?_⟩⟩
    cases reply with
    | error error => exact wroteAs_error
    | ok _ =>
      have opens := opens.mono fun exchange seen =>
        List.mem_cons_of_mem (⟨.salt, salt⟩ : Exchange Reply) seen
      refine wroteAs_ok (.own accessToken _ .unit loaded _ (opens.mono fun _ => List.mem_cons_of_mem _)
        (.password data salt verified)) ?_
      rw [written_cons, written_read _ rfl, clean]
      rfl
  · exact wroteAs_error

/-- A commit that an operation issues last. -/
theorem lastCommit_wrote {operation : RoleOperation} {accessToken : Token} {writes : List Write}
    (issues : operation.Issues trace (.commit .request writes)) (clean : written trace = []) :
    (commit .request writes).Along (fun _ _ => True)
      (WroteAs app (.roleEndpoint accessToken operation) fun _ => .unit) trace := by
  refine ⟨trivial, fun reply => ?_⟩
  cases reply with
  | error error => exact wroteAs_error
  | ok _ =>
    refine wroteAs_ok (.role accessToken operation .unit trace (fun _ => List.mem_cons_of_mem _) writes issues) ?_
    rw [written_cons, clean]
    rfl

theorem createRole_wrote (data : RoleCreateIn) (accessToken : Token) (clean : written trace = []) :
    (RoleService.createRole app data).Along (fun _ _ => True)
      (WroteAs app (.roleEndpoint accessToken (.createRole data)) .role) trace := by
  refine ⟨trivial, fun id => along_accept (fun _ => ⟨trivial, fun reply => ?_⟩) fun _ => wroteAs_error⟩
  rcases reply with (_ | _ | _) | _
  · exact ⟨trivial, fun _ => wroteAs_error⟩
  · exact wroteAs_error
  · exact wroteAs_error
  · refine wroteAs_ok (.role accessToken _ _ _ (fun _ => List.mem_cons_of_mem _) _ (.createRole data id)) ?_
    rw [written_cons, written_read _ rfl, clean]
    rfl

theorem modifyRole_wrote (roleId : UUID4) (data : RoleCreateIn) (accessToken : Token) (clean : written trace = []) :
    (RoleService.modifyRole app roleId data).Along (fun _ _ => True)
      (WroteAs app (.roleEndpoint accessToken (.modifyRole roleId data)) fun _ => .unit) trace := by
  refine ⟨trivial, fun found => ?_⟩
  cases found with
  | none => exact wroteAs_error
  | some role =>
    simp only [done_bind]
    split
    · exact wroteAs_error
    · next guarded =>
      refine along_accept (fun _ => ⟨trivial, fun reply => ?_⟩) fun _ => wroteAs_error
      rcases reply with (_ | _ | _) | _
      · exact ⟨trivial, fun _ => wroteAs_error⟩
      · exact wroteAs_error
      · exact wroteAs_error
      · have issues : (RoleOperation.modifyRole roleId data).Issues (⟨.getRole roleId, some role⟩ :: trace) _ :=
          .modifyRole roleId data role List.mem_cons_self (by simpa using guarded)
        refine wroteAs_ok (.role accessToken _ .unit _ (fun _ => List.mem_cons_of_mem _) _ issues) ?_
        rw [written_cons, written_read _ rfl, clean]
        rfl

theorem roleOperation_wrote (operation : RoleOperation) (accessToken : Token) (clean : written trace = []) :
    (operation.program app).Along (fun _ _ => True)
      (Acknowledges app (.roleEndpoint accessToken operation)) trace := by
  cases operation with
  | createRole data => exact acknowledges_wrapped .role (createRole_wrote data accessToken clean)
  | getAllRoles =>
    refine ⟨trivial, fun roles => ?_⟩
    exact wroteAs_ok (.listRoles accessToken _) ((written_read .selectRoles rfl roles).trans clean)
  | removeRole roleId =>
    refine acknowledges_wrapped (fun _ => .unit) ⟨trivial, fun found => ?_⟩
    cases found with
    | none => exact wroteAs_error
    | some role =>
      simp only [done_bind]
      split
      · exact wroteAs_error
      · next free =>
        exact lastCommit_wrote (.removeRole roleId role List.mem_cons_self free)
          ((written_read _ rfl _).trans clean)
  | modifyRole roleId data =>
    exact acknowledges_wrapped (fun _ => .unit) (modifyRole_wrote roleId data accessToken clean)
  | assignRole userId roleId =>
    refine acknowledges_wrapped (fun _ => .unit) ⟨trivial, fun found => ?_⟩
    cases found with
    | none => exact wroteAs_error
    | some user =>
      refine ⟨trivial, fun role => ?_⟩
      cases role with
      | none => exact wroteAs_error
      | some role =>
        apply lastCommit_wrote (.assignRole userId roleId user role (by simp) (by simp))
        rw [written_read _ rfl, written_read _ rfl, clean]
  | revokeRole userId =>
    refine acknowledges_wrapped (fun _ => .unit) ⟨trivial, fun found => ?_⟩
    cases found with
    | none => exact wroteAs_error
    | some user =>
      have clean : written (⟨.getUser userId, some user⟩ :: trace) = [] := (written_read _ rfl _).trans clean
      simp only [done_bind]
      split
      · next superuser => exact lastCommit_wrote (.strip userId user List.mem_cons_self superuser) clean
      · have calls := @getOrCreateDefaultRole_along (⟨.getUser userId, some user⟩ :: trace)
          (fun _ call => call.isReading = true) (fun _ => rfl) (fun _ => rfl) fun _ _ _ => rfl
        apply Along.bind (along_written calls)
        · rintro role later ⟨⟨grown, saw⟩, same⟩
          apply lastCommit_wrote (.revoke userId role.id user (grown.subset List.mem_cons_self) saw)
          exact same.trans clean
        · exact fun _ _ _ => wroteAs_error

/-- A link is committed after what waits for it. -/
theorem attachOauthAccount_wrote (pending : List Write) (owner : UserObject) (providerUserId : String)
    (clean : written trace = []) :
    (attachOauthAccount app pending owner YANDEX providerUserId).Along (fun _ _ => True)
      (fun later outcome => ∀ copy, outcome = .ok copy → trace <:+ later ∧ ∃ id,
        ⟨.refreshUser owner.id (owner.role != .noValue), some copy⟩ ∈ later ∧
          written later = pending ++ [.insertOAuthAccount ⟨id, YANDEX, providerUserId, owner.id⟩]) trace := by
  refine ⟨trivial, fun id => along_accept (fun _ => ⟨trivial, fun reply => ?_⟩) fun _ => nofun⟩
  rcases reply with (_ | _ | _) | _
  · refine ⟨trivial, fun _ => ?_⟩
    rintro copy ⟨⟩
  · rintro copy ⟨⟩
  · rintro copy ⟨⟩
  · refine ⟨trivial, fun found => ?_⟩
    cases found with
    | none => rintro copy ⟨⟩
    | some copy =>
      rintro _ ⟨⟩
      refine ⟨⟨[_, _, _], rfl⟩, id, List.mem_cons_self, ?_⟩
      rw [written_read _ rfl, written_cons, written_read _ rfl, clean]
      rfl

theorem resolveUser_wrote (profile : YandexIdUserData) (clean : written trace = []) :
    (resolveUser app profile).Along (fun _ _ => True)
      (fun later outcome => ∀ user, outcome = .ok (some user) → trace <:+ later ∧
        ∃ copy, user.id = copy.id ∧ Linked later profile copy (written later)) trace := by
  refine ⟨trivial, fun linked => along_accept (fun _ => ?_) fun _ => nofun⟩
  cases linked with
  | some linked =>
    rintro _ ⟨⟩
    refine ⟨List.suffix_cons _ _, linked, rfl, ?_⟩
    rw [written_read _ rfl, clean]
    exact .found List.mem_cons_self
  | none =>
    refine ⟨trivial, fun found => ?_⟩
    have clean : written (⟨.selectUserByEmail profile.defaultEmail true, found⟩ ::
        ⟨.selectLinkedUser YANDEX profile.id, none⟩ :: trace) = [] := by
      rw [written_read _ rfl, written_read _ rfl, clean]
    cases found with
    | some owner =>
      simp only [done_bind]
      apply Along.bind (attachOauthAccount_wrote [] owner profile.id clean)
      · rintro copy later attached _ ⟨⟩
        obtain ⟨grown, id, refreshed, all⟩ := attached copy rfl
        refine ⟨(List.suffix_append [_, _] trace).trans grown, copy, rfl, ?_⟩
        rw [all]
        exact .linked owner id _ (grown.subset List.mem_cons_self) refreshed
      · rintro error later _ user ⟨⟩
    | none =>
      simp only [done_bind]
      have calls := @getOrCreateDefaultRole_along (⟨.selectUserByEmail profile.defaultEmail true, none⟩ ::
        ⟨.selectLinkedUser YANDEX profile.id, none⟩ :: trace) (fun _ call => call.isReading = true) (fun _ => rfl)
        (fun _ => rfl) fun _ _ _ => rfl
      apply Along.bind (along_written calls)
      · rintro role later ⟨⟨grown, _⟩, same⟩
        refine ⟨trivial, fun password => ⟨trivial, fun salt => ⟨trivial, fun id => along_accept
          (fun _ => ⟨trivial, fun reply => ?_⟩) fun _ => nofun⟩⟩⟩
        cases reply with
        | error error => rintro user ⟨⟩
        | ok _ =>
          simp only [attempt_ok, done_bind]
          refine Along.bind (attachOauthAccount_wrote _ _ profile.id ?_) ?_ ?_
          · rw [written_quiet rfl, written_read _ rfl, written_read _ rfl, written_read _ rfl, same, clean]
          · rintro created last attached
            obtain ⟨more, linkId, refreshed, all⟩ := attached created rfl
            refine ⟨trivial, fun found => ?_⟩
            cases found with
            | none => rintro user ⟨⟩
            | some stored =>
              rintro _ ⟨⟩
              refine ⟨?_, created, rfl, ?_⟩
              · refine ((List.suffix_append [_, _] trace).trans grown).trans ?_
                exact ((List.suffix_append [_, _, _, _] later).trans more).trans (List.suffix_cons _ _)
              · rw [written_read _ rfl, all]
                exact .added _ linkId _ rfl rfl (List.mem_cons_of_mem _ refreshed)
          · rintro error last _ user ⟨⟩
      · rintro error later _ user ⟨⟩

theorem authorize_wrote (code : String) (state : UUID) (requestMeta : RequestMeta) (deviceInfo : DeviceInfo)
    (clean : written trace = []) :
    (authorize app code state requestMeta deviceInfo).Along (fun _ _ => True)
      (WroteAs app (.authorize code state requestMeta deviceInfo) .tokens) trace := by
  apply Along.bind (along_written (consumeCachedState_along state rfl))
  · rintro codeVerifier first ⟨_, same⟩
    have clean := same.trans clean
    apply Along.bind (along_written (exchangeCode_along code codeVerifier deviceInfo rfl))
    · rintro tokenData second ⟨_, same⟩
      have clean := same.trans clean
      have fetches := @fetchUserInfo_along _ app second (fun _ call => call.isReading = true) tokenData.accessToken
        fun _ _ _ _ => rfl
      apply Along.bind (along_written fetches)
      · rintro profile third ⟨⟨_, fetched⟩, same⟩
        have clean := same.trans clean
        apply Along.bind (resolveUser_wrote profile clean)
        · intro resolved fourth resolves
          cases resolved with
          | none => exact ⟨trivial, fun _ => wroteAs_error⟩
          | some user =>
            obtain ⟨grown, copy, owner, linked⟩ := resolves user rfl
            apply (issue_and_record_wrote user requestMeta (some deviceInfo)).mono fun _ _ _ => trivial
            rintro later _ wrote pair rfl
            obtain ⟨more, history, recorded, all⟩ := wrote pair rfl
            rw [all]
            exact .authorize code state requestMeta deviceInfo pair profile
              (SawProfile.mono fetched (grown.trans more)) copy _ history (linked.mono fun _ seen => more.subset seen)
              (owner ▸ recorded)
        · exact fun _ _ _ => wroteAs_error
      · exact fun _ _ _ => wroteAs_error
    · exact fun _ _ _ => wroteAs_error
  · exact fun _ _ _ => wroteAs_error

end Services

section Asked

variable {Token : Type} {app : App Token} {request : ApiRequest Token}

/-- What a service has committed when it returns. -/
inductive Service.Wrote (app : App Token) (trace : Trace Reply) :
    Service Token → ServiceResult Token → List Write → Prop
  | request (asked : Request Token) (outcome : Outcome Token) (writes : List Write)
      (wrote : asked.Wrote app trace outcome writes) : Wrote app trace (.request asked) (.outcome outcome) writes
  | buildLoginRedirect (state : UUID) (url : String) : Wrote app trace (.buildLoginRedirect state) (.redirect url) []

theorem Service.Wrote.mono {trace later : Trace Reply} {service : Service Token} {result : ServiceResult Token}
    {writes : List Write} (wrote : service.Wrote app trace result writes)
    (grown : ∀ exchange ∈ trace, exchange ∈ later) : service.Wrote app later result writes := by
  cases wrote with
  | request asked outcome writes wrote => exact .request asked outcome _ (wrote.mono grown)
  | buildLoginRedirect state url => exact .buildLoginRedirect state url

/-- A service that returns has committed what it was asked for. -/
def Service.Returns (app : App Token) (service : Service Token) (trace : Trace Reply)
    (outcome : Except Exn (ServiceResult Token)) : Prop :=
  ∀ result, outcome = .ok result → service.Wrote app trace result (written trace)

theorem request_returns {asked : Request Token}
    (along : (asked.program app).Along (fun _ _ => True) (Acknowledges app asked) []) :
    ((Service.request asked).program app).Along (fun _ _ => True) ((Service.request asked).Returns app) [] := by
  apply Along.bind along
  · rintro outcome later wrote _ ⟨⟩
    exact .request asked outcome _ (wrote outcome rfl)
  · rintro error later _ result ⟨⟩

/-- One operation behind the gate of the own account. -/
theorem userEndpoint_wrote {accessToken : Token} {operation : UserOperation}
    (along : ∀ user later, AuthenticatesAs app later accessToken user → written later = [] →
      (operation.program app user).Along (fun _ _ => True)
        (Acknowledges app (.userEndpoint accessToken operation)) later) :
    ((Request.userEndpoint accessToken operation).program app).Along (fun _ _ => True)
      (Acknowledges app (.userEndpoint accessToken operation)) [] := by
  apply acknowledges_session
  apply Along.bind (along_written (getTokenUser_authenticates accessToken (fun _ => rfl) fun _ _ => rfl))
  · rintro user later ⟨opens, clean⟩
    exact along user later (opens user rfl) clean
  · exact fun _ _ _ => wroteAs_error

theorem userOperation_wrote (accessToken : Token) (operation : UserOperation) :
    ((Request.userEndpoint accessToken operation).program app).Along (fun _ _ => True)
      (Acknowledges app (.userEndpoint accessToken operation)) [] := by
  apply userEndpoint_wrote
  intro user later opens clean
  cases operation with
  | checkAccess => exact wroteAs_ok (.read accessToken _ _ rfl) clean
  | getUserInfo =>
    refine acknowledges_wrapped .user ⟨trivial, fun found => ?_⟩
    cases found with
    | none => exact wroteAs_error
    | some found => exact wroteAs_ok (.read accessToken _ _ rfl) ((written_read _ rfl _).trans clean)
  | changeEmail data => exact acknowledges_wrapped (fun _ => .unit) (changeEmail_wrote data opens clean)
  | changePassword data => exact acknowledges_wrapped (fun _ => .unit) (changePassword_wrote data opens clean)
  | getLoginHistory page pageSize =>
    refine acknowledges_wrapped .loginHistory (along_accept (fun _ => ⟨trivial, fun rows => ?_⟩) fun _ =>
      wroteAs_error)
    exact wroteAs_ok (.read accessToken _ _ rfl) ((written_read (.selectLoginHistory _ _ _) rfl rows).trans clean)
  | logoutOthers => exact acknowledges_wrapped .tokens (logoutOthers_wrote opens clean)

theorem buildLoginRedirect_reading (state : UUID) {trace : Trace Reply} :
    (buildLoginRedirect app state).Along (fun _ call => call.isReading = true) (fun _ _ => True) trace := by
  refine ⟨rfl, fun codeVerifier => ?_⟩
  simp only [done_bind]
  cases buildLoginParams app state codeVerifier with
  | error error => trivial
  | ok loginParams =>
    refine ⟨rfl, fun reply => ?_⟩
    cases reply <;> trivial

/-- Every service of a request commits what it is asked for. -/
theorem ApiRequest.Asks.returns {service : Service Token} (asks : request.Asks app service)
    (something : service.asksNothing = false) :
    (service.program app).Along (fun _ _ => True) (service.Returns app) [] := by
  cases asks with
  | idle => cases something
  | gate => cases something
  | checkAccess => cases something
  | issueTokens http data deviceInfo =>
    apply request_returns
    exact acknowledges_session (acknowledges_wrapped .tokens (loginUser_wrote data _ (some deviceInfo) rfl))
  | refreshTokens http refreshToken =>
    apply request_returns
    apply acknowledges_session (acknowledges_wrapped .tokens _)
    exact wroteAs_reading (refreshTokens_along (fun _ => rfl) (fun _ => rfl) (fun _ _ _ => rfl) (fun _ _ _ => rfl)
      fun _ _ _ _ _ _ _ _ => rfl) rfl fun later pair => .refreshTokens refreshToken pair
  | logout http refreshToken =>
    apply request_returns
    apply acknowledges_session (acknowledges_wrapped (fun _ => .unit) _)
    exact wroteAs_reading (logout_along (fun _ => rfl) fun _ _ _ _ _ _ _ _ => rfl) rfl
      fun later _ => .logout refreshToken
  | createUser http data =>
    exact request_returns (acknowledges_session (acknowledges_wrapped .user (createUser_wrote data rfl)))
  | logoutOthers http accessToken => exact request_returns (userOperation_wrote accessToken _)
  | userInfo http accessToken => exact request_returns (userOperation_wrote accessToken _)
  | changeEmail http accessToken data => exact request_returns (userOperation_wrote accessToken _)
  | changePassword http accessToken data => exact request_returns (userOperation_wrote accessToken _)
  | getLoginHistory http accessToken page pageSize => exact request_returns (userOperation_wrote accessToken _)
  | role _ accessToken operation authenticated valid =>
    apply request_returns
    have gate := @ensureSuperuser_along _ app [] (fun _ call => call.isReading = true) (fun _ => rfl) accessToken
    apply Along.bind (along_written gate)
    · rintro _ later ⟨_, clean⟩
      exact acknowledges_session (roleOperation_wrote operation accessToken clean)
    · exact fun _ _ _ => wroteAs_error
  | oauthLogin http state =>
    apply along_withSession fun _ => trivial
    apply Along.bind (along_written (buildLoginRedirect_reading state.val))
    · rintro url later ⟨_, clean⟩ _ ⟨⟩
      rw [written_quiet rfl, clean]
      exact .buildLoginRedirect state.val url
    · rintro error later _ result ⟨⟩
  | confirmLoginYandex http code state deviceInfo =>
    apply request_returns
    exact acknowledges_session (acknowledges_wrapped .tokens (authorize_wrote code state _ deviceInfo rfl))

end Asked

end AuthApi
