import AuthApi.Interleaving.Origins
import AuthApi.Run.Acknowledged

/-! # Who changes an account

The email, the password and the token version of a user change only at the request of the user: the request
presented an access token of that user with the version of the row it read, and the current password where a
password or an email is replaced. So an email passes from one account to another only when its owner gives it up.
-/

namespace AuthApi

open Interleaving Interleaving.Program Relational

variable {Token : Type}

/-- A request on the own account commits a change of the row its token has opened. -/
def ActsForOwner (app : App Token) (request : Request Token) (trace : Trace Reply) (call : Call) : Prop :=
  ∀ accessToken operation session writes, request = .userEndpoint accessToken operation →
    call = .commit session writes → ∃ (loaded : UserObject) (changed : User),
      AuthenticatesAs app trace accessToken loaded ∧ OwnChange app loaded.toUser operation changed ∧
        writes = userUpdate loaded.toUser changed

section Programs

variable {app : App Token} {request : Request Token} {trace : Trace Reply}

theorem actsForOwner_of_silent {call : Call} (silent : call.isSilent = true) : ActsForOwner app request trace call := by
  rintro accessToken operation session writes _ rfl
  cases silent

/-- The commit of an operation, made of the row that the token has opened. -/
theorem actsForOwner_commit {accessToken : Token} {operation : UserOperation} {loaded : UserObject} {changed : User}
    (opens : AuthenticatesAs app trace accessToken loaded) (change : OwnChange app loaded.toUser operation changed) :
    ActsForOwner app (.userEndpoint accessToken operation) trace
      (.commit .request (userUpdate loaded.toUser changed)) := by
  rintro _ _ _ _ ⟨⟩ ⟨⟩
  exact ⟨loaded, changed, opens, change, rfl⟩

theorem userOperation_actsForOwner {accessToken : Token} (operation : UserOperation) {loaded : UserObject}
    (opens : AuthenticatesAs app trace accessToken loaded) :
    (operation.program app loaded).Along (ActsForOwner app (.userEndpoint accessToken operation)) (fun _ _ => True)
      trace := by
  have silent (later : Trace Reply) (call : Call) (silent : call.isSilent = true) :
      ActsForOwner app (.userEndpoint accessToken operation) later call := actsForOwner_of_silent silent
  cases operation with
  | checkAccess => trivial
  | getUserInfo =>
    refine ⟨silent _ _ rfl, fun found => ?_⟩
    cases found <;> trivial
  | changeEmail data =>
    refine Along.bind (q := fun _ _ => True) ?_ (fun _ _ _ => trivial) fun _ _ _ => trivial
    unfold UserService.changeEmail
    split
    · next verified =>
      refine ⟨actsForOwner_commit opens (.email data verified), fun reply => ?_⟩
      rcases reply with (_ | _ | _) | _
      · exact ⟨silent _ _ rfl, fun _ => trivial⟩
      · trivial
      · trivial
      · trivial
    · trivial
  | changePassword data =>
    refine Along.bind (q := fun _ _ => True) ?_ (fun _ _ _ => trivial) fun _ _ _ => trivial
    unfold UserService.changePassword
    split
    · next verified =>
      refine ⟨silent _ _ rfl, fun salt => ⟨?_, ?_⟩⟩
      · exact actsForOwner_commit (opens.mono fun _ => List.mem_cons_of_mem _) (.password data salt verified)
      · intro reply
        cases reply <;> trivial
    · trivial
  | getLoginHistory page pageSize => exact historyPage_along (silent _ _ rfl)
  | logoutOthers =>
    refine Along.bind (q := fun _ _ => True) ?_ (fun _ _ _ => trivial) fun _ _ _ => trivial
    apply logoutOthers_along loaded
    · exact fun _ => silent _ _ rfl
    · exact fun _ => silent _ _ rfl
    · exact fun _ => silent _ _ rfl
    · exact actsForOwner_commit opens .logoutOthers

/-- Every request acts for the owner of the account. -/
theorem Request.actsForOwner (app : App Token) (request : Request Token) :
    (request.program app).Along (ActsForOwner app request) (fun _ _ => True) [] := by
  cases request with
  | userEndpoint accessToken operation =>
    apply along_withSession fun _ => actsForOwner_of_silent rfl
    apply Along.bind (getTokenUser_authenticates accessToken (fun _ => actsForOwner_of_silent rfl)
      fun _ _ => actsForOwner_of_silent rfl)
    · intro user later opens
      exact userOperation_actsForOwner operation (opens user rfl)
    · exact fun _ _ _ => trivial
  | _ =>
    apply along_any.mono
    · rintro _ _ _ _ _ _ _ ⟨⟩
    · exact fun _ _ _ => trivial

end Programs

/-- What an event may do to the row of an account, and on whose request. -/
structure ChangesByOwner (app : App Token) (request : ApiRequest Token) (trace : Trace Reply) (user later : User) :
    Prop where
  isSuperuser : later.isSuperuser = user.isSuperuser
  email : later.email ≠ user.email → ∃ http accessToken data loaded,
    request = .changeEmail http (.bearer accessToken) (.data data) ∧
      AuthenticatesAs app trace accessToken loaded ∧ loaded.id = user.id ∧
      app.passwordHash.verify data.password loaded.passwordHash ∧ later.email = data.email
  password : later.passwordHash ≠ user.passwordHash → ∃ http accessToken data loaded salt,
    request = .changePassword http (.bearer accessToken) (.data data) ∧
      AuthenticatesAs app trace accessToken loaded ∧ loaded.id = user.id ∧
      app.passwordHash.verify data.oldPassword loaded.passwordHash ∧
      later.passwordHash = app.passwordHash.hash data.newPassword salt ∧
      later.tokenVersion = loaded.tokenVersion + 1
  version : later.tokenVersion ≠ user.tokenVersion → ∃ http accessToken loaded,
    (request = .logoutOthers http (.bearer accessToken) ∨
      ∃ data, request = .changePassword http (.bearer accessToken) (.data data)) ∧
      AuthenticatesAs app trace accessToken loaded ∧ loaded.id = user.id ∧
      later.tokenVersion = loaded.tokenVersion + 1

section Rows

variable {app : App Token} {trace : Trace Reply} {user later : User}

/-- A row with the credentials it had. -/
theorem ChangesByOwner.kept {request : ApiRequest Token} (isSuperuser : later.isSuperuser = user.isSuperuser)
    (email : later.email = user.email) (password : later.passwordHash = user.passwordHash)
    (version : later.tokenVersion = user.tokenVersion) : ChangesByOwner app request trace user later :=
  ⟨isSuperuser, fun differs => absurd email differs, fun differs => absurd password differs,
    fun differs => absurd version differs⟩

/-- A column that an UPDATE changes gets the value of the instance. -/
theorem written_of_changed {α : Type} [DecidableEq α] {loaded current stored later : α}
    (column : later = (changed loaded current).getD stored) (differs : later ≠ stored) : later = current := by
  unfold changed at column
  split at column
  · exact absurd column differs
  · exact column

/-- The row after the commit of its owner. -/
theorem OwnChange.changes {request : ApiRequest Token} {accessToken : Token} {operation : UserOperation}
    {loaded : UserObject} {changed : User} (change : OwnChange app loaded.toUser operation changed)
    (asks : request.Asks app (.request (.userEndpoint accessToken operation)))
    (opens : AuthenticatesAs app trace accessToken loaded) (owner : loaded.id = user.id) {amended : User → User}
    (described : (UserPatch.diff loaded.toUser changed).Describes amended) :
    ChangesByOwner app request trace user (amended user) := by
  have isSuperuser := described.isSuperuser user
  have email := described.email user
  have password := described.passwordHash user
  have version := described.tokenVersion user
  cases change with
  | email data verified =>
    obtain ⟨http, rfl⟩ : ∃ http, request = .changeEmail http (.bearer accessToken) (.data data) := by
      cases asks with
      | changeEmail http => exact ⟨http, rfl⟩
    simp only [UserPatch.diff, changed_self, Option.getD_none] at isSuperuser password version
    refine ⟨isSuperuser, fun differs => ?_, fun differs => absurd password differs,
      fun differs => absurd version differs⟩
    exact ⟨http, accessToken, data, loaded, rfl, opens, owner, verified, written_of_changed email differs⟩
  | password data salt verified =>
    obtain ⟨http, rfl⟩ : ∃ http, request = .changePassword http (.bearer accessToken) (.data data) := by
      cases asks with
      | changePassword http => exact ⟨http, rfl⟩
    have bumped : (amended user).tokenVersion = loaded.tokenVersion + 1 := by
      rw [version]
      simp [UserPatch.diff, AuthApi.changed]
    simp only [UserPatch.diff, changed_self, Option.getD_none] at isSuperuser email
    refine ⟨isSuperuser, fun differs => absurd email differs, fun differs => ?_, fun _ => ?_⟩
    · exact ⟨http, accessToken, data, loaded, salt, rfl, opens, owner, verified, written_of_changed password differs,
        bumped⟩
    · exact ⟨http, accessToken, loaded, .inr ⟨data, rfl⟩, opens, owner, bumped⟩
  | logoutOthers =>
    obtain ⟨http, rfl⟩ : ∃ http, request = .logoutOthers http (.bearer accessToken) := by
      cases asks with
      | logoutOthers http => exact ⟨http, rfl⟩
    simp only [UserPatch.diff, changed_self, Option.getD_none] at isSuperuser email password
    refine ⟨isSuperuser, fun differs => absurd email differs, fun differs => absurd password differs, fun differs => ?_⟩
    exact ⟨http, accessToken, loaded, .inl rfl, opens, owner, written_of_changed version differs⟩

/-- The users after an event of a request that is not on an account of its own. -/
theorem UsersStep.credentials_kept {request : Request Token} {writes : List Write} {defaults : ModelDefaults}
    {before after : List User} (step : UsersStep request trace writes defaults before after)
    (others : ∀ accessToken operation, request ≠ .userEndpoint accessToken operation) {id : UUID4}
    (found : lookup User.id before id = some user) :
    ∃ later, lookup User.id after id = some later ∧ later.isSuperuser = user.isSuperuser ∧
      later.email = user.email ∧ later.passwordHash = user.passwordHash ∧ later.tokenVersion = user.tokenVersion := by
  cases step with
  | same => exact ⟨user, found, rfl, rfl, rfl, rfl⟩
  | insertPlain inserted roleId plain holds seen member =>
    exact ⟨user, lookup_append_of_some found, rfl, rfl, rfl, rfl⟩
  | insertSuperuser inserted flag email password requested =>
    exact ⟨user, lookup_append_of_some found, rfl, rfl, rfl, rfl⟩
  | update readId loaded seen changed allowed shape change described =>
    by_cases owner : id = loaded.id
    · subst owner
      refine ⟨change user, by rw [lookup_amend_self described.id, found]; rfl, ?_⟩
      rw [described.isSuperuser, described.email, described.passwordHash, described.tokenVersion]
      cases allowed with
      | email accessToken data requested => exact absurd requested (others _ _)
      | password accessToken data passwordHash requested => exact absurd requested (others _ _)
      | logoutOthers accessToken requested => exact absurd requested (others _ _)
      | _ => simp [UserPatch.diff]
    · exact ⟨user, by rw [lookup_amend_of_ne described.id owner, found], rfl, rfl, rfl, rfl⟩
  | dropRole readId role seen free shape =>
    refine ⟨user.dropRole role.id, by rw [lookup_map (User.dropRole_id role.id), found]; rfl, ?_⟩
    unfold User.dropRole
    split <;> exact ⟨rfl, rfl, rfl, rfl⟩

end Rows

section Runs

variable {app : App Token} {condition : Condition Tid Reply World} {world : World}
  {requests : Tid → ApiRequest Token} {config : ApiConfig Token} {older : List ServiceEvent} {event : ServiceEvent}

/-- What a commit of a request on an own account writes. -/
theorem ActsForOwner.commits {accessToken : Token} {operation : UserOperation} {shown : Trace Reply}
    (acts : ActsForOwner app (.userEndpoint accessToken operation) shown event.request) :
    committed event = [] ∨ ∃ (loaded : UserObject) (changed : User),
      AuthenticatesAs app shown accessToken loaded ∧ OwnChange app loaded.toUser operation changed ∧
        committed event = userUpdate loaded.toUser changed := by
  obtain ⟨thread, call, reply, eventBefore, eventAfter⟩ := event
  cases call with
  | commit session writes =>
    cases reply with
    | error error => exact .inl rfl
    | ok _ => exact .inr (acts accessToken operation session writes rfl rfl)
  | _ => exact .inl rfl

/-- What one event does to the row of an account. -/
theorem account_step
    (lawful : LawfulEvent answers condition (fun tid => (requests tid).Issues app
      (ServiceObeys app (ActsForOwner app))) world older event) {id : UUID4} {user : User}
    (before : event.before.db.user? id = some user) :
    ∃ later, event.after.db.user? id = some later ∧
      ChangesByOwner app (requests event.thread) (traceOf older event.thread) user later := by
  obtain none | ⟨request, shown, asks, shows, allowed, acts⟩ := api_obeys lawful
  · exact ⟨user, by rw [db_of_committed_nil lawful none, before], .kept rfl rfl rfl rfl⟩
  by_cases own : ∃ accessToken operation, request = .userEndpoint accessToken operation
  · obtain ⟨accessToken, operation, rfl⟩ := own
    obtain none | ⟨loaded, changed, opens, change, writes⟩ := acts.commits
    · exact ⟨user, by rw [db_of_committed_nil lawful none, before], .kept rfl rfl rfl rfl⟩
    have written := event_db lawful
    rw [writes] at written
    obtain ⟨amended, described, tables⟩ := Database.writeAll_userUpdate written
    unfold Database.user? at before ⊢
    rw [tables]
    by_cases owner : id = loaded.id
    · subst owner
      refine ⟨amended user, by rw [lookup_amend_self described.id, before]; rfl, ?_⟩
      exact change.changes asks (opens.mono fun _ seen => shows.sublist.subset seen) (lookup_key before).symm described
    · exact ⟨user, by rw [lookup_amend_of_ne described.id owner, before], .kept rfl rfl rfl rfl⟩
  · obtain ⟨earlier, same, service⟩ := service_event lawful.answered allowed
    obtain ⟨later, found, isSuperuser, email, password, version⟩ :=
      (rows_step service).users.credentials_kept (fun accessToken operation same => own ⟨accessToken, operation, same⟩)
        before
    exact ⟨later, found, .kept isSuperuser email password version⟩

theorem api_actsForOwner (run : Reaches answers condition (receivedAll app world requests) config) :
    Lawful answers condition (fun tid => (requests tid).Issues app (ServiceObeys app (ActsForOwner app))) world
      config.past ∧ config.now = stateAfter world config.past := by
  have course := api_course _ _ run fun tid => (requests tid).along fun service _ =>
    service.obeys fun request _ => request.actsForOwner app
  exact ⟨course.lawful, course.now_eq⟩

/-- Every account is kept by every event, and its email, its password and its token version change at the request
of its owner only: a client with an access token of the account, and with the password where a password or an
email is replaced. -/
theorem accounts_change_by_owners (run : Reaches answers unrestricted (receivedAll app world requests) config)
    {newer : List ServiceEvent} (split : config.past = newer ++ event :: older) {id : UUID4} {user : User}
    (before : event.before.db.user? id = some user) :
    ∃ later, event.after.db.user? id = some later ∧
      ChangesByOwner app (requests event.thread) (traceOf older event.thread) user later := by
  obtain ⟨lawful, _⟩ := api_actsForOwner run
  rw [split] at lawful
  exact account_step lawful.event before

/-- The superuser replaces its password. -/
theorem accounts_change_by_owners_password : ∃ (event : ServiceEvent) (older : List ServiceEvent) (later : User),
    event.before.db.user? (numbered 2) = some adminRow ∧ event.after.db.user? (numbered 2) = some later ∧
      later.passwordHash = "better" ∧
      ChangesByOwner transparentApp
        (.changePassword ⟨"POST", none, [], [], []⟩ (.bearer (adminAccess 1)) (.data ⟨"password", "better"⟩))
        (traceOf older event.thread) adminRow later := by
  have played : ((receivedAll transparentApp bootstrappedWorld fun _ =>
      .changePassword ⟨"POST", none, [], [], []⟩ (.bearer (adminAccess 1)) (.data ⟨"password", "better"⟩)).playAll
        World.answer unrestricted [move 0, move 0, move 0, move 0, move 0]).any
      (fun config => config.past.head?.any fun event =>
        decide (event.before.db.user? (numbered 2) = some adminRow ∧
          (event.after.db.user? (numbered 2)).map User.passwordHash = some "better")) = true := by
    decide
  obtain ⟨config, run, checked⟩ := Config.playAll_exists played
  obtain ⟨event, newest, checked⟩ := (Option.any_eq_true _ _).mp checked
  obtain ⟨stored, replaced⟩ := of_decide_eq_true checked
  obtain ⟨older, split⟩ := List.head?_eq_some_iff.mp newest
  have split : config.past = [] ++ event :: older := split
  obtain ⟨later, found, changes⟩ := accounts_change_by_owners run split stored
  rw [found] at replaced
  exact ⟨event, older, later, stored, found, Option.some.inj replaced, changes⟩

end Runs

/-- The owner of an account replaces its email. -/
def GivesUpEmail (app : App Token) (request : ApiRequest Token) (trace : Trace Reply) (holder : User)
    (after : World) : Prop :=
  ∃ http accessToken data loaded, request = .changeEmail http (.bearer accessToken) (.data data) ∧
    AuthenticatesAs app trace accessToken loaded ∧ loaded.id = holder.id ∧
      app.passwordHash.verify data.password loaded.passwordHash ∧ data.email ≠ holder.email ∧
        ∃ later, after.db.user? holder.id = some later ∧ later.email = data.email

section Emails

variable {app : App Token} {world : World} {requests : Tid → ApiRequest Token} {config : ApiConfig Token}
  {older : List ServiceEvent} {holder other : User}

/-- An email that has been of one account and is now of another was given up by the owner of the first in between. -/
theorem emails_change_hands (run : Reaches answers unrestricted (receivedAll app world requests) config)
    (suffix : older <:+ config.past) (held : holder ∈ (stateAfter world older).db.users)
    (holds : other ∈ config.now.db.users) (email : other.email = holder.email) (others : other.id ≠ holder.id) :
    ∃ front event back, config.past = front ++ event :: back ∧ older <:+ back ∧
      GivesUpEmail app (requests event.thread) (traceOf back event.thread) holder event.after := by
  obtain ⟨lawful, now_eq⟩ := api_actsForOwner run
  obtain ⟨newer, split⟩ := suffix
  rw [← split] at lawful now_eq
  -- as long as the account has the email, no other account can
  let keeps (state : World) : Prop := ∃ row, state.db.user? holder.id = some row ∧ row.email = holder.email
  have kept : keeps (stateAfter world older) := ⟨holder, Database.user?_of_mem held, rfl⟩
  have lost : ¬ keeps (stateAfter world (newer ++ older)) := by
    rintro ⟨row, found, same⟩
    rw [← now_eq] at found
    have equal := List.inj_on_of_nodup_map config.now.db.consistent.userEmails holds (lookup_mem found)
      (email.trans same.symm)
    subst equal
    exact others (lookup_key found)
  obtain ⟨front, event, back, rfl, ⟨row, before, same⟩, after⟩ := lawful.ends_between kept lost
  rw [List.append_assoc, List.cons_append] at split lawful
  obtain ⟨later, found, changes⟩ := account_step lawful.event before
  have differs : later.email ≠ holder.email := fun still => after ⟨later, found, still⟩
  obtain ⟨http, accessToken, data, loaded, asked, opens, owner, verified, replaced⟩ :=
    changes.email (same.symm ▸ differs)
  refine ⟨front, event, back ++ older, split.symm, List.suffix_append _ _, ?_⟩
  have same_id : row.id = holder.id := lookup_key before
  exact ⟨http, accessToken, data, loaded, asked, opens, owner.trans same_id, verified, replaced ▸ differs, later,
    found, replaced⟩

end Emails

private def givesUp : Tid → ApiRequest Claims
  | 0 => .changeEmail ⟨"POST", none, [], [], []⟩ (.bearer (adminAccess 1)) (.data ⟨"new@example.com", "password"⟩)
  | _ => .createUser ⟨"POST", none, [], [], []⟩ (.data ⟨"admin@example.com", "secret"⟩)

/-- A user registers with the email that the superuser had. -/
theorem emails_change_hands_registration : ∃ (event : ServiceEvent) (back : List ServiceEvent) (other : User),
    other.id ≠ adminRow.id ∧ other.email = "admin@example.com" ∧
      GivesUpEmail transparentApp (givesUp event.thread) (traceOf back event.thread) adminRow event.after := by
  have played : ((receivedAll transparentApp bootstrappedWorld givesUp).playAll World.answer unrestricted
      [move 0, move 0, move 0, move 0, move 0, move 1, move 1, move 1, move 1, move 1, move 1 5, move 1]).any
      (fun config => config.now.db.users.any fun other =>
        decide (other.id ≠ adminRow.id ∧ other.email = "admin@example.com")) = true := by
    decide +kernel
  obtain ⟨config, run, checked⟩ := Config.playAll_exists played
  obtain ⟨other, holds, checked⟩ := List.any_eq_true.mp checked
  obtain ⟨others, email⟩ := of_decide_eq_true checked
  have held : adminRow ∈ (stateAfter bootstrappedWorld ([] : List ServiceEvent)).db.users := List.mem_singleton_self _
  obtain ⟨front, event, back, _, _, gives⟩ :=
    emails_change_hands run (List.nil_suffix) held holds email others
  exact ⟨event, back, other, others, email, gives⟩

end AuthApi
