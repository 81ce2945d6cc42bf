import AuthApi.Run.AloneIssuance
import AuthApi.Run.Provider
import AuthApi.Run.Tables

/-! # What requests that run alone do to the credentials

For each operation on accounts: how it ends and which users it leaves. A request that fails leaves
the users as they were, because nothing that follows its commit can fail.
-/

namespace AuthApi

open Interleaving Interleaving.Program Relational DbHelpers Dependencies YandexIdService

def Write.keepsUsers : Write → Bool
  | .insertUser _ => false
  | .updateUser _ _ => false
  | .deleteRole _ => false
  | _ => true

def Call.keepsUsers : Call → Bool
  | .commit _ writes => writes.all Write.keepsUsers
  | _ => true

theorem Database.writeAll_users {db next : Database} {defaults : ModelDefaults} {now : Time}
    {writes : List Write} (written : db.writeAll defaults now writes = .ok next)
    (keeps : writes.all Write.keepsUsers = true) : next.users = db.users := by
  induction writes generalizing db with
  | nil =>
    cases written
    rfl
  | cons first rest ih =>
    rw [List.all_cons, Bool.and_eq_true] at keeps
    rw [writeAll] at written
    split at written
    · cases written
    · next middle done =>
      rw [ih written keeps.2]
      have tables := Database.write_ok done
      cases first with
      | insertUser user => cases keeps.1
      | updateUser id patch => cases keeps.1
      | deleteRole id => cases keeps.1
      | updateRole id patch =>
        simp only [Tables.write] at tables
        split at tables
        · rw [← Except.ok.inj tables]
        · cases tables
      | _ => rw [← Except.ok.inj tables]

section Steps

variable {fresh : World → UUID4 → Bool} {tid : Tid} {before after : World} {call : Call}
  {reply : Reply call}

theorem alone_users (answered : alone fresh tid call before reply after)
    (keeps : call.keepsUsers = true) : after.db.users = before.db.users := by
  apply Database.writeAll_users (alone_effect answered).db
  cases call with
  | commit session writes =>
    cases reply with
    | ok _ => exact keeps
    | error error => rfl
  | _ => rfl

end Steps

/-- The steps of a request that runs alone, with its trace. -/
abbrev solo (tid : Tid) : (call : Call) → World × Trace Reply → Reply call → World × Trace Reply → Prop :=
  recorded (alone anyDraw tid)

section Programs

variable {Token : Type} {app : App Token} {tid : Tid} {before : World} {trace : Trace Reply}

/-- A program that never writes to the users leaves them. -/
theorem keepsUsers_alone {α : Type} {program : Action α} {post : Trace Reply → Except Exn α → Prop}
    (along : program.Along (fun _ call => call.keepsUsers = true) post trace) :
    program.Alone (solo tid)
      (fun outcome after => post after.2 outcome ∧ after.1.db.users = before.db.users)
      (before, trace) := by
  apply Along.alone (r := fun first last : World => last.db.users = first.db.users) _ _ _ along
  · exact fun _ => rfl
  · exact fun first second => second.trans first
  · exact fun _ _ _ _ _ keeps answered => alone_users answered keeps

/-- Once the role claims resolve, nothing after the choice of the user can fail. -/
theorem issue_and_record_along {spec : Trace Reply → Call → Prop} (user : UserObject)
    (requestMeta : RequestMeta) (deviceInfo : Option DeviceInfo) (now : ∀ trace, spec trace .now)
    (uuid4 : ∀ trace, spec trace .uuid4) (rollback : ∀ trace, spec trace .rollback)
    (records : ∀ trace entry, spec trace (.commit .request [.insertLoginHistory entry])) :
    (do
      let tokens ← issueTokenPair app user
      saveLoginHistory user.id requestMeta deviceInfo
      return tokens : Action (TokenData Token)).Along spec
      (fun later outcome => trace <:+ later ∧ ∀ error, outcome = .error error →
        resolveRoleClaims user = .error error) trace := by
  apply Along.bind (issueTokenPair_along now uuid4 user)
  · rintro tokens middle ⟨grown, _⟩
    apply Along.bind (saveLoginHistory_along uuid4 rollback records user.id requestMeta deviceInfo)
    · rintro _ later ⟨more, _⟩
      exact ⟨grown.trans more, nofun⟩
    · rintro error later ⟨_, ⟨⟩⟩
  · rintro error later ⟨grown, failed⟩
    refine ⟨grown, ?_⟩
    rintro _ ⟨⟩
    exact failed

/-- The credentials were rejected. -/
def Rejected {α : Type} (outcome : Except Exn α) : Prop :=
  ∃ detail, outcome = .error (.wrongCredentialsError detail)

@[simp] theorem rejected_ok {α : Type} (value : α) : ¬ Rejected (.ok value : Except Exn α) := by
  rintro ⟨detail, ⟨⟩⟩

@[simp] theorem rejected_error {α : Type} (error : Exn) :
    Rejected (.error error : Except Exn α) ↔ ∃ detail, error = .wrongCredentialsError detail := by
  simp [Rejected]

/-- A login leaves the users, and is rejected if and only if nobody has its email and password. -/
theorem loginUser_users (data : UserLoginData) (requestMeta : RequestMeta)
    (deviceInfo : Option DeviceInfo) :
    (AuthService.loginUser app data requestMeta deviceInfo).Alone (solo tid)
      (fun outcome after => after.1.db.users = before.db.users ∧ (Rejected outcome ↔
        ¬ ∃ user ∈ before.db.users, user.email = data.email ∧
          app.passwordHash.verify data.password user.passwordHash = true)) (before, trace) := by
  apply alone_recorded
  intro found read answered
  have users := alone_users answered rfl
  have row := answers_selectUserByEmail (alone_answers answered)
  cases found with
  | none =>
    have absent : data.email ∉ before.db.users.map User.email :=
      lookup_eq_none.mp (Option.map_eq_none_iff.mp row.symm)
    refine ⟨users, iff_of_true ⟨_, rfl⟩ ?_⟩
    rintro ⟨user, member, same, _⟩
    exact absent (same ▸ List.mem_map_of_mem member)
  | some user =>
    obtain ⟨stored, found, rfl⟩ := Option.map_eq_some_iff.mp row.symm
    simp only [done_bind]
    split
    · next verified =>
      apply (keepsUsers_alone (issue_and_record_along _ requestMeta deviceInfo (fun _ => rfl)
        (fun _ => rfl) (fun _ => rfl) fun _ _ => rfl)).mono
      rintro outcome after ⟨⟨_, fails⟩, kept⟩
      refine ⟨kept.trans users, iff_of_false ?_ (not_not_intro ?_)⟩
      · rintro ⟨detail, rejected⟩
        obtain ⟨_, other⟩ := resolveRoleClaims_error (fails _ rejected)
        cases other
      · exact ⟨stored, lookup_mem found, lookup_key found, verified⟩
    · next wrong =>
      refine ⟨users, iff_of_true ⟨_, rfl⟩ ?_⟩
      rintro ⟨other, member, same, verified⟩
      have unique : other = stored := by
        apply List.inj_on_of_nodup_map before.db.consistent.userEmails member (lookup_mem found)
        rw [same, lookup_key found]
      exact wrong (unique ▸ verified)

/-- A success leaves the users as described, a failure leaves them as they were. -/
def Transacts {α : Type} (users : List User) (success : α → List User → Prop) :
    Except Exn α → List User → Prop
  | .ok value, after => success value after
  | .error _, after => after = users

/-- A row with the given credentials was added. -/
def GainsUser (app : App Token) (users : List User) (id : UUID4) (email password : String)
    (after : List User) : Prop :=
  ∃ row salt, after = users ++ [row] ∧ row.id = id ∧ row.email = email ∧
    row.passwordHash = app.passwordHash.hash password salt

/-- The row an instance was loaded from was changed to another instance. -/
def UpdatesUser (users : List User) (loaded current : User) (after : List User) : Prop :=
  ∃ change, (UserPatch.diff loaded current).Describes change ∧
    after = amend User.id users loaded.id change

/-- A commit of a changed instance. -/
theorem alone_userUpdate {fresh : World → UUID4 → Bool} {after : World} {loaded current : User}
    (answered : alone fresh tid (.commit .request (userUpdate loaded current)) before (.ok ()) after) :
    UpdatesUser before.db.users loaded current after.db.users := by
  obtain ⟨change, described, tables⟩ := Database.writeAll_userUpdate (alone_effect answered).db
  refine ⟨change, described, ?_⟩
  rw [tables]

/-- An inserted row is found by its id. -/
theorem Database.user?_of_inserted {db next : Database} {new : NewUser} {defaults : ModelDefaults}
    (added : next.users = db.users ++ [new.row defaults]) :
    next.user? new.id = some (new.row defaults) := by
  apply @Database.user?_of_mem next (new.row defaults)
  rw [added]
  exact List.mem_append_right _ List.mem_cons_self

theorem getOrCreateDefaultRole_users :
    getOrCreateDefaultRole.Alone (solo tid) (fun _ after => after.1.db.users = before.db.users)
      (before, trace) :=
  (keepsUsers_alone (getOrCreateDefaultRole_along (fun _ => rfl) (fun _ => rfl) fun _ _ _ => rfl)).mono
    fun _ _ ends => ends.2

theorem createUser_users (data : UserCreateIn) :
    (UserService.createUser app data).Alone (solo tid)
      (fun outcome after => Transacts before.db.users
        (fun user users => GainsUser app before.db.users user.id data.email data.password users)
        outcome after.1.db.users) (before, trace) := by
  apply alone_recorded
  intro found read answered
  have users := alone_users answered rfl
  cases found with
  | some user => exact users
  | none =>
    apply alone_recorded
    intro salt salted answered
    have users := (alone_users answered rfl).trans users
    apply Alone.bind getOrCreateDefaultRole_users
    · rintro role ⟨ready, _⟩ kept
      have users : ready.db.users = before.db.users := kept.trans users
      apply alone_recorded
      intro id drawn answered
      have users := (alone_users answered rfl).trans users
      apply alone_recorded
      intro reply stored inserted
      cases reply with
      | ok _ =>
        have added := congrArg Tables.users (Database.writeAll_insertUser (alone_effect inserted).db)
        apply alone_recorded
        intro found last answered
        have row := answers_refreshUser (alone_answers answered)
        rw [Database.user?_of_inserted added] at row
        subst row
        refine ⟨_, salt, (alone_users answered rfl).trans (added.trans ?_), rfl, rfl, rfl⟩
        rw [← users]
        rfl
      | error error =>
        have kept : stored.db.users = before.db.users := by
          rw [alone_db inserted rfl]
          exact users
        cases error with
        | integrity =>
          apply alone_recorded
          intro _ last answered
          exact (alone_users answered rfl).trans kept
        | staleData | data => exact kept
    · rintro error ⟨failed, _⟩ kept
      exact kept.trans users

/-- The user proved a password and the row was changed as described. -/
def ChangesRow (app : App Token) (users : List User) (user : User) (password : String)
    (changed : User → Prop) (after : List User) : Prop :=
  app.passwordHash.verify password user.passwordHash = true ∧
    ∃ current, changed current ∧ UpdatesUser users user current after

theorem changeEmail_users (data : UserChangeEmailIn) (user : UserObject) :
    (UserService.changeEmail app data user).Alone (solo tid)
      (fun outcome after => Transacts before.db.users
        (fun _ users => ChangesRow app before.db.users user.toUser data.password
          (fun current => current = { user.toUser with email := data.email }) users)
        outcome after.1.db.users) (before, trace) := by
  unfold UserService.changeEmail
  split
  · next verified =>
    apply alone_recorded
    intro reply updated answered
    cases reply with
    | ok _ => exact ⟨verified, _, rfl, alone_userUpdate answered⟩
    | error error =>
      have kept := alone_db answered rfl
      cases error with
      | integrity =>
        apply alone_recorded
        intro _ last answered
        exact (alone_users answered rfl).trans (by rw [kept])
      | staleData | data => exact congrArg (fun db => db.users) kept
  · exact rfl

theorem changePassword_users (data : UserChangePasswordIn) (user : UserObject) :
    (UserService.changePassword app data user).Alone (solo tid)
      (fun outcome after => Transacts before.db.users
        (fun _ users => ChangesRow app before.db.users user.toUser data.oldPassword
          (fun current => ∃ salt, current = { user.toUser with
            passwordHash := app.passwordHash.hash data.newPassword salt
            tokenVersion := user.tokenVersion + 1 }) users)
        outcome after.1.db.users) (before, trace) := by
  unfold UserService.changePassword
  split
  · next verified =>
    apply alone_recorded
    intro salt salted answered
    have users := alone_users answered rfl
    apply alone_recorded
    intro reply updated answered
    cases reply with
    | ok _ =>
      refine ⟨verified, _, ⟨salt, rfl⟩, ?_⟩
      rw [← users]
      exact alone_userUpdate answered
    | error error =>
      have kept := congrArg (fun db => db.users) (alone_db answered rfl)
      exact kept.trans users
  · exact rfl

/-- `get_token_user` leaves the users and returns one of them, the subject of the token. -/
theorem getTokenUser_users (token : Token) :
    (getTokenUser app token).Alone (solo tid) (fun outcome after =>
      after.1.db.users = before.db.users ∧ ∀ user, outcome = .ok user →
        before.db.user? user.id = some user.toUser ∧
          ∃ payload, app.accessPayload token = some payload ∧ payload.sub = user.id)
      (before, trace) := by
  apply Alone.bind (keepsUsers_alone (getAccessTokenPayload_along (fun _ => by rfl) token))
  · rintro payload ⟨opened, _⟩ ⟨⟨time, _, accepted⟩, users⟩
    apply alone_recorded
    intro found read answered
    have users : read.db.users = before.db.users := (alone_users answered rfl).trans users
    have row := answers_getUser (alone_answers answered)
    cases found with
    | none => exact ⟨users, fun _ same => by cases same⟩
    | some user =>
      simp only [done_bind]
      split
      · refine ⟨users, ?_⟩
        rintro _ ⟨⟩
        have made := @answers_userRead _ _ _ ⟨.getUser payload.sub, some user⟩
          (alone_answers answered) user rfl
        refine ⟨?_, payload, accepted.1, ?_⟩
        · rw [Database.user?, ← users, alone_users answered rfl]
          exact made.1
        · obtain ⟨stored, present, rfl⟩ := Option.map_eq_some_iff.mp row.symm
          exact (Database.user?_id present).symm
      · exact ⟨users, fun _ same => by cases same⟩
  · rintro error ⟨refused, _⟩ ⟨_, users⟩
    exact ⟨users, fun _ same => by cases same⟩

/-- What an operation leaves its request leaves. -/
theorem Transacts.request {α : Type} {program : Action α} {users : List User}
    {success : α → List User → Prop} {state : World × Trace Reply} (result : α → Outcome Token)
    (transacts : program.Alone (solo tid)
      (fun outcome after => Transacts users success outcome after.1.db.users) state) :
    (do return result (← program)).Alone (solo tid)
      (fun outcome after => Transacts users
        (fun value after => ∃ made, value = result made ∧ success made after) outcome after.1.db.users)
      state := by
  apply Alone.bind transacts
  · exact fun value after success => ⟨value, rfl, success⟩
  · exact fun error after kept => kept

/-- The end of the session leaves the users. -/
theorem session_users {α : Type} {body : Action α} {p : Except Exn α → List User → Prop}
    {state : World × Trace Reply}
    (along : body.Alone (solo tid) (fun outcome after => p outcome after.1.db.users) state) :
    (withSession body).Alone (solo tid) (fun outcome after => p outcome after.1.db.users) state := by
  apply withSession_alone along
  rintro outcome middle last holds ⟨closed, _⟩
  rw [alone_users closed rfl]
  exact holds

/-- What an operation behind the gate does to the row of the user it does to the subject of the
token. -/
theorem gated_users {token : Token} {operation : UserOperation} {password : String}
    {changed : User → User → Prop}
    (changes : ∀ (user : UserObject) (middle : World) (later : Trace Reply),
      (operation.program app user).Alone (solo tid) (fun outcome after => Transacts middle.db.users
        (fun value users => value = .unit ∧
          ChangesRow app middle.db.users user.toUser password (changed user.toUser) users)
        outcome after.1.db.users) (middle, later)) :
    ((Request.userEndpoint token operation).program app).Alone (solo tid)
      (fun outcome after => Transacts before.db.users (fun value users => value = .unit ∧
        ∃ user payload, app.accessPayload token = some payload ∧
          before.db.user? payload.sub = some user ∧
          ChangesRow app before.db.users user password (changed user) users)
        outcome after.1.db.users) (before, trace) := by
  apply session_users (p := fun outcome users => Transacts before.db.users _ outcome users)
  apply Alone.bind (getTokenUser_users token)
  · rintro user ⟨gated, later⟩ ⟨users, found⟩
    obtain ⟨stored, payload, subject, same⟩ := found user rfl
    apply (changes user gated later).mono
    rintro outcome ⟨after, _⟩ ends
    rw [show gated.db.users = before.db.users from users] at ends
    cases outcome with
    | ok value => exact ⟨ends.1, user.toUser, payload, subject, same ▸ stored, ends.2⟩
    | error error => exact ends
  · exact fun error after ends => ends.1

theorem changeEmail_gated (token : Token) (data : UserChangeEmailIn) :
    ((Request.userEndpoint token (.changeEmail data)).program app).Alone (solo tid)
      (fun outcome after => Transacts before.db.users (fun value users => value = .unit ∧
        ∃ user payload, app.accessPayload token = some payload ∧
          before.db.user? payload.sub = some user ∧
          ChangesRow app before.db.users user data.password
            (fun current => current = { user with email := data.email }) users)
        outcome after.1.db.users) (before, trace) := by
  apply gated_users
  intro user middle later
  apply Alone.bind (changeEmail_users data user)
  · exact fun _ _ changed => ⟨rfl, changed⟩
  · exact fun _ _ kept => kept

theorem changePassword_gated (token : Token) (data : UserChangePasswordIn) :
    ((Request.userEndpoint token (.changePassword data)).program app).Alone (solo tid)
      (fun outcome after => Transacts before.db.users (fun value users => value = .unit ∧
        ∃ user payload, app.accessPayload token = some payload ∧
          before.db.user? payload.sub = some user ∧
          ChangesRow app before.db.users user data.oldPassword
            (fun current => ∃ salt, current = { user with
              passwordHash := app.passwordHash.hash data.newPassword salt
              tokenVersion := user.tokenVersion + 1 }) users)
        outcome after.1.db.users) (before, trace) := by
  apply gated_users
  intro user middle later
  apply Alone.bind (changePassword_users data user)
  · exact fun _ _ changed => ⟨rfl, changed⟩
  · exact fun _ _ kept => kept

/-- A user was added with the given email and a password drawn for it. -/
def RegistersUser (app : App Token) (trace : Trace Reply) (users : List User) (id : UUID4)
    (email : String) (after : List User) : Prop :=
  ∃ secret : UUID4, ⟨.uuid4, secret⟩ ∈ trace ∧ GainsUser app users id email secret.val.str after

theorem attachOauthAccount_users (user : UserObject) (provider providerUserId : String) :
    (attachOauthAccount app [] user provider providerUserId).Alone (solo tid)
      (fun _ after => after.1.db.users = before.db.users) (before, trace) := by
  apply alone_recorded
  intro id drawn answered
  have users := alone_users answered rfl
  refine alone_accept (fun _ => ?_) fun _ => users
  apply alone_recorded
  intro reply linked answered
  have users := (alone_users answered rfl).trans users
  cases reply with
  | ok _ =>
    apply alone_recorded
    intro found last answered
    have users := (alone_users answered rfl).trans users
    cases found with
    | none => exact users
    | some refreshed => exact users
  | error error =>
    cases error with
    | integrity =>
      apply alone_recorded
      intro _ last answered
      exact (alone_users answered rfl).trans users
    | staleData | data => exact users

/-- The commit that adds the user is followed by a refresh that finds the row. -/
theorem attachOauthAccount_adds (new : NewUser) (provider providerUserId : String) :
    (attachOauthAccount app [.insertUser new] (newUserObject new) provider providerUserId).Alone (solo tid)
      (fun outcome after => Transacts before.db.users (fun created users => ∃ defaults,
        created.toUser = new.row defaults ∧ users = before.db.users ++ [new.row defaults])
        outcome after.1.db.users) (before, trace) := by
  apply alone_recorded
  intro id drawn answered
  have users := alone_users answered rfl
  refine alone_accept (fun _ => ?_) fun _ => users
  apply alone_recorded
  intro reply linked answered
  cases reply with
  | ok _ =>
    have added := congrArg Tables.users (Database.writeAll_newLink (alone_effect answered).db)
    apply alone_recorded
    intro found last answered
    have row := answers_refreshUser (alone_answers answered)
    have found := Database.user?_of_inserted added
    change _ = (linked.db.user? new.id).map _ at row
    rw [found] at row
    subst row
    refine ⟨drawn.defaults tid, rfl, (alone_users answered rfl).trans (added.trans ?_)⟩
    rw [← users]
  | error error =>
    have kept := (congrArg (fun db => db.users) (alone_db answered rfl)).trans users
    cases error with
    | integrity =>
      apply alone_recorded
      intro _ last answered
      exact (alone_users answered rfl).trans kept
    | staleData | data => exact kept

/-- The row with a role that exists resolves its role claims. -/
theorem resolveRoleClaims_of_role {user : UserObject} {role : Role}
    (loaded : user.role = .loaded (some role)) (error : Exn) :
    resolveRoleClaims user ≠ .error error := by
  rw [resolveRoleClaims, loaded]
  exact nofun

/-- The resolution of a profile leaves the users, or it adds one whose role claims resolve. -/
theorem resolveUser_users (profile : YandexIdUserData) :
    (resolveUser app profile).Alone (solo tid) (fun outcome after =>
      after.1.db.users = before.db.users ∨ ∃ user, outcome = .ok (some user) ∧
        (∀ error, resolveRoleClaims user ≠ .error error) ∧
        RegistersUser app after.2 before.db.users user.id profile.defaultEmail after.1.db.users)
      (before, trace) := by
  apply alone_recorded
  intro linked read answered
  have users := alone_users answered rfl
  refine alone_accept (fun _ => ?_) fun _ => .inl users
  cases linked with
  | some linked => exact .inl users
  | none =>
    apply alone_recorded
    intro found read answered
    have users := (alone_users answered rfl).trans users
    cases found with
    | some existing =>
      simp only [done_bind]
      apply Alone.bind (attachOauthAccount_users existing _ _)
      · exact fun refreshed after kept => .inl (kept.trans users)
      · exact fun error after kept => .inl (kept.trans users)
    | none =>
      simp only [done_bind]
      apply Alone.bind getOrCreateDefaultRole_users
      · rintro role ⟨ready, earlier⟩ kept
        have users : ready.db.users = before.db.users := kept.trans users
        apply alone_recorded
        intro password drawn answered
        have users := (alone_users answered rfl).trans users
        apply alone_recorded
        intro salt salted answered
        have users := (alone_users answered rfl).trans users
        apply alone_recorded
        intro id ready answered
        have users := (alone_users answered rfl).trans users
        refine alone_accept (fun _ => ?_) fun _ => .inl users
        apply alone_recorded
        intro reply flushed answered
        have users := (alone_users answered rfl).trans users
        cases reply with
        | error error => exact .inl users
        | ok _ =>
          simp only [attempt_ok, done_bind]
          apply Alone.bind (attachOauthAccount_adds _ _ _).extends
          · rintro created ⟨attached, later⟩ ⟨⟨defaults, row, added⟩, grown⟩
            apply alone_recorded
            intro found last answered
            have loaded := answers_selectUserById (alone_answers answered)
            have found : attached.db.user? created.id = some created.toUser := by
              rw [row]
              exact Database.user?_of_inserted added
            rw [found] at loaded
            subst loaded
            obtain ⟨role, assigned⟩ := Option.isSome_iff_exists.mp
              (attached.db.roleOf_isSome (Database.user?_mem found) (by rw [row]; rfl))
            refine .inr ⟨_, rfl, ?_, password, ?_, created.toUser, salt, ?_, rfl, ?_, ?_⟩
            · exact resolveRoleClaims_of_role (by rw [← assigned]; rfl)
            · apply List.mem_cons_of_mem
              apply grown.subset
              simp
            · rw [row, ← users]
              exact (alone_users answered rfl).trans added
            · rw [row]
              rfl
            · rw [row]
              rfl
          · rintro error ⟨failed, later⟩ ⟨kept, _⟩
            exact .inl (Eq.trans kept users)
      · rintro error ⟨failed, later⟩ kept
        exact .inl (kept.trans users)

theorem authorize_users (code : String) (state : UUID) (requestMeta : RequestMeta)
    (deviceInfo : DeviceInfo) :
    (authorize app code state requestMeta deviceInfo).Alone (solo tid) (fun outcome after =>
      after.1.db.users = before.db.users ∨ ∃ pair profile id, outcome = .ok pair ∧
        SawProfile app after.2 profile ∧
        RegistersUser app after.2 before.db.users id profile.defaultEmail after.1.db.users)
      (before, trace) := by
  apply Alone.bind (keepsUsers_alone (consumeCachedState_along state (by rfl)))
  · rintro codeVerifier ⟨consumed, first⟩ ⟨_, users⟩
    apply Alone.bind (keepsUsers_alone (exchangeCode_along code codeVerifier deviceInfo (by rfl)))
    · rintro tokenData ⟨exchanged, second⟩ ⟨_, kept⟩
      have users : exchanged.db.users = before.db.users := kept.trans users
      apply Alone.bind (keepsUsers_alone (fetchUserInfo_along tokenData.accessToken
        fun _ _ _ _ => by rfl))
      · rintro profile ⟨fetched, third⟩ ⟨⟨_, saw⟩, kept⟩
        have users : fetched.db.users = before.db.users := kept.trans users
        apply Alone.bind (resolveUser_users profile).extends
        · rintro resolved ⟨ready, fourth⟩ ⟨ends, grown⟩
          cases resolved with
          | none =>
            obtain kept | ⟨_, ⟨⟩, _⟩ := ends
            apply alone_recorded
            intro now last answered
            exact .inl ((alone_users answered rfl).trans (kept.trans users))
          | some user =>
            apply (keepsUsers_alone (issue_and_record_along user requestMeta (some deviceInfo)
              (fun _ => rfl) (fun _ => rfl) (fun _ => rfl) fun _ _ => rfl)).mono
            rintro outcome ⟨last, fifth⟩ ⟨⟨more, fails⟩, same⟩
            obtain kept | ⟨_, ⟨⟩, resolves, secret, member, row, salt, added, id, email, hash⟩ := ends
            · exact .inl (same.trans (kept.trans users))
            · cases outcome with
              | error error => exact absurd (fails error rfl) (resolves error)
              | ok pair =>
                refine .inr ⟨pair, profile, user.id, rfl, saw.mono (grown.trans more), secret,
                  more.subset member, row, salt, same.trans (added.trans ?_), id, email, hash⟩
                rw [users]
        · rintro error ⟨failed, fourth⟩ ⟨ends, _⟩
          obtain kept | ⟨_, ⟨⟩, _⟩ := ends
          exact .inl (kept.trans users)
      · rintro error ⟨failed, third⟩ ⟨_, kept⟩
        exact .inl (kept.trans users)
    · rintro error ⟨failed, second⟩ ⟨_, kept⟩
      exact .inl (kept.trans users)
  · rintro error ⟨failed, first⟩ ⟨_, kept⟩
    exact .inl kept

theorem authorize_session (code : String) (state : UUID) (requestMeta : RequestMeta)
    (deviceInfo : DeviceInfo) :
    ((Request.authorize code state requestMeta deviceInfo).program app).Alone (solo tid)
      (fun outcome after => after.1.db.users = before.db.users ∨
        ∃ pair profile id, outcome = .ok (.tokens pair) ∧ SawProfile app after.2 profile ∧
          RegistersUser app after.2 before.db.users id profile.defaultEmail after.1.db.users)
      (before, trace) := by
  apply withSession_alone (Alone.bind (authorize_users code state requestMeta deviceInfo) _ _)
  · rintro outcome middle ⟨last, later⟩ ends ⟨closed, grown⟩
    have users := alone_users closed rfl
    have grown : middle.2 <:+ later := ⟨[_], grown.symm⟩
    obtain kept | ⟨pair, profile, id, same, saw, secret, drawn, row, salt, added, rest⟩ := ends
    · exact .inl (users.trans kept)
    · exact .inr ⟨pair, profile, id, same, saw.mono grown, secret, grown.subset drawn, row, salt,
        users.trans added, rest⟩
  · rintro pair after (kept | ⟨_, profile, id, ⟨⟩, registered⟩)
    · exact .inl kept
    · exact .inr ⟨pair, profile, id, rfl, registered⟩
  · rintro error after (kept | ⟨_, profile, id, ⟨⟩, _⟩)
    exact .inl kept

end Programs

end AuthApi
