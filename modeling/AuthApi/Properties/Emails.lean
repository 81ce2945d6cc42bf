import AuthApi.Model.Api
import AuthApi.Properties.Identities
import AuthApi.Relational.Table
import AuthApi.Run.Credentials

/-! # Emails and their normal forms

Bodies and profiles are read by schemas whose emails are `EmailStr`, so the service compares normal
forms. `create_superuser` stores its argument as it is given; a text that `EmailStr` would change is
then no key of the login, and the normal form stays free for another user.
-/

namespace AuthApi

open Interleaving Interleaving.Program Relational

/-- The email a statement gives the row. -/
def Write.emailFor? (id : UUID4) : Write → Option String
  | .insertUser user => if user.id = id then some user.email else none
  | .updateUser rowId patch => if rowId = id then patch.email else none
  | _ => none

section Tables

variable {db next : Database} {defaults : ModelDefaults} {now : Time} {statement : Write}
  {writes : List Write} {row : User} {id : UUID4} {email : String}

theorem Database.write_email_origin (written : db.write defaults now statement = .ok next)
    (member : row ∈ next.users) : statement.emailFor? row.id = some row.email ∨
      (statement.emailFor? row.id = none ∧ ∃ old ∈ db.users, old.id = row.id ∧ old.email = row.email) := by
  have tables := Database.write_ok written
  cases statement with
  | insertUser user =>
    have users : next.users = db.users ++ [user.row defaults] := by rw [← Except.ok.inj tables]
    have unique := next.consistent.userIds
    rw [users] at member unique
    rcases List.mem_append.mp member with old | new
    · have fresh : user.id ∉ db.users.map User.id := not_mem_of_nodup_append unique
      right
      refine ⟨if_neg ?_, row, old, rfl, rfl⟩
      intro same
      exact fresh (same ▸ List.mem_map_of_mem old)
    · obtain rfl := List.mem_singleton.mp new
      exact .inl (if_pos rfl)
  | updateUser rowId patch =>
    simp only [Tables.write] at tables
    split at tables
    · rw [← Except.ok.inj tables] at member
      obtain ⟨old, present, rfl⟩ := mem_amend member
      by_cases same : old.id = rowId
      · rw [if_pos same]
        cases sets : patch.email with
        | some email =>
          left
          simp [Write.emailFor?, UserPatch.apply, same, sets]
        | none =>
          right
          refine ⟨?_, old, present, rfl, ?_⟩
          · simp [Write.emailFor?, same, sets]
          · simp [UserPatch.apply, sets]
      · rw [if_neg same]
        exact .inr ⟨if_neg (Ne.symm same), old, present, rfl, rfl⟩
    · cases tables
  | deleteRole roleId =>
    rw [← Except.ok.inj tables] at member
    obtain ⟨old, present, rfl⟩ := List.mem_map.mp member
    exact .inr ⟨rfl, old, present, (User.dropRole_id roleId old).symm, (User.dropRole_email roleId old).symm⟩
  | updateRole roleId patch =>
    simp only [Tables.write] at tables
    split at tables
    · rw [← Except.ok.inj tables] at member
      exact .inr ⟨rfl, row, member, rfl, rfl⟩
    · cases tables
  | _ =>
    rw [← Except.ok.inj tables] at member
    exact .inr ⟨rfl, row, member, rfl, rfl⟩

/-- After a commit, a row has the email a statement gave it, or it was not given one and has the email
it had. -/
theorem Database.writeAll_email_origin (written : db.writeAll defaults now writes = .ok next)
    (member : row ∈ next.users) :
    (∃ statement ∈ writes, statement.emailFor? row.id = some row.email) ∨
      ((∀ statement ∈ writes, statement.emailFor? row.id = none) ∧
        ∃ old ∈ db.users, old.id = row.id ∧ old.email = row.email) := by
  induction writes generalizing db with
  | nil =>
    cases written
    exact .inr ⟨nofun, row, member, rfl, rfl⟩
  | cons first rest ih =>
    rw [writeAll] at written
    split at written
    · cases written
    · next middle done =>
      rcases ih written with ⟨statement, among, gives⟩ | ⟨silent, between, present, same, kept⟩
      · exact .inl ⟨statement, List.mem_cons_of_mem first among, gives⟩
      · rcases write_email_origin done present with gives | ⟨none, old, there, owner, stored⟩
        · exact .inl ⟨first, List.mem_cons_self, by rw [← same, ← kept, gives]⟩
        · refine .inr ⟨?_, old, there, owner.trans same, stored.trans kept⟩
          rw [List.forall_mem_cons, ← same]
          exact ⟨none, fun statement among => same ▸ silent statement among⟩

/-- No statement removes a user. -/
theorem Database.write_ids (written : db.write defaults now statement = .ok next)
    (present : id ∈ db.users.map User.id) : id ∈ next.users.map User.id := by
  have tables := Database.write_ok written
  cases statement with
  | insertUser user =>
    rw [← Except.ok.inj tables, List.map_append]
    exact List.mem_append_left _ present
  | updateUser rowId patch =>
    simp only [Tables.write] at tables
    split at tables
    · rw [← Except.ok.inj tables, map_key_amend (UserPatch.apply_id patch defaults)]
      exact present
    · cases tables
  | deleteRole roleId =>
    rw [← Except.ok.inj tables, List.map_map]
    simpa [Function.comp_def] using present
  | updateRole roleId patch =>
    simp only [Tables.write] at tables
    split at tables
    · rw [← Except.ok.inj tables]
      exact present
    · cases tables
  | _ =>
    rw [← Except.ok.inj tables]
    exact present

/-- A row that was given an email exists. -/
theorem Database.write_given (written : db.write defaults now statement = .ok next)
    (gives : statement.emailFor? id = some email) : id ∈ next.users.map User.id := by
  have tables := Database.write_ok written
  cases statement with
  | insertUser user =>
    rw [← Except.ok.inj tables, List.map_append]
    simp only [Write.emailFor?] at gives
    split at gives
    · next same =>
      subst same
      exact List.mem_append_right _ List.mem_cons_self
    · cases gives
  | updateUser rowId patch =>
    simp only [Write.emailFor?] at gives
    split at gives
    · next same =>
      subst same
      simp only [Tables.write] at tables
      split at tables
      · next present =>
        rw [← Except.ok.inj tables, map_key_amend (UserPatch.apply_id patch defaults)]
        exact present
      · cases tables
    · cases gives
  | _ => cases gives

theorem Database.writeAll_ids (written : db.writeAll defaults now writes = .ok next)
    (present : id ∈ db.users.map User.id) : id ∈ next.users.map User.id := by
  induction writes generalizing db with
  | nil =>
    cases written
    exact present
  | cons first rest ih =>
    rw [writeAll] at written
    split at written
    · cases written
    · next middle done => exact ih written (write_ids done present)

theorem Database.writeAll_given (written : db.writeAll defaults now writes = .ok next)
    (among : statement ∈ writes) (gives : statement.emailFor? id = some email) :
    id ∈ next.users.map User.id := by
  induction writes generalizing db with
  | nil => cases among
  | cons first rest ih =>
    rw [writeAll] at written
    split at written
    · cases written
    · next middle done =>
      rcases List.mem_cons.mp among with rfl | later
      · exact writeAll_ids written (write_given done gives)
      · exact ih written later

end Tables

/-- The email of the profile, before `EmailStr` reads it. -/
def profileEmail? : Exchange Reply → Option String
  | ⟨.httpGet _ _ _, .response _ (.ok (.obj fields))⟩ =>
      (Json.field? fields "default_email").bind Json.str?
  | _ => none

section Requests

variable {Token : Type} (app : App Token)

/-- The text a request submits as an email. -/
inductive Submits (trace : Trace Reply) (text : String) : Request Token → Prop
  | createUser (fields : List (String × Json)) (data : UserCreateIn)
      (given : (Json.field? fields "email").bind Json.str? = some text)
      (read : UserCreateIn.modelValidate app.pydantic fields = some data) :
      Submits trace text (.createUser data)
  | changeEmail (token : Token) (fields : List (String × Json)) (data : UserChangeEmailIn)
      (given : (Json.field? fields "email").bind Json.str? = some text)
      (read : UserChangeEmailIn.modelValidate app.pydantic fields = some data) :
      Submits trace text (.userEndpoint token (.changeEmail data))
  | createSuperuser (password : String) : Submits trace text (.createSuperuser text password)
  | callback (request : Request Token) (callback : request.isCallback = true) (exchange : Exchange Reply)
      (member : exchange ∈ trace) (given : profileEmail? exchange = some text) :
      Submits trace text request

/-- The bodies of the requests have been read by their schemas. -/
def Request.Validated : Request Token → Prop
  | .createUser data => ∃ fields, UserCreateIn.modelValidate app.pydantic fields = some data
  | .userEndpoint _ (.changeEmail data) =>
      ∃ fields, UserChangeEmailIn.modelValidate app.pydantic fields = some data
  | _ => True

/-- The emails a request may store. -/
inductive Passes (trace : Trace Reply) (email : String) : Request Token → Prop
  | createUser (data : UserCreateIn) (same : data.email = email) : Passes trace email (.createUser data)
  | changeEmail (token : Token) (data : UserChangeEmailIn) (same : data.email = email) :
      Passes trace email (.userEndpoint token (.changeEmail data))
  | createSuperuser (password : String) : Passes trace email (.createSuperuser email password)
  | callback (request : Request Token) (callback : request.isCallback = true) (profile : YandexIdUserData)
      (fetched : SawProfile app trace profile) (same : profile.defaultEmail = email) :
      Passes trace email request

/-- A commit stores no other emails. -/
def StoresPassed (request : Request Token) (trace : Trace Reply) : Call → Prop
  | .commit _ writes => ∀ statement ∈ writes, ∀ id email, statement.emailFor? id = some email →
      Passes app trace email request
  | _ => True

variable {app} {trace : Trace Reply} {request : Request Token}

theorem storesPassed_insertUser {user : NewUser} {session : Session}
    (passes : Passes app trace user.email request) :
    StoresPassed app request trace (.commit session [.insertUser user]) := by
  intro statement among id email gives
  obtain rfl := List.mem_singleton.mp among
  simp only [Write.emailFor?] at gives
  split at gives
  · exact Option.some.inj gives ▸ passes
  · cases gives

theorem storesPassed_silent {session : Session} {writes : List Write}
    (silent : ∀ statement ∈ writes, ∀ id, statement.emailFor? id = none) :
    StoresPassed app request trace (.commit session writes) := by
  intro statement among id email gives
  rw [silent statement among id] at gives
  cases gives

/-- The UPDATE of a user gives an email only if the instance got another one. -/
theorem userUpdate_emailFor {loaded current : User} {statement : Write}
    (among : statement ∈ userUpdate loaded current) {id : UUID4} {email : String}
    (gives : statement.emailFor? id = some email) : current.email = email ∧ loaded.email ≠ email := by
  unfold userUpdate at among
  split at among
  · cases among
  · obtain rfl := List.mem_singleton.mp among
    simp only [Write.emailFor?, UserPatch.diff, changed] at gives
    split at gives
    · split at gives
      · cases gives
      · next differ =>
        obtain rfl := Option.some.inj gives
        exact ⟨rfl, differ⟩
    · cases gives

/-- A request that registers nobody itself stores the email of a body or of a profile. -/
theorem storesPassed_of_allowed {call : Call} (allowed : Allowed app request trace call)
    (creates : ∀ data, request ≠ .createUser data)
    (promotes : ∀ email password, request ≠ .createSuperuser email password) :
    StoresPassed app request trace call := by
  cases call with
  | commit session writes =>
    cases allowed with
    | createUser user roleId plain holds seen data requested => exact absurd requested (creates data)
    | createSuperuser user flag email password requested => exact absurd requested (promotes email password)
    | changeUser readId user seen changed change =>
      intro statement among id email gives
      obtain ⟨passed, differs⟩ := userUpdate_emailFor among gives
      cases change with
      | email token data requested =>
        rw [requested]
        exact .changeEmail token data passed
      | _ => exact absurd passed differs
    | newLink profile user roleId id callback fetched plain email holds seen =>
      have stores : StoresPassed app request trace (.commit session [.insertUser user]) :=
        storesPassed_insertUser (.callback request callback profile fetched email.symm)
      intro statement among rowId given gives
      rcases List.mem_cons.mp among with rfl | link
      · exact stores _ List.mem_cons_self rowId given gives
      · obtain rfl := List.mem_singleton.mp link
        cases gives
    | modifyRole id role data seen guarded requested =>
      apply storesPassed_silent
      intro statement among rowId
      unfold roleUpdate at among
      split at among
      · cases among
      · obtain rfl := List.mem_singleton.mp among
        rfl
    | _ =>
      apply storesPassed_silent
      intro statement among rowId
      obtain rfl := List.mem_singleton.mp among
      rfl
  | _ => trivial

theorem Request.stores_passed (app : App Token) (request : Request Token) :
    (request.program app).Along (StoresPassed app request) (fun _ _ => True) [] := by
  have quiet (trace : Trace Reply) (id : UUID4) : StoresPassed app request trace (.commit .defaultRole
      [.insertRole ⟨id, DEFAULT_ROLE_TITLE, DEFAULT_ROLE_ACCESS_LABELS⟩]) := by
    apply storesPassed_silent
    intro statement among rowId
    obtain rfl := List.mem_singleton.mp among
    rfl
  cases request with
  | createUser data =>
    have stores : (UserService.createUser app data).Along (StoresPassed app (.createUser data))
        (fun _ _ => True) [] := by
      apply createUser_along data (fun _ => trivial) (fun _ => trivial) (fun _ => trivial) (fun _ => trivial)
      · exact fun trace id _ => quiet trace id
      · exact fun _ user _ same _ _ _ => storesPassed_insertUser (.createUser data same.symm)
      · exact fun _ => trivial
      · exact fun _ _ => trivial
    exact along_withSession (fun _ => trivial) (stores.bind (fun _ _ _ => trivial) fun _ _ _ => trivial)
  | createSuperuser email password =>
    have stores : (DbHelpers.createSuperuser app email password).Along
        (StoresPassed app (.createSuperuser email password)) (fun _ _ => True) [] := by
      apply createSuperuser_along email password (fun _ => trivial) (fun _ => trivial) (fun _ => trivial)
      · rintro _ user rfl _
        exact storesPassed_insertUser (.createSuperuser password)
      · exact fun _ => trivial
    exact along_withSession (fun _ => trivial) (stores.bind (fun _ _ _ => trivial) fun _ _ _ => trivial)
  | _ =>
    apply (Request.allowed app _).mono
    · exact fun _ _ allowed => storesPassed_of_allowed allowed nofun nofun
    · exact fun _ _ _ => trivial

end Requests

section Runs

variable {Token : Type} {app : App Token} {condition : Condition Tid Reply World} {world : World}
  {requests : Tid → Request Token} {past older newer : List ServiceEvent} {event : ServiceEvent}
  {config : ServiceConfig Token} {trace : Trace Reply} {request : Request Token} {id : UUID4}
  {text email : String}

/-- The event gives the row an email. -/
def GivesEmail (event : ServiceEvent) (id : UUID4) : Prop :=
  ∃ statement ∈ committed event, ∃ email, statement.emailFor? id = some email

/-- A `create_superuser` that stores its row has been given an email that `EmailStr` leaves as it is. -/
def PlainSuperuser (app : App Token) (requests : Tid → Request Token) (event : ServiceEvent) : Prop :=
  ∀ email password, requests event.thread = .createSuperuser email password →
    (∃ id, GivesEmail event id) → app.pydantic.emailStr email = some email

/-- The row gets its email from the text: the event writes it, or it is the commit of a `change_email` to
the email the row already has. -/
inductive EmailSubmitted (app : App Token) (requests : Tid → Request Token) (older : List ServiceEvent)
    (event : ServiceEvent) (id : UUID4) (text : String) : Prop
  | given (submits : Submits app (traceOf older event.thread) text (requests event.thread))
      (gives : GivesEmail event id)
  | kept (token : Token) (data : UserChangeEmailIn)
      (requested : requests event.thread = .userEndpoint token (.changeEmail data))
      (submits : Submits app (traceOf older event.thread) text (requests event.thread))
      (accepted : event.exchange = ⟨.commit .request [], .ok ()⟩) (row : User)
      (member : row ∈ event.before.db.users) (owner : row.id = id) (same : row.email = data.email)

/-- The row has got its email from the text, and no other since. -/
def EmailFrom (app : App Token) (requests : Tid → Request Token) (past : List ServiceEvent) (id : UUID4)
    (text : String) : Prop :=
  ∃ newer event older, past = newer ++ event :: older ∧ EmailSubmitted app requests older event id text ∧
    ∀ later ∈ newer, ¬ GivesEmail later id

theorem EmailSubmitted.latest (submitted : EmailSubmitted app requests older event id text) :
    EmailFrom app requests (event :: older) id text :=
  ⟨[], event, older, rfl, submitted, List.forall_mem_nil _⟩

/-- A login that submits the text finds the row, and with the right password it is not rejected. -/
def LoginFinds (app : App Token) (state : World) (id : UUID4) (text : String) : Prop :=
  ∀ fields password, (Json.field? fields "email").bind Json.str? = some text →
    (Json.field? fields "password").bind Json.str? = some password →
    ∃ data row, UserLoginData.modelValidate app.pydantic fields = some data ∧ data.password = password ∧
      state.db.userByEmail? data.email = some row ∧ row.id = id ∧
      (app.passwordHash.verify password row.passwordHash = true →
        ∀ tid requestMeta deviceInfo,
          ((Request.loginUser data requestMeta deviceInfo).program app).Alone (solo tid)
            (fun outcome _ => ¬ Rejected outcome) (state, []))

/-- Emails at one moment of a run: no two rows share a normal form, and every row is found under the
text its email comes from. -/
structure EmailsAgree (app : App Token) (requests : Tid → Request Token) (world : World)
    (past : List ServiceEvent) : Prop where
  distinct : ∀ row ∈ (stateAfter world past).db.users, ∀ other ∈ (stateAfter world past).db.users,
    ∀ normal, app.pydantic.emailStr row.email = some normal →
      app.pydantic.emailStr other.email = some normal → row = other
  finds : ∀ id text, EmailFrom app requests past id text → LoginFinds app (stateAfter world past) id text

theorem profileRead_email {exchange : Exchange Reply} {profile : YandexIdUserData}
    (read : profileRead app exchange = some profile) : exchange.request.fetches = true ∧
      ∃ text, profileEmail? exchange = some text ∧
        app.pydantic.emailStr text = some profile.defaultEmail := by
  unfold profileRead at read
  split at read
  · simp only [YandexIdUserData.modelValidate, Option.bind_eq_bind, Option.bind_eq_some_iff,
      Option.pure_def, Option.some.injEq] at read
    obtain ⟨_, _, _, _, _, _, _, _, email, ⟨text, given, normal⟩, _, _, _, _, _, _, _, _, _, _, rfl⟩ := read
    exact ⟨rfl, text, Option.bind_eq_some_iff.mpr given, normal⟩
  · cases read

theorem profileEmail?_fetches {exchange : Exchange Reply} (given : profileEmail? exchange = some text) :
    exchange.request.fetches = true := by
  unfold profileEmail? at given
  split at given
  · rfl
  · cases given

/-- The email a request stores is the normal form of the text it submits. -/
theorem submitted_normal (submits : Submits app trace text request) (passes : Passes app trace email request)
    (plain : ∀ password, request = .createSuperuser email password → app.pydantic.emailStr email = some email)
    (once : ∀ exchange ∈ trace, ∀ other ∈ trace, request.isCallback = true →
      exchange.request.fetches = true → other.request.fetches = true → other = exchange) :
    app.pydantic.emailStr text = some email := by
  cases submits with
  | createUser fields data given read =>
    obtain ⟨normal, password, normalizes, rfl⟩ := modelValidate_email read given
    cases passes with
    | createUser _ same => exact same ▸ normalizes
    | callback _ callback profile fetched same => cases callback
  | changeEmail token fields data given read =>
    obtain ⟨normal, password, normalizes, rfl⟩ := modelValidate_email read given
    cases passes with
    | changeEmail _ _ same => exact same ▸ normalizes
    | callback _ callback profile fetched same => cases callback
  | createSuperuser password =>
    cases passes with
    | createSuperuser _ => exact plain password rfl
    | callback _ callback profile fetched same => cases callback
  | callback _ callback exchange member given =>
    cases passes with
    | callback _ _ profile fetched same =>
      obtain ⟨other, present, read⟩ := fetched
      obtain ⟨fetches, submitted, inside, normal⟩ := profileRead_email read
      obtain rfl := once exchange member other present callback (profileEmail?_fetches given) fetches
      obtain rfl := Option.some.inj (given.symm.trans inside)
      exact same ▸ normal
    | _ => cases callback

/-- The email a request stores is a normal form. -/
theorem passed_normal
    (idempotent : ∀ text normal, app.pydantic.emailStr text = some normal →
      app.pydantic.emailStr normal = some normal) (validated : request.Validated app)
    (passes : Passes app trace email request)
    (plain : ∀ password, request = .createSuperuser email password →
      app.pydantic.emailStr email = some email) : app.pydantic.emailStr email = some email := by
  have read {Body : Type} {make : String × String → Body} {body : Body}
      {fields : List (String × Json)} (read : (readEmailAndPassword app.pydantic fields).map make = some body) :
      ∃ text normal password, app.pydantic.emailStr text = some normal ∧ make (normal, password) = body := by
    obtain ⟨⟨normal, password⟩, accepted, made⟩ := Option.map_eq_some_iff.mp read
    obtain ⟨text, _, normalizes, _⟩ := readEmailAndPassword_eq_some.mp accepted
    exact ⟨text, normal, password, normalizes, made⟩
  cases passes with
  | createUser data same =>
    obtain ⟨fields, valid⟩ := validated
    obtain ⟨text, normal, password, normalizes, rfl⟩ := read valid
    exact same ▸ idempotent text normal normalizes
  | changeEmail token data same =>
    obtain ⟨fields, valid⟩ := validated
    obtain ⟨text, normal, password, normalizes, rfl⟩ := read valid
    exact same ▸ idempotent text normal normalizes
  | createSuperuser password => exact plain password rfl
  | callback _ callback profile fetched same =>
    obtain ⟨exchange, _, read⟩ := fetched
    obtain ⟨_, text, _, normalizes⟩ := profileRead_email read
    exact same ▸ idempotent text _ normalizes

/-- The history of a run that stores no other emails. -/
abbrev StoringLawful (app : App Token) (condition : Condition Tid Reply World) (world : World)
    (requests : Tid → Request Token) : List ServiceEvent → Prop :=
  Lawful answers condition (fun tid => StoresPassed app (requests tid)) world

/-- A statement an event committed gives an email its request may store. -/
theorem committed_passes
    (lawful : LawfulEvent answers condition (fun tid => StoresPassed app (requests tid)) world older event)
    {statement : Write} (among : statement ∈ committed event) (gives : statement.emailFor? id = some email) :
    Passes app (traceOf older event.thread) email (requests event.thread) := by
  have stores := lawful.specified
  obtain ⟨thread, request, reply, before, after⟩ := event
  cases request with
  | commit session writes =>
    cases reply with
    | ok _ => exact stores statement among id email gives
    | error error => cases among
  | _ => cases among

/-- A row after an event has an email its request passes on, or it was given none and kept its own. -/
theorem row_email
    (lawful : LawfulEvent answers condition (fun tid => StoresPassed app (requests tid)) world older event)
    {row : User} (member : row ∈ event.after.db.users) :
    (GivesEmail event row.id ∧ Passes app (traceOf older event.thread) row.email (requests event.thread)) ∨
      (¬ GivesEmail event row.id ∧
        ∃ old ∈ (stateAfter world older).db.users, old.id = row.id ∧ old.email = row.email) := by
  rcases Database.writeAll_email_origin (event_db lawful) member with ⟨statement, among, gives⟩ | ⟨silent, kept⟩
  · exact .inl ⟨⟨statement, among, _, gives⟩, committed_passes lawful among gives⟩
  · right
    constructor
    · rintro ⟨statement, among, email, gives⟩
      rw [silent statement among] at gives
      cases gives
    · rw [← lawful.follows]
      exact kept

/-- Without another email a row keeps its own. -/
theorem email_kept (lawful : StoringLawful app condition world requests (newer ++ older))
    (silent : ∀ later ∈ newer, ¬ GivesEmail later id) {row : User}
    (member : row ∈ (stateAfter world (newer ++ older)).db.users) (owner : row.id = id) :
    ∃ old ∈ (stateAfter world older).db.users, old.id = id ∧ old.email = row.email := by
  induction newer generalizing row with
  | nil => exact ⟨row, member, owner, rfl⟩
  | cons event newer ih =>
    obtain ⟨here, before⟩ := List.forall_mem_cons.mp silent
    rcases row_email lawful.1 member with ⟨gives, _⟩ | ⟨_, old, present, same, kept⟩
    · exact absurd (owner ▸ gives) here
    · obtain ⟨first, there, first_id, first_email⟩ := ih lawful.2 before present (same.trans owner)
      exact ⟨first, there, first_id, first_email.trans kept⟩

/-- No user disappears. -/
theorem ids_kept (lawful : StoringLawful app condition world requests past) (suffix : older <:+ past)
    (present : id ∈ (stateAfter world older).db.users.map User.id) :
    id ∈ (stateAfter world past).db.users.map User.id := by
  refine Lawful.relates (r := fun first last : World =>
    id ∈ first.db.users.map User.id → id ∈ last.db.users.map User.id) ?_ ?_ ?_ lawful suffix present
  · exact fun _ here => here
  · exact fun left right here => right (left here)
  · exact fun _ _ _ lawful here => Database.writeAll_ids (event_db lawful) here

/-- While `create_superuser` stores plain emails only, every stored email is a normal form. -/
theorem users_normalized
    (idempotent : ∀ text normal, app.pydantic.emailStr text = some normal →
      app.pydantic.emailStr normal = some normal) (validated : ∀ tid, (requests tid).Validated app)
    (start : Normalized app.pydantic.emailStr User.email world.db.users)
    (lawful : StoringLawful app condition world requests past)
    (plain : ∀ event ∈ past, PlainSuperuser app requests event) :
    Normalized app.pydantic.emailStr User.email (stateAfter world past).db.users := by
  induction past with
  | nil => exact start
  | cons event older ih =>
    obtain ⟨here, before⟩ := List.forall_mem_cons.mp plain
    apply (ih lawful.2 before).step
    intro row member
    rcases row_email lawful.1 member with ⟨gives, passes⟩ | ⟨_, old, present, _, kept⟩
    · left
      apply passed_normal idempotent (validated event.thread) passes
      exact fun password requested => here row.email password requested ⟨row.id, gives⟩
    · exact .inr ⟨old, present, kept⟩

/-- A login finds a row under every text whose normal form is the row's email. -/
theorem login_finds {state : World} {row : User} (member : row ∈ state.db.users)
    (normal : app.pydantic.emailStr text = some row.email) : LoginFinds app state row.id text := by
  intro fields password given secret
  have accepted : UserLoginData.modelValidate app.pydantic fields = some ⟨row.email, password⟩ := by
    apply Option.map_eq_some_iff.mpr
    exact ⟨(row.email, password), readEmailAndPassword_eq_some.mpr ⟨text, given, normal, secret⟩, rfl⟩
  have found : state.db.userByEmail? row.email = some row :=
    lookup_of_mem state.db.consistent.userEmails member
  refine ⟨_, row, accepted, rfl, found, rfl, fun verified tid requestMeta deviceInfo => ?_⟩
  have known : ∃ user ∈ state.db.users, user.email = row.email ∧
      app.passwordHash.verify password user.passwordHash = true := ⟨row, member, rfl, verified⟩
  apply session_users (p := fun outcome _ => ¬ Rejected outcome)
  apply Alone.bind (loginUser_users ⟨row.email, password⟩ requestMeta deviceInfo)
  · intro pair after _
    exact rejected_ok _
  · rintro error after ⟨_, decided⟩ rejected
    rw [rejected_error] at rejected
    exact decided.mp (rejected_error error |>.mpr rejected) known

/-- What a login finds under the text of a body has the normal form of the text. -/
theorem email_of_login_finds {state : World} (finds : LoginFinds app state id text) :
    ∃ row ∈ state.db.users, row.id = id ∧ app.pydantic.emailStr text = some row.email := by
  obtain ⟨data, row, accepted, _, found, owner, _⟩ :=
    finds [("email", .str text), ("password", .str "")] "" rfl rfl
  obtain ⟨email, password, normal, rfl⟩ := modelValidate_email accepted rfl
  exact ⟨row, lookup_mem found, owner, normal.trans (congrArg some (lookup_key found).symm)⟩

/-- The row a text was submitted for exists. -/
theorem submitted_present
    (lawful : LawfulEvent answers condition (fun tid => StoresPassed app (requests tid)) world older event)
    (submitted : EmailSubmitted app requests older event id text) :
    id ∈ event.after.db.users.map User.id := by
  cases submitted with
  | given submits gives =>
    obtain ⟨statement, among, email, gives⟩ := gives
    exact Database.writeAll_given (event_db lawful) among gives
  | kept token data requested submits accepted row member owner same =>
    rw [db_of_committed_nil lawful (committed_of_exchange accepted)]
    exact owner ▸ List.mem_map_of_mem member

/-- Its email is the normal form of the text. -/
theorem submitted_email
    (lawful : LawfulEvent answers condition (fun tid => StoresPassed app (requests tid)) world older event)
    (identified : Lawful answers condition (IdentifiesAll app requests) world older)
    (plain : PlainSuperuser app requests event)
    (submitted : EmailSubmitted app requests older event id text) {row : User}
    (member : row ∈ event.after.db.users) (owner : row.id = id) :
    app.pydantic.emailStr text = some row.email := by
  cases submitted with
  | given submits gives =>
    rcases row_email lawful member with ⟨gives, passes⟩ | ⟨silent, _⟩
    · apply submitted_normal submits passes
      · exact fun password requested => plain row.email password requested ⟨row.id, gives⟩
      · intro exchange inside other present callback fetches again
        exact fetched_once identified callback inside fetches present again
    · exact absurd (owner ▸ gives) silent
  | kept token data requested submits accepted old present kept same =>
    rw [db_of_committed_nil lawful (committed_of_exchange accepted)] at member
    have unique : old = row := by
      apply List.inj_on_of_nodup_map event.before.db.consistent.userIds present member
      exact kept.trans owner.symm
    rw [← unique, same]
    rw [requested] at submits
    cases submits with
    | changeEmail _ fields _ given read =>
      obtain ⟨normal, password, normalizes, rfl⟩ := modelValidate_email read given
      exact normalizes
    | callback _ callback exchange inside given => cases callback

/-- In a run that starts with normal forms only, the emails agree at every moment if and only if
`create_superuser` stores a row only under an email that `EmailStr` leaves as it is. -/
theorem emails_agree_iff
    (idempotent : ∀ text normal, app.pydantic.emailStr text = some normal →
      app.pydantic.emailStr normal = some normal) (validated : ∀ tid, (requests tid).Validated app)
    (start : Normalized app.pydantic.emailStr User.email world.db.users)
    (run : Reaches answers condition (started app world requests) config) :
    (∀ past, past <:+ config.past → EmailsAgree app requests world past) ↔
      ∀ event ∈ config.past, PlainSuperuser app requests event := by
  have lawful := (course_of_along (fun tid => StoresPassed app (requests tid)) (fun _ _ _ => True) run
    fun tid => (requests tid).stores_passed app).lawful
  have identified := (course_of_along (IdentifiesAll app requests)
    (fun tid trace _ => (requests tid).isCallback = true → LookedUp app trace) run
    fun tid => (requests tid).identifies app).lawful
  constructor
  · intro agree event member email password requested gives
    obtain ⟨id, gives⟩ := gives
    obtain ⟨newer, older, split⟩ := List.append_of_mem member
    have here : event :: older <:+ config.past := split ▸ List.suffix_append newer _
    have submitted : EmailSubmitted app requests older event id email :=
      .given (requested ▸ .createSuperuser password) gives
    have finds := (agree _ here).finds id email submitted.latest
    obtain ⟨row, stored, rfl, normal⟩ := email_of_login_finds finds
    rcases row_email (lawful.suffix here).1 stored with ⟨_, passes⟩ | ⟨silent, _⟩
    · rw [requested] at passes
      cases passes with
      | createSuperuser _ => exact normal
      | callback _ callback profile fetched same => cases callback
    · exact absurd gives silent
  · intro plain past suffix
    have within := lawful.suffix suffix
    have normalized := users_normalized idempotent validated start within fun event member =>
      plain event (suffix.subset member)
    constructor
    · intro row member other present normal same_row same_other
      exact normalized.eq_of_normal (stateAfter world past).db.consistent.userEmails member present
        same_row same_other
    · rintro id text ⟨newer, event, older, rfl, submitted, silent⟩
      have event_lawful := (within.suffix (List.suffix_append newer (event :: older))).1
      have from_there := identified.suffix ((List.suffix_cons event older).trans
        ((List.suffix_append newer (event :: older)).trans suffix))
      have present := ids_kept within (List.suffix_append newer (event :: older))
        (submitted_present event_lawful submitted)
      obtain ⟨row, member, rfl⟩ := List.mem_map.mp present
      obtain ⟨old, there, owner, kept⟩ := email_kept within silent member rfl
      apply login_finds member
      rw [← kept]
      exact submitted_email event_lawful from_there (plain event (suffix.subset (by simp))) submitted there owner

end Runs

/-- `EmailStr` writes the domain of one address in lower case. -/
private def loweringApp : App Claims :=
  { transparentApp with
    pydantic := { transparentApp.pydantic with
      emailStr := fun text => some (if text = "root@EXAMPLE.com" then "root@example.com" else text) } }

private theorem lowering_idempotent (text normal : String)
    (read : loweringApp.pydantic.emailStr text = some normal) :
    loweringApp.pydantic.emailStr normal = some normal := by
  simp only [loweringApp, Option.some.injEq] at read ⊢
  subst read
  split <;> simp_all

private theorem lowering_start :
    Normalized loweringApp.pydantic.emailStr User.email bootstrappedWorld.db.users := by
  intro row member
  obtain rfl := List.mem_singleton.mp member
  rfl

/-- The superuser and a user with the same text as their email. -/
private def rootTwice (superuser : String) : Tid → Request Claims :=
  pool [.createSuperuser superuser "secret", .createUser ⟨"root@example.com", "pw"⟩]

private theorem rootTwice_validated (superuser : String) (tid : Tid) :
    (rootTwice superuser tid).Validated loweringApp := by
  match tid with
  | 0 => trivial
  | 1 => exact ⟨[("email", .str "root@EXAMPLE.com"), ("password", .str "pw")], rfl⟩
  | tid + 2 => trivial

/-- The superuser is not found under the email it was created with, and the same text registers a second
user with that normal form. -/
theorem superuser_not_found : ∃ (stored registered : ServiceConfig Claims) (superuser other : User),
    Reaches answers unrestricted (started loweringApp bootstrappedWorld (rootTwice "root@EXAMPLE.com"))
      stored ∧ Reaches answers unrestricted stored registered ∧
    EmailFrom loweringApp (rootTwice "root@EXAMPLE.com") stored.past superuser.id "root@EXAMPLE.com" ∧
    ¬ LoginFinds loweringApp stored.now superuser.id "root@EXAMPLE.com" ∧
    superuser ∈ registered.now.db.users ∧ other ∈ registered.now.db.users ∧ superuser.id ≠ other.id ∧
    loweringApp.pydantic.emailStr superuser.email = loweringApp.pydantic.emailStr other.email := by
  have played : ((started loweringApp bootstrappedWorld (rootTwice "root@EXAMPLE.com")).playAll World.answer
      unrestricted [move 0, move 0, move 0 5, move 0]).any (fun stored =>
        (stored.playAll World.answer unrestricted [move 1, move 1, move 1, move 1 6, move 1]).any
          fun registered =>
            decide ("root@example.com" ∉ stored.now.db.users.map User.email) &&
            (stored.past.head?.any fun event => decide (event.thread = 0) &&
              (committed event).any fun statement => (statement.emailFor? (numbered 5)).isSome) &&
            (registered.now.db.user? (numbered 5)).any (fun row => row.email = "root@EXAMPLE.com") &&
            (registered.now.db.user? (numbered 6)).any (fun row => row.email = "root@example.com")) =
              true := by decide
  obtain ⟨stored, registered, run, rest, checked⟩ := Config.playAll_exists_exists played
  simp only [Bool.and_eq_true] at checked
  obtain ⟨⟨⟨absent, commits⟩, first⟩, second⟩ := checked
  obtain ⟨superuser, found, given⟩ := (Option.any_eq_true _ _).mp first
  obtain ⟨other, there, normal⟩ := (Option.any_eq_true _ _).mp second
  have superuser_id := Database.user?_id found
  have other_id := Database.user?_id there
  refine ⟨stored, registered, superuser, other, run, rest, ?_, ?_, Database.user?_mem found,
    Database.user?_mem there, ?_, ?_⟩
  · obtain ⟨event, latest, checked⟩ := (Option.any_eq_true _ _).mp commits
    obtain ⟨older, past⟩ := List.head?_eq_some_iff.mp latest
    rw [Bool.and_eq_true] at checked
    obtain ⟨statement, among, gives⟩ := List.any_eq_true.mp checked.2
    rw [past]
    apply EmailSubmitted.latest
    apply EmailSubmitted.given
    · rw [of_decide_eq_true checked.1]
      exact .createSuperuser "secret"
    · obtain ⟨email, gives⟩ := Option.isSome_iff_exists.mp gives
      rw [superuser_id]
      exact ⟨statement, among, email, gives⟩
  · intro finds
    obtain ⟨row, member, _, read⟩ := email_of_login_finds finds
    have normal : "root@example.com" = row.email := Option.some.inj read
    apply of_decide_eq_true absent
    rw [normal]
    exact List.mem_map_of_mem member
  · rw [superuser_id, other_id]
    decide
  · rw [of_decide_eq_true given, of_decide_eq_true normal]
    rfl

/-- A superuser with a lower-case domain: the emails of the run agree. -/
theorem emails_agree_iff_plain : ∃ (config : ServiceConfig Claims) (id : UUID4),
    (∀ past, past <:+ config.past →
      EmailsAgree loweringApp (rootTwice "boss@example.com") bootstrappedWorld past) ∧
    LoginFinds loweringApp config.now id "root@EXAMPLE.com" := by
  have played : ((started loweringApp bootstrappedWorld (rootTwice "boss@example.com")).playAll World.answer
      unrestricted ([move 0, move 0, move 0 5, move 0] ++ [move 1, move 1, move 1, move 1 6, move 1])).any
        (fun config => (config.past.head?.any fun event => decide (event.thread = 1) &&
              (committed event).any fun statement => (statement.emailFor? (numbered 6)).isSome)) =
          true := by decide
  obtain ⟨config, run, commits⟩ := Config.playAll_exists played
  have plain : ∀ event ∈ config.past, PlainSuperuser loweringApp (rootTwice "boss@example.com") event := by
    intro event _ email password requested _
    match here : event.thread with
    | 0 =>
      rw [here] at requested
      cases requested
      rfl
    | 1 =>
      rw [here] at requested
      cases requested
    | tid + 2 =>
      rw [here] at requested
      cases requested
  have agree := (emails_agree_iff lowering_idempotent (rootTwice_validated _) lowering_start run).mpr plain
  obtain ⟨event, latest, checked⟩ := (Option.any_eq_true _ _).mp commits
  obtain ⟨older, past⟩ := List.head?_eq_some_iff.mp latest
  rw [Bool.and_eq_true] at checked
  obtain ⟨statement, among, gives⟩ := List.any_eq_true.mp checked.2
  obtain ⟨email, gives⟩ := Option.isSome_iff_exists.mp gives
  refine ⟨config, numbered 6, agree, ?_⟩
  rw [(service_course run).now_eq]
  apply (agree config.past (List.suffix_refl _)).finds
  rw [past]
  apply EmailSubmitted.latest
  apply EmailSubmitted.given
  · rw [of_decide_eq_true checked.1]
    exact .createUser [("email", .str "root@EXAMPLE.com"), ("password", .str "pw")] _ rfl rfl
  · exact ⟨statement, among, email, gives⟩

end AuthApi
