import AuthApi.Model.Requests
import AuthApi.Run.Alone
import AuthApi.Run.DefaultRole

/-! # Restarts

The start-up commands look for the default role by its title, which nothing changes, and for the
superuser by the configured email, which `change_email` may have moved. A restart then creates a
second superuser with the configured password.
-/

namespace AuthApi

open Interleaving Interleaving.Program Relational Commands

/-- The default role is a matter of the roles. -/
theorem Database.HasDefaultRole.of_roles {db other : Database} {roleId : UUID4}
    (default : db.HasDefaultRole roleId) (same : other.roles = db.roles) :
    other.HasDefaultRole roleId := by
  unfold Database.HasDefaultRole Database.role? at default ⊢
  rw [same]
  exact default

section Commands

variable {Token : Type} {app : App Token} {tid : Tid} {before : World} {email password : String}

/-- The command leaves an existing default role alone and creates a missing one. -/
theorem createDefaultRole_alone :
    createDefaultRole.Alone (alone unusedId tid) (fun outcome after => outcome = .ok () ∧
      after.db.users = before.db.users ∧ (∃ roleId, after.db.HasDefaultRole roleId) ∧
        ((∃ roleId, before.db.HasDefaultRole roleId) → after.db = before.db)) before := by
  intro found read answered
  have row := answers_selectRoleByTitle (alone_answers answered)
  have kept := alone_db answered rfl
  cases found with
  | some role =>
    have present : role ∈ read.db.roles := kept ▸ lookup_mem row.symm
    exact ⟨rfl, by rw [kept], ⟨role.id, .of_mem present (lookup_key row.symm)⟩, fun _ => kept⟩
  | none =>
    intro id drawn answered
    have fresh := unusedId_iff.mp (alone_draw answered)
    rw [kept] at fresh
    have kept : drawn.db = before.db := (alone_db answered rfl).trans kept
    have absent : DEFAULT_ROLE_TITLE ∉ before.db.roles.map Role.title := lookup_eq_none.mp row.symm
    intro reply after answered
    cases reply with
    | ok _ =>
      have tables := Database.writeAll_insertRole (alone_effect answered).db
      refine ⟨rfl, ?_, ⟨id, ?_⟩, ?_⟩
      · rw [tables, kept]
      · have member : NewRole.row ⟨id, DEFAULT_ROLE_TITLE, DEFAULT_ROLE_ACCESS_LABELS⟩
            (drawn.defaults tid) ∈ after.db.roles := by
          rw [tables]
          exact List.mem_append_right _ List.mem_cons_self
        exact .of_mem member rfl
      · rintro ⟨roleId, role, found, titled⟩
        exact absurd (titled ▸ List.mem_map_of_mem (lookup_mem found)) absent
    | error error =>
      obtain ⟨now, refused⟩ := answers_commit_error (alone_answers answered)
      have written : drawn.db.write (drawn.defaults tid) now
          (.insertRole ⟨id, DEFAULT_ROLE_TITLE, DEFAULT_ROLE_ACCESS_LABELS⟩) = .ok _ :=
        Database.write_of_consistent rfl (drawn.db.consistent.insertRole (kept ▸ fresh.2)
          (kept ▸ absent))
      rw [Database.writeAll, written] at refused
      cases refused

/-- The command leaves an existing user of the configured email alone, and else inserts one. -/
theorem createSuperuser_alone :
    (DbHelpers.createSuperuser app email password).Alone (alone unusedId tid) (fun outcome after =>
      outcome = .ok () ∧ after.db.roles = before.db.roles ∧
        (email ∈ before.db.users.map User.email → after.db = before.db) ∧
        (email ∉ before.db.users.map User.email → ∃ user, user.email = email ∧
          user.isSuperuser = true ∧ after.db.users = before.db.users ++ [user])) before := by
  intro found read answered
  have row := answers_selectUserByEmail (alone_answers answered)
  have kept := alone_db answered rfl
  cases found with
  | some user =>
    obtain ⟨present, found, _⟩ := Option.map_eq_some_iff.mp row.symm
    have known : email ∈ before.db.users.map User.email :=
      lookup_isSome.mp (Option.isSome_iff_exists.mpr ⟨present, found⟩)
    exact ⟨rfl, by rw [kept], fun _ => kept, fun absent => absurd known absent⟩
  | none =>
    have absent : email ∉ before.db.users.map User.email :=
      lookup_eq_none.mp (Option.map_eq_none_iff.mp row.symm)
    intro salt salted answered
    have kept : salted.db = before.db := (alone_db answered rfl).trans kept
    intro id drawn answered
    have fresh := unusedId_iff.mp (alone_draw answered)
    rw [kept] at fresh
    have kept : drawn.db = before.db := (alone_db answered rfl).trans kept
    intro reply after answered
    cases reply with
    | ok _ =>
      have tables := Database.writeAll_insertUser (alone_effect answered).db
      refine ⟨rfl, by rw [tables, kept], fun known => absurd known absent, fun _ => ?_⟩
      exact ⟨_, rfl, rfl, by rw [tables, kept]⟩
    | error error =>
      obtain ⟨now, refused⟩ := answers_commit_error (alone_answers answered)
      obtain ⟨next, written⟩ : ∃ next, drawn.db.write (drawn.defaults tid) now (.insertUser
          { id, email, passwordHash := app.passwordHash.hash password salt, roleId := none
            isSuperuser := true }) = .ok next :=
        Database.insertUser_ok _ _ (kept ▸ fresh.1) (kept ▸ absent) nofun
      rw [Database.writeAll, written] at refused
      cases refused

/-- A start leaves a default role, and with one it changes the users or the roles if and only if
nobody has the configured email. -/
theorem startUp_alone :
    (startUp app email password).Alone (alone unusedId tid) (fun _ after =>
      (∃ roleId, after.db.HasDefaultRole roleId) ∧ ((∃ roleId, before.db.HasDefaultRole roleId) →
        ((after.db.users = before.db.users ∧ after.db.roles = before.db.roles) ↔
          ∃ user ∈ before.db.users, user.email = email))) before := by
  have role := @createDefaultRole_alone tid before
  apply Alone.bind (withSession_alone_db (p := fun outcome db => outcome = .ok () ∧
    db.users = before.db.users ∧ (∃ roleId, db.HasDefaultRole roleId) ∧
      ((∃ roleId, before.db.HasDefaultRole roleId) → db = before.db)) role)
  · rintro _ middle ⟨_, users, ⟨roleId, default⟩, same⟩
    have superuser := withSession_alone_db (p := fun _ db => db.roles = middle.db.roles ∧
        (email ∈ middle.db.users.map User.email → db = middle.db) ∧
        (email ∉ middle.db.users.map User.email → ∃ user, user.email = email ∧
          user.isSuperuser = true ∧ db.users = middle.db.users ++ [user]))
      ((@createSuperuser_alone _ app tid middle email password).mono fun _ _ ends => ends.2)
    apply superuser.mono
    rintro _ after ⟨roles, known, unknown⟩
    refine ⟨⟨roleId, default.of_roles roles⟩, fun existing => ?_⟩
    have unchanged := same existing
    rw [users] at known unknown
    constructor
    · rintro ⟨kept, _⟩
      by_contra nobody
      obtain ⟨user, _, _, added⟩ := unknown (by simpa using nobody)
      rw [kept] at added
      exact absurd (List.self_eq_append_right.mp added) (List.cons_ne_nil _ _)
    · rintro ⟨user, member, rfl⟩
      rw [known (List.mem_map_of_mem member), unchanged]
      exact ⟨rfl, rfl⟩
  · rintro error middle ⟨⟨⟩, _⟩

end Commands

/-- From every state the service reaches after a start, another start leaves the users and the roles
as they are if and only if some user has the configured email. -/
theorem restart_unchanged_iff {Token : Type} {app : App Token} {tid other : Tid}
    {email password : String} {condition : Condition Tid Reply World}
    {requests : Tid → Request Token} {config : ServiceConfig Token}
    {initial booted world restarted after : World} {outcome ended : Except Exn Unit}
    (boot : (startUp app email password).Runs (alone unusedId tid) initial outcome booted)
    (served : world.db = booted.db)
    (run : Reaches answers condition (started app world requests) config)
    (stopped : restarted.db = config.now.db)
    (again : (startUp app email password).Runs (alone unusedId other) restarted ended after) :
    (after.db.users = config.now.db.users ∧ after.db.roles = config.now.db.roles) ↔
      ∃ user ∈ config.now.db.users, user.email = email := by
  obtain ⟨⟨roleId, default⟩, _⟩ := startUp_alone.run boot
  have course := service_course run
  have kept : config.now.db.HasDefaultRole roleId := by
    rw [course.now_eq]
    apply lawful_hasDefaultRole course.lawful
    rw [served]
    exact default
  have unchanged := (startUp_alone.run again).2
  rw [stopped] at unchanged
  exact unchanged ⟨roleId, kept⟩

private def migratedWorld : World :=
  { bootstrappedWorld with db := (SchemaSetup.alembicUpgrade []).database }

private def configured : Action Unit := startUp transparentApp "admin@example.com" "password"

/-- One call without a choice, or with a draw. -/
private def draw (n : ℕ := 0) : Choice := (move 0 n).2

private def firstStart : List Choice :=
  [draw, draw 1, draw, draw, draw, draw, draw 2, draw, draw]

/-- The superuser changes one of its credentials. -/
private def changes (operation : UserOperation) : Tid → Request Claims :=
  pool [.userEndpoint (adminAccess 1) operation]

/-- The operation over the service as the first start leaves it. -/
private def served (operation : UserOperation) (booted : World) : ServiceConfig Claims :=
  started transparentApp booted (changes operation)

private def movesEmail : UserOperation := .changeEmail ⟨"root@example.com", "password"⟩

/-- The users by their email, password and flag. -/
private def accounts (world : World) : List (String × String × Bool) :=
  world.db.users.map fun user => (user.email, user.passwordHash, user.isSuperuser)

/-- A second start that creates one more superuser. -/
private def addsSuperuser (_ : Except Exn Unit) (after : World) : Bool :=
  accounts after = [("root@example.com", "password", true), ("admin@example.com", "password", true)]

private def startsAgain (config : ServiceConfig Claims) : Bool :=
  accounts config.now = [("root@example.com", "password", true)] &&
    (configured.replay (freshAnswer unusedId 1) config.now
      [draw, draw, draw, draw, draw 7, draw, draw]).any fun ended => addsSuperuser ended.1 ended.2

private def serves (_ : Except Exn Unit) (booted : World) : Bool :=
  ((served movesEmail booted).playAll World.answer unrestricted [move 0, move 0, move 0, move 0]).any
    startsAgain

/-- The superuser moves to another email; the next start adds a second superuser, who has the
configured email and password. -/
theorem restart_adds_superuser : ∃ booted config after outcome ended,
    configured.Runs (alone unusedId 0) migratedWorld outcome booted ∧
    Reaches answers unrestricted (served movesEmail booted) config ∧
    configured.Runs (alone unusedId 1) config.now ended after ∧
    accounts config.now = [("root@example.com", "password", true)] ∧
    accounts after =
      [("root@example.com", "password", true), ("admin@example.com", "password", true)] := by
  have played : (configured.replay (freshAnswer unusedId 0) migratedWorld firstStart).any
      (fun booted => serves booted.1 booted.2) = true := by decide
  obtain ⟨outcome, booted, boot, played⟩ := replay_exists played
  obtain ⟨config, run, checked⟩ := Config.playAll_exists played
  rw [startsAgain, Bool.and_eq_true, decide_eq_true_iff] at checked
  obtain ⟨ended, after, again, added⟩ := replay_exists checked.2
  exact ⟨booted, config, after, outcome, ended, boot, run, again, checked.1, of_decide_eq_true added⟩

private def movesPassword : UserOperation := .changePassword ⟨"password", "better"⟩

private def startsAgainQuietly (config : ServiceConfig Claims) : Bool :=
  accounts config.now = [("admin@example.com", "better", true)] &&
    (configured.replay (freshAnswer unusedId 1) config.now [draw, draw, draw, draw]).any fun _ => true

private def servesPassword (_ : Except Exn Unit) (booted : World) : Bool :=
  ((served movesPassword booted).playAll World.answer unrestricted
    [move 0, move 0, move 0, move 0, move 0]).any startsAgainQuietly

/-- The changed password survives the restart. -/
theorem restart_unchanged_iff_password : ∃ config after : World,
    accounts config = [("admin@example.com", "better", true)] ∧
      after.db.users = config.db.users ∧ after.db.roles = config.db.roles := by
  have played : (configured.replay (freshAnswer unusedId 0) migratedWorld firstStart).any
      (fun booted => servesPassword booted.1 booted.2) = true := by decide
  obtain ⟨outcome, booted, boot, played⟩ := replay_exists played
  obtain ⟨config, run, checked⟩ := Config.playAll_exists played
  rw [startsAgainQuietly, Bool.and_eq_true, decide_eq_true_iff] at checked
  obtain ⟨known, played⟩ := checked
  have present : "admin@example.com" ∈ config.now.db.users.map User.email := by
    have emails : config.now.db.users.map User.email = (accounts config.now).map Prod.fst := by
      simp [accounts]
    rw [emails, known]
    exact List.mem_cons_self
  obtain ⟨ended, after, again, _⟩ := @replay_exists _ _ _ _ _ _ _ _ _ _ (fun _ _ => true) played
  obtain ⟨user, member, email⟩ := List.mem_map.mp present
  exact ⟨config.now, after, known,
    (restart_unchanged_iff boot rfl run rfl again).mpr ⟨user, member, email⟩⟩

end AuthApi
