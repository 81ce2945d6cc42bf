import AuthApi.Relational.Stamps
import AuthApi.Run.Rows

/-! # Creation and update times

The defaults of `created_at` and `updated_at` are values computed when a worker imports the models,
not functions called for each row. So a row gets the times its worker started with, and the laws one
expects of these columns hold exactly for statements whose worker started late enough.
-/

namespace AuthApi

open Interleaving Relational

def User.stamps : Stamps User UUID4 Time := ⟨User.id, User.createdAt, User.updatedAt⟩

def Role.stamps : Stamps Role UUID4 Time := ⟨Role.id, Role.createdAt, Role.updatedAt⟩

def OAuthAccount.stamps : Stamps OAuthAccount UUID4 Time :=
  ⟨OAuthAccount.id, OAuthAccount.createdAt, OAuthAccount.updatedAt⟩

/-- The user rows a statement changes; the foreign key of a deleted role is set to null. -/
def Write.updatesUser (db : Database) (id : UUID4) : Write → Prop
  | .updateUser target _ => id = target
  | .deleteRole roleId => ∃ user ∈ db.users, user.id = id ∧ user.roleId = some roleId
  | _ => False

def Write.updatesRole (id : UUID4) : Write → Prop
  | .updateRole target _ => id = target
  | _ => False

/-- What the statements of a request begun at `start` owe the timestamps of the three tables. No
statement updates a link. -/
structure TimestampsKept (start : Time) (writes : List Write) (before after : Database) : Prop where
  users : User.stamps.Kept start (fun id => ∃ write ∈ writes, write.updatesUser before id)
    before.users after.users
  roles : Role.stamps.Kept start (fun id => ∃ write ∈ writes, write.updatesRole id)
    before.roles after.roles
  accounts : OAuthAccount.stamps.Kept start (fun _ => False)
    before.oauthAccounts after.oauthAccounts

/-- No row of the three tables was updated before its creation. -/
structure Database.StampsOrdered (db : Database) : Prop where
  users : User.stamps.Ordered db.users
  roles : Role.stamps.Ordered db.roles
  accounts : OAuthAccount.stamps.Ordered db.oauthAccounts

/-- The worker's defaults are late enough for the statement. -/
def Write.InTime (defaults : ModelDefaults) (start : Time) (db : Database) : Write → Prop
  | .insertUser _ => start ≤ defaults.createdAt ∧ defaults.createdAt ≤ defaults.userUpdatedAt
  | .insertRole _ => start ≤ defaults.createdAt ∧ defaults.createdAt ≤ defaults.updatedAt
  | .insertOAuthAccount _ => start ≤ defaults.createdAt ∧ defaults.createdAt ≤ defaults.updatedAt
  | .insertLoginHistory _ => True
  | .updateUser id _ => start ≤ defaults.userOnUpdate ∧
      ∀ user ∈ db.user? id, user.updatedAt ≤ defaults.userOnUpdate
  | .updateRole id _ => start ≤ defaults.onUpdate ∧
      ∀ role ∈ db.role? id, role.updatedAt ≤ defaults.onUpdate
  | .deleteRole id => ∀ user ∈ db.users, user.roleId = some id → start ≤ user.updatedAt

instance (defaults : ModelDefaults) (start : Time) (db : Database) (write : Write) :
    Decidable (write.InTime defaults start db) := by
  cases write <;> unfold Write.InTime <;> infer_instance

section Statements

variable {start now : Time} {defaults : ModelDefaults} {before after : Database}

theorem TimestampsKept.ordered {writes : List Write} (kept : TimestampsKept start writes before after) :
    after.StampsOrdered := ⟨kept.users.ordered, kept.roles.ordered, kept.accounts.ordered⟩

/-- A table that a change leaves alone owes nothing. -/
private theorem kept_of_eq {ρ : Type} {stamps : Stamps ρ UUID4 Time} {updates : UUID4 → Prop}
    {rows later : List ρ} (ordered : stamps.Ordered rows) (quiet : ∀ id, ¬ updates id)
    (same : later = rows) : stamps.Kept start updates rows later := by
  subst same
  exact Stamps.kept_of_sublist ordered quiet (List.Sublist.refl _)

theorem kept_nil (ordered : before.StampsOrdered) : TimestampsKept start [] before before where
  users := kept_of_eq ordered.users (by simp) rfl
  roles := kept_of_eq ordered.roles (by simp) rfl
  accounts := kept_of_eq ordered.accounts (by simp) rfl

/-- Of a statement that leaves the roles and the links alone, the users decide. -/
private theorem kept_iff_users {writes : List Write} (ordered : before.StampsOrdered)
    (quiet : ∀ id, ¬ ∃ write ∈ writes, write.updatesRole id) (roles : after.roles = before.roles)
    (accounts : after.oauthAccounts = before.oauthAccounts) :
    TimestampsKept start writes before after ↔
      User.stamps.Kept start (fun id => ∃ write ∈ writes, write.updatesUser before id)
        before.users after.users := by
  constructor
  · exact TimestampsKept.users
  · intro users
    exact ⟨users, kept_of_eq ordered.roles quiet roles,
      kept_of_eq ordered.accounts (fun _ => id) accounts⟩

private theorem kept_iff_roles {writes : List Write} (ordered : before.StampsOrdered)
    (quiet : ∀ id, ¬ ∃ write ∈ writes, write.updatesUser before id) (users : after.users = before.users)
    (accounts : after.oauthAccounts = before.oauthAccounts) :
    TimestampsKept start writes before after ↔
      Role.stamps.Kept start (fun id => ∃ write ∈ writes, write.updatesRole id)
        before.roles after.roles := by
  constructor
  · exact TimestampsKept.roles
  · intro roles
    exact ⟨kept_of_eq ordered.users quiet users, roles,
      kept_of_eq ordered.accounts (fun _ => id) accounts⟩

/-- The key of an appended row is new, because the keys are still unique. -/
private theorem fresh_of_append {ρ : Type} {key : ρ → UUID4} {rows : List ρ} {row : ρ}
    (unique : ((rows ++ [row]).map key).Nodup) : key row ∉ rows.map key := by
  intro member
  rw [List.map_append, List.nodup_append] at unique
  exact unique.2.2 _ member _ List.mem_cons_self rfl

theorem insertUser_kept_iff {user : NewUser} (ordered : before.StampsOrdered)
    (users : after.users = before.users ++ [user.row defaults]) {writes : List Write}
    (quiet : ∀ id, ¬ ∃ write ∈ writes, write.updatesUser before id) :
    User.stamps.Kept start (fun id => ∃ write ∈ writes, write.updatesUser before id)
        before.users after.users ↔ (Write.insertUser user).InTime defaults start before := by
  have unique := after.consistent.userIds
  rw [users] at unique ⊢
  exact Stamps.kept_append_iff ordered.users quiet (fresh_of_append unique)

theorem insertAccount_kept_iff {account : NewOAuthAccount} (ordered : before.StampsOrdered)
    (accounts : after.oauthAccounts = before.oauthAccounts ++ [account.row defaults]) :
    OAuthAccount.stamps.Kept start (fun _ => False) before.oauthAccounts after.oauthAccounts ↔
      (Write.insertOAuthAccount account).InTime defaults start before := by
  have unique := after.consistent.oauthIds
  rw [accounts] at unique ⊢
  exact Stamps.kept_append_iff ordered.accounts (fun _ => id) (fresh_of_append unique)

theorem updateUser_kept_iff {target : UUID4} {patch : UserPatch} {user : User} (ordered : before.StampsOrdered)
    (found : before.user? target = some user)
    (users : after.users = amend User.id before.users target (patch.apply defaults)) :
    User.stamps.Kept start (fun id => ∃ write ∈ [Write.updateUser target patch], write.updatesUser before id)
        before.users after.users ↔ (Write.updateUser target patch).InTime defaults start before := by
  have decides : User.stamps.Kept start
      (fun id => ∃ write ∈ [Write.updateUser target patch], write.updatesUser before id)
      before.users (amend User.id before.users target (patch.apply defaults)) ↔
        start ≤ defaults.userOnUpdate ∧ user.updatedAt ≤ defaults.userOnUpdate :=
    Stamps.kept_amend_iff ordered.users before.consistent.userIds (by simp [Write.updatesUser])
      found (fun _ => rfl) fun _ => rfl
  rw [users, decides, Write.InTime, found]
  simp

theorem updateRole_kept_iff {target : UUID4} {patch : RolePatch} {role : Role} (ordered : before.StampsOrdered)
    (found : before.role? target = some role)
    (roles : after.roles = amend Role.id before.roles target (patch.apply defaults)) :
    Role.stamps.Kept start (fun id => ∃ write ∈ [Write.updateRole target patch], write.updatesRole id)
        before.roles after.roles ↔ (Write.updateRole target patch).InTime defaults start before := by
  have decides : Role.stamps.Kept start
      (fun id => ∃ write ∈ [Write.updateRole target patch], write.updatesRole id)
      before.roles (amend Role.id before.roles target (patch.apply defaults)) ↔
        start ≤ defaults.onUpdate ∧ role.updatedAt ≤ defaults.onUpdate :=
    Stamps.kept_amend_iff ordered.roles before.consistent.roleIds (by simp [Write.updatesRole])
      found (fun _ => rfl) fun _ => rfl
  rw [roles, decides, Write.InTime, found]
  simp

/-- The deletion of a role is an update of the users who held it. -/
theorem deleteRole_kept_iff {target : UUID4} (ordered : before.StampsOrdered)
    (users : after.users = before.users.map (User.dropRole target)) :
    User.stamps.Kept start (fun id => ∃ write ∈ [Write.deleteRole target], write.updatesUser before id)
        before.users after.users ↔ (Write.deleteRole target).InTime defaults start before := by
  have decides : User.stamps.Kept start
      (fun id => ∃ write ∈ [Write.deleteRole target], write.updatesUser before id)
      before.users (before.users.map (User.dropRole target)) ↔ _ :=
    Stamps.kept_map_iff ordered.users before.consistent.userIds (User.dropRole_id target)
      (by intro row; simp only [User.stamps, User.dropRole]; split <;> rfl)
      (by intro row; simp only [User.stamps, User.dropRole]; split <;> rfl)
  rw [users, decides]
  constructor
  · intro late user member holds
    exact late user member ⟨_, List.mem_cons_self, user, member, rfl, holds⟩
  · intro late user member updated
    simp only [List.mem_singleton, exists_eq_left, Write.updatesUser] at updated
    obtain ⟨holder, present, same, holds⟩ := updated
    obtain rfl : holder = user := List.inj_on_of_nodup_map before.consistent.userIds present member same
    exact late holder present holds

/-- A statement keeps the timestamps right exactly if the worker's defaults are late enough. -/
theorem write_kept_iff {write : Write} (ordered : before.StampsOrdered)
    (written : before.writeAll defaults now [write] = .ok after) :
    TimestampsKept start [write] before after ↔ write.InTime defaults start before := by
  have tables := Database.writeAll_singleton written
  cases write with
  | insertUser user =>
    have left := (Except.ok.inj tables).symm
    have quiet (id : UUID4) : ¬ ∃ write ∈ [Write.insertUser user], write.updatesUser before id := by
      simp [Write.updatesUser]
    rw [← insertUser_kept_iff ordered (by rw [left]) quiet]
    exact kept_iff_users ordered (by simp [Write.updatesRole]) (by rw [left]) (by rw [left])
  | insertRole role =>
    have left := (Except.ok.inj tables).symm
    have roles : after.roles = before.roles ++ [role.row defaults] := by rw [left]
    have unique := after.consistent.roleIds
    rw [kept_iff_roles ordered (by simp [Write.updatesUser]) (by rw [left]) (by rw [left])]
    rw [roles] at unique ⊢
    exact Stamps.kept_append_iff ordered.roles (by simp [Write.updatesRole]) (fresh_of_append unique)
  | insertOAuthAccount account =>
    have left := (Except.ok.inj tables).symm
    rw [← insertAccount_kept_iff ordered (by rw [left])]
    constructor
    · exact TimestampsKept.accounts
    · intro accounts
      exact ⟨kept_of_eq ordered.users (by simp [Write.updatesUser]) (by rw [left]),
        kept_of_eq ordered.roles (by simp [Write.updatesRole]) (by rw [left]), accounts⟩
  | insertLoginHistory entry =>
    have left := (Except.ok.inj tables).symm
    rw [kept_iff_users ordered (by simp [Write.updatesRole]) (by rw [left]) (by rw [left])]
    apply iff_of_true
    · exact kept_of_eq ordered.users (by simp [Write.updatesUser]) (by rw [left])
    · trivial
  | updateUser target patch =>
    simp only [Tables.write] at tables
    split at tables
    · next present =>
      have left := (Except.ok.inj tables).symm
      obtain ⟨user, found⟩ := Option.isSome_iff_exists.mp (lookup_isSome.mpr present)
      rw [← updateUser_kept_iff ordered found (by rw [left])]
      exact kept_iff_users ordered (by simp [Write.updatesRole]) (by rw [left]) (by rw [left])
    · cases tables
  | updateRole target patch =>
    simp only [Tables.write] at tables
    split at tables
    · next present =>
      have left := (Except.ok.inj tables).symm
      obtain ⟨role, found⟩ := Option.isSome_iff_exists.mp (lookup_isSome.mpr present)
      rw [← updateRole_kept_iff ordered found (by rw [left])]
      exact kept_iff_roles ordered (by simp [Write.updatesUser]) (by rw [left]) (by rw [left])
    · cases tables
  | deleteRole target =>
    have left := (Except.ok.inj tables).symm
    have roles : after.roles.Sublist before.roles := by
      rw [left]
      exact List.filter_sublist
    rw [← deleteRole_kept_iff ordered (by rw [left])]
    constructor
    · exact TimestampsKept.users
    · intro users
      exact ⟨users, Stamps.kept_of_sublist ordered.roles (by simp [Write.updatesRole]) roles,
        kept_of_eq ordered.accounts (fun _ => id) (by rw [left])⟩

/-- The two insertions of a new linked user. -/
theorem newLink_kept_iff {user : NewUser} {account : NewOAuthAccount} (ordered : before.StampsOrdered)
    (written : before.writeAll defaults now [.insertUser user, .insertOAuthAccount account] =
      .ok after) :
    TimestampsKept start [.insertUser user, .insertOAuthAccount account] before after ↔
      ∀ write ∈ [Write.insertUser user, .insertOAuthAccount account],
        write.InTime defaults start before := by
  have left := Database.writeAll_newLink written
  have quiet (id : UUID4) : ¬ ∃ write ∈ [Write.insertUser user, .insertOAuthAccount account],
      write.updatesUser before id := by simp [Write.updatesUser]
  have users : User.stamps.Kept start _ before.users after.users ↔ _ :=
    insertUser_kept_iff ordered (by rw [left]) quiet
  have accounts : OAuthAccount.stamps.Kept start _ before.oauthAccounts after.oauthAccounts ↔ _ :=
    insertAccount_kept_iff ordered (by rw [left])
  simp only [List.forall_mem_cons, List.not_mem_nil, IsEmpty.forall_iff, implies_true, and_true]
  rw [← users, ← accounts]
  constructor
  · intro kept
    exact ⟨kept.users, kept.accounts⟩
  · rintro ⟨users, accounts⟩
    exact ⟨users, kept_of_eq ordered.roles (by simp [Write.updatesRole]) (by rw [left]), accounts⟩

/-- A commit carries one statement at most, except for the two of a new linked user. -/
theorem Commits.shape {Token : Type} {app : App Token} {request : Request Token} {trace : Trace Reply}
    {writes : List Write} (commits : Commits app request trace writes) :
    writes = [] ∨ (∃ write, writes = [write]) ∨
      ∃ user account, writes = [.insertUser user, .insertOAuthAccount account] := by
  cases commits with
  | changeUser =>
    unfold userUpdate
    split
    · exact .inl rfl
    · exact .inr (.inl ⟨_, rfl⟩)
  | modifyRole =>
    unfold roleUpdate
    split
    · exact .inl rfl
    · exact .inr (.inl ⟨_, rfl⟩)
  | newLink => exact .inr (.inr ⟨_, _, rfl⟩)
  | _ => exact .inr (.inl ⟨_, rfl⟩)

end Statements

section Runs

variable {Token : Type} {app : App Token} {condition : Condition Tid Reply World} {world : World}
  {requests : Tid → Request Token} {past older : List ServiceEvent} {event : ServiceEvent}
  (startedAt : Tid → Time)

/-- The event kept what it owes the timestamps, for the given start of its request. -/
def EventKept (event : ServiceEvent) : Prop :=
  TimestampsKept (startedAt event.thread) (committed event) event.before.db event.after.db

/-- Every statement committed by the event came from a worker with late enough defaults. -/
def EventInTime (event : ServiceEvent) : Prop :=
  ∀ write ∈ committed event,
    write.InTime (eventDefaults event) (startedAt event.thread) event.before.db

variable {startedAt}

theorem event_kept_iff
    (lawful : LawfulEvent answers condition (fun tid => Allowed app (requests tid)) world older event)
    (ordered : event.before.db.StampsOrdered) :
    EventKept startedAt event ↔ EventInTime startedAt event := by
  have written := event_db lawful
  have shape : committed event = [] ∨ (∃ write, committed event = [write]) ∨
      ∃ user account, committed event = [.insertUser user, .insertOAuthAccount account] := by
    rcases event_commits lawful with none | commits
    · exact .inl none
    · exact commits.shape
  unfold EventKept EventInTime
  rcases shape with none | ⟨write, single⟩ | ⟨user, account, double⟩
  · rw [none, db_of_committed_nil lawful none]
    exact iff_of_true (kept_nil ordered) (by simp)
  · rw [single] at written ⊢
    rw [write_kept_iff ordered written, List.forall_mem_singleton]
  · rw [double] at written ⊢
    exact newLink_kept_iff ordered written

private theorem lawful_kept (ordered : world.db.StampsOrdered)
    (lawful : ServiceLawful app condition world requests past) :
    ((∀ event ∈ past, EventKept startedAt event) ↔ ∀ event ∈ past, EventInTime startedAt event) ∧
      ((∀ event ∈ past, EventKept startedAt event) → (stateAfter world past).db.StampsOrdered) := by
  induction past with
  | nil => exact ⟨by simp, fun _ => ordered⟩
  | cons event older ih =>
    obtain ⟨agree, kept⟩ := ih lawful.2
    simp only [List.forall_mem_cons]
    have here (before : ∀ event ∈ older, EventKept startedAt event) :
        EventKept startedAt event ↔ EventInTime startedAt event := by
      apply event_kept_iff lawful.1
      rw [lawful.1.follows]
      exact kept before
    refine ⟨⟨?_, ?_⟩, ?_⟩
    · rintro ⟨now, before⟩
      exact ⟨(here before).mp now, agree.mp before⟩
    · rintro ⟨now, before⟩
      exact ⟨(here (agree.mpr before)).mpr now, agree.mpr before⟩
    · rintro ⟨now, _⟩
      exact now.ordered

/-- From rows in order, a run keeps the timestamps right if and only if each of its statements was
sent by a worker whose defaults are late enough. -/
theorem timestamps_kept_iff {config : ServiceConfig Token} (ordered : world.db.StampsOrdered)
    (run : Reaches answers condition (started app world requests) config) :
    (∀ event ∈ config.past, EventKept startedAt event) ↔
      ∀ event ∈ config.past, EventInTime startedAt event :=
  (lawful_kept ordered (service_course run).lawful).1

end Runs

/-- The worker that serves a request imported the models at the given time. -/
private def imported (times : Tid → Time) : World :=
  { bootstrappedWorld with
    defaults := fun tid => ⟨times tid, times tid, times tid, times tid, times tid⟩ }

/-- Two workers imported the models ten and twenty seconds before the run. -/
private def twoWorkers : World :=
  imported fun tid => if tid = 0 then 1699999990000000 else 1699999980000000

/-- A user registers at the first worker and changes the email at the second. -/
private def registration : Tid → Request Claims := pool
  [.createUser ⟨"a@example.com", "pw"⟩,
    .userEndpoint (AccessTokenPayload.modelDump
      { sub := numbered 3, iat := 1700000000, exp := 1700001800, jti := numbered 4, tv := 1
        isSuperuser := false, role := some "user", accessLabels := [.free] })
      (.changeEmail ⟨"b@example.com", "pw"⟩)]

/-- A row may get times before its request and even an update before its creation. -/
theorem timestamps_run_backwards : ∃ config : ServiceConfig Claims,
    Reaches answers sequentially (started transparentApp twoWorkers registration) config ∧
      (∀ event ∈ config.past, twoWorkers.clock ≤ event.before.clock) ∧
      (∃ user ∈ config.now.db.users,
        user.updatedAt < user.createdAt ∧ user.createdAt < twoWorkers.clock) ∧
      ¬ ∀ event ∈ config.past, EventKept (fun _ => twoWorkers.clock) event := by
  have played : ((started transparentApp twoWorkers registration).playAll World.answer sequentially
      [move 0, move 0, move 0, move 0 3, move 0, move 0, move 0, move 1, move 1, move 1, move 1]).any
      (fun config => (config.past.all fun event => twoWorkers.clock ≤ event.before.clock) &&
        (config.now.db.users.any fun user =>
          user.updatedAt < user.createdAt && user.createdAt < twoWorkers.clock) &&
        config.past.any fun event => event.after.db.users.any fun user =>
          user.updatedAt < user.createdAt) = true := by decide
  obtain ⟨config, run, checked⟩ := Config.playAll_exists played
  simp only [Bool.and_eq_true, List.all_eq_true, List.any_eq_true, decide_eq_true_iff] at checked
  obtain ⟨⟨later, backwards⟩, event, member, user, present, early⟩ := checked
  refine ⟨config, run, later, backwards, ?_⟩
  intro kept
  exact Nat.not_lt.mpr ((kept event member).users.ordered user present) early

/-- A worker that imported the models when the request started stamps the new row correctly. -/
theorem timestamps_kept_iff_registration : ∃ config : ServiceConfig Claims,
    (config.now.db.userByEmail? "a@example.com").isSome = true ∧
      ∀ event ∈ config.past, EventKept (fun _ => bootstrappedWorld.clock) event := by
  have played : ((started transparentApp (imported fun _ => bootstrappedWorld.clock)
      registration).playAll World.answer unrestricted
      [move 0, move 0, move 0, move 0 3, move 0, move 0, move 0]).any
      (fun config => (config.now.db.userByEmail? "a@example.com").isSome &&
        config.past.all fun event => (committed event).all fun write =>
          write.InTime (eventDefaults event) bootstrappedWorld.clock event.before.db) = true := by
    decide
  obtain ⟨config, run, checked⟩ := Config.playAll_exists played
  simp only [Bool.and_eq_true, List.all_eq_true, decide_eq_true_iff] at checked
  have ordered : (imported fun _ => bootstrappedWorld.clock).db.StampsOrdered := by
    constructor <;> unfold Stamps.Ordered <;> decide
  exact ⟨config, checked.1, (timestamps_kept_iff ordered run).mpr checked.2⟩

end AuthApi
