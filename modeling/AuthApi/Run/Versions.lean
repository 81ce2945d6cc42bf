import AuthApi.Run.Users

/-! # Token versions along a run

The stored version of a user changes only when `change_password` or `logout_others` commits, and
then it becomes the successor of the version that request had read. If no other bump came between
that read and the commit, the version counts the bumps.
-/

namespace AuthApi

open Interleaving Interleaving.Program Relational

/-- The stored token version of a user. -/
def World.version (world : World) (userId : UUID4) : Option ℕ :=
  (world.db.user? userId).map User.tokenVersion

/-- The event commits a new token version of the user. -/
def bumps (userId : UUID4) (event : ServiceEvent) : Bool :=
  (committed event).any fun
    | .updateUser id patch => id = userId && patch.tokenVersion.isSome
    | _ => false

/-- The operations that commit a new token version. -/
def UserOperation.bumps : UserOperation → Bool
  | .changePassword _ => true
  | .logoutOthers => true
  | _ => false

/-- A request of the user to bump the version. -/
def Request.isBumpOf {Token : Type} (app : App Token) (userId : UUID4) : Request Token → Bool
  | .userEndpoint token operation =>
      operation.bumps && (app.accessPayload token).any fun payload => payload.sub = userId
  | _ => false

section Discipline

variable {Token : Type} {app : App Token}

/-- A user endpoint reads the row its token names, once, and commits at most once, before the
session is closed. -/
def Request.Disciplined (app : App Token) : Request Token → Trace Reply → Call → Prop
  | .userEndpoint token _, trace, .getUser id =>
      (∃ payload, app.accessPayload token = some payload ∧ payload.sub = id) ∧
        ∀ exchange ∈ trace, ∀ other, exchange.request ≠ .getUser other
  | .userEndpoint _ _, trace, .commit _ _ =>
      ∀ exchange ∈ trace, exchange.request ≠ .close ∧
        committedBy exchange.request exchange.reply = []
  | _, _, _ => True

private theorem userOperation_disciplined (token : Token) (operation : UserOperation) (id : UUID4)
    (user : UserObject) (time : Time) :
    (operation.program app user).Along (Request.Disciplined app (.userEndpoint token operation))
      (fun _ _ => True) [⟨.getUser id, some user⟩, ⟨.now, time⟩] := by
  cases operation with
  | checkAccess => trivial
  | getUserInfo =>
    refine ⟨trivial, fun found => ?_⟩
    cases found <;> trivial
  | changeEmail data =>
    refine Along.bind (q := fun _ _ => True) ?_ (fun _ _ _ => trivial) fun _ _ _ => trivial
    unfold UserService.changeEmail
    split
    · refine ⟨?_, fun reply => ?_⟩
      · simp [Request.Disciplined, committedBy]
      · cases reply with
        | ok _ => trivial
        | error error =>
          cases error with
          | integrity => exact ⟨trivial, fun _ => trivial⟩
          | staleData | data => trivial
    · trivial
  | changePassword data =>
    refine Along.bind (q := fun _ _ => True) ?_ (fun _ _ _ => trivial) fun _ _ _ => trivial
    unfold UserService.changePassword
    split
    · refine ⟨trivial, fun salt => ⟨?_, fun reply => ?_⟩⟩
      · simp [Request.Disciplined, committedBy]
      · cases reply <;> trivial
    · trivial
  | getLoginHistory page pageSize => exact historyPage_along trivial
  | logoutOthers =>
    refine Along.bind (q := fun _ _ => True) ⟨?_, fun reply => ?_⟩ (fun _ _ _ => trivial)
      fun _ _ _ => trivial
    · simp [Request.Disciplined, committedBy]
    · cases reply with
      | error error => trivial
      | ok _ =>
        refine ⟨trivial, fun found => ?_⟩
        cases found with
        | none => trivial
        | some found =>
          exact (issueTokenPair_along (fun _ => trivial) (fun _ => trivial) _).mono
            (fun _ _ admitted => admitted) fun _ _ _ => trivial

theorem Request.disciplined (app : App Token) (request : Request Token) :
    (request.program app).Along (request.Disciplined app) (fun _ _ => True) [] := by
  cases request with
  | userEndpoint token operation =>
    refine along_withSession (fun _ => trivial) (Along.bind
      (getTokenUser_along (fun _ => trivial) token fun time payload accepted => ?_) ?_
      fun _ _ _ => trivial)
    · exact ⟨⟨payload, accepted.1, rfl⟩, by simp⟩
    · rintro user _ ⟨time, payload, _, _, rfl⟩
      exact userOperation_disciplined token operation payload.sub user time
  | _ => exact along_any.mono (fun _ _ _ => trivial) fun _ _ _ => trivial

end Discipline

section Bumps

variable {Token : Type} {app : App Token} {request : Request Token} {trace : Trace Reply}

/-- A changed instance keeps the version it was read with, or a bump has the next one. -/
theorem UserChange.version {user changed : User} (change : UserChange request trace user changed) :
    changed.tokenVersion = user.tokenVersion ∨
      changed.tokenVersion = user.tokenVersion + 1 ∧
        ∃ token operation, request = .userEndpoint token operation ∧ operation.bumps = true := by
  cases change with
  | password token data passwordHash requested => exact .inr ⟨rfl, token, _, requested, rfl⟩
  | logoutOthers token requested => exact .inr ⟨rfl, token, _, requested, rfl⟩
  | _ => exact .inl rfl

variable {condition : Condition Tid Reply World} {world : World}
  {requests : Tid → Request Token} {older : List ServiceEvent} {event : ServiceEvent}
  {userId : UUID4}

/-- A bump writes the successor of the version its request has read. -/
theorem bump_cases
    (lawful : LawfulEvent answers condition (fun tid => Allowed app (requests tid)) world older
      event) (bumped : bumps userId event = true) :
    ∃ readId loaded changed token operation,
      ⟨.getUser readId, some loaded⟩ ∈ traceOf older event.thread ∧ loaded.id = userId ∧
      committed event = userUpdate (UserObject.toUser loaded) changed ∧
      changed.tokenVersion = loaded.tokenVersion + 1 ∧
      requests event.thread = .userEndpoint token operation ∧ operation.bumps = true := by
  unfold bumps at bumped
  obtain none | commits := event_commits lawful
  · rw [none] at bumped
    cases bumped
  · generalize committed event = writes at bumped commits ⊢
    cases commits with
    | changeUser id user seen changed allowed =>
      unfold userUpdate at bumped
      split at bumped
      · cases bumped
      · simp only [List.any_cons, List.any_nil, Bool.or_false, Bool.and_eq_true,
          decide_eq_true_iff] at bumped
        obtain ⟨same, written⟩ := bumped
        obtain kept | ⟨next, token, operation, requested, bumping⟩ := allowed.version
        · simp [UserPatch.diff, kept] at written
        · exact ⟨id, user, changed, token, operation, seen, same, rfl, next, requested, bumping⟩
    | modifyRole id role data seen guarded requested =>
      unfold roleUpdate at bumped
      split at bumped <;> cases bumped
    | _ => simp at bumped

/-- Without a bump the version stays. -/
theorem version_kept
    (lawful : LawfulEvent answers condition (fun tid => Allowed app (requests tid)) world older
      event) (quiet : bumps userId event = false) {version : ℕ}
    (found : event.before.version userId = some version) :
    event.after.version userId = some version := by
  obtain ⟨row, here, same⟩ := Option.map_eq_some_iff.mp found
  have step := (rows_step lawful).users
  unfold bumps at quiet
  unfold Database.user? at here
  unfold World.version Database.user?
  generalize committed event = writes at step quiet
  generalize event.after.db.users = after at step ⊢
  cases step with
  | same => rw [here]; exact congrArg some same
  | insertPlain user roleId plain holds seen member =>
    rw [lookup_append_of_some here]; exact congrArg some same
  | insertSuperuser user flag email password requested =>
    rw [lookup_append_of_some here]; exact congrArg some same
  | update readId loaded seen changed allowed shape change described =>
    by_cases owner : userId = loaded.id
    · subst owner
      have unwritten : (UserPatch.diff loaded.toUser changed).tokenVersion = none := by
        by_cases empty : UserPatch.diff loaded.toUser changed = {}
        · rw [empty]
        · rw [shape, userUpdate, if_neg empty] at quiet
          simpa using quiet
      rw [lookup_amend_self described.id, here]
      simp [described.tokenVersion, unwritten, same]
    · rw [lookup_amend_of_ne described.id owner, here]
      exact congrArg some same
  | dropRole readId role seen free shape =>
    rw [lookup_map (User.dropRole_id role.id), here]
    simp only [Option.map_some, Option.some.injEq, ← same]
    unfold User.dropRole
    split <;> rfl

/-- A successful bump stores the successor of the version its request has read. -/
theorem version_written {loaded altered : User} (id : loaded.id = userId)
    (lawful : LawfulEvent answers condition (fun tid => Allowed app (requests tid)) world older
      event) (writes : committed event = userUpdate loaded altered)
    (next : altered.tokenVersion = loaded.tokenVersion + 1) {version : ℕ}
    (found : event.before.version userId = some version) :
    event.after.version userId = some (loaded.tokenVersion + 1) := by
  obtain ⟨row, here, _⟩ := Option.map_eq_some_iff.mp found
  have written := event_db lawful
  rw [writes] at written
  obtain ⟨change, described, tables⟩ := Database.writeAll_userUpdate written
  unfold Database.user? at here
  unfold World.version Database.user?
  rw [tables, id, lookup_amend_self described.id, here]
  simp [described.tokenVersion, UserPatch.diff, changed, next]

end Bumps

theorem userUpdate_next {loaded altered : User}
    (next : altered.tokenVersion = loaded.tokenVersion + 1) :
    userUpdate loaded altered = [.updateUser loaded.id (UserPatch.diff loaded altered)] ∧
      (UserPatch.diff loaded altered).tokenVersion = some (loaded.tokenVersion + 1) := by
  have written : (UserPatch.diff loaded altered).tokenVersion = some (loaded.tokenVersion + 1) := by
    simp [UserPatch.diff, changed, next]
  refine ⟨if_neg fun empty => ?_, written⟩
  rw [empty] at written
  cases written

/-- A commit of the successor is a bump. -/
theorem bumps_of_next {event : ServiceEvent} {loaded altered : User} {userId : UUID4}
    (writes : committed event = userUpdate loaded altered)
    (next : altered.tokenVersion = loaded.tokenVersion + 1) (owner : loaded.id = userId) :
    bumps userId event = true := by
  obtain ⟨statement, written⟩ := userUpdate_next next
  rw [bumps, writes, statement]
  simp [owner, written]

section Sessions

variable {Token : Type} {app : App Token} {condition : Condition Tid Reply World} {world : World}
  {requests : Tid → Request Token} {older past : List ServiceEvent} {event : ServiceEvent}
  {userId : UUID4}

/-- When a user endpoint commits something, it has committed nothing before and is still open. -/
theorem commits_once
    (disciplined : LawfulEvent answers condition (fun tid => (requests tid).Disciplined app) world
      older event) {token : Token} {operation : UserOperation}
    (requested : requests event.thread = .userEndpoint token operation)
    (commits : committed event ≠ []) :
    ∀ exchange ∈ traceOf older event.thread, exchange.request ≠ .close ∧
      committedBy exchange.request exchange.reply = [] := by
  have issued := disciplined.specified
  rw [requested] at issued
  cases call : event.request with
  | commit session writes =>
    rw [call] at issued
    exact issued
  | _ => exact absurd (committed_of_silent (by rw [call]; exact nofun)) commits

/-- A bump request of a user reads the row of that user. -/
theorem bump_reads_own
    (lawful : Lawful answers condition (fun tid => (requests tid).Disciplined app) world past)
    {tid : Tid} (bump : (requests tid).isBumpOf app userId = true) {id : UUID4} {copy : UserObject}
    (seen : ⟨.getUser id, some copy⟩ ∈ traceOf past tid) : copy.id = userId := by
  obtain ⟨newer, read, older, rfl, rfl, same, _, answered⟩ := seen_event lawful seen
  have issued := lawful.event.specified
  rw [show read.request = .getUser id from congrArg Exchange.request same] at issued
  obtain ⟨row, here, rfl⟩ := Option.map_eq_some_iff.mp (answers_getUser answered).symm
  cases requested : requests read.thread with
  | userEndpoint token operation =>
    rw [requested] at issued bump
    obtain ⟨⟨payload, carries, rfl⟩, _⟩ := issued
    simp only [Request.isBumpOf, carries, Option.any_some, Bool.and_eq_true,
      decide_eq_true_iff] at bump
    exact (Database.user?_id here).trans bump.2
  | _ => rw [requested] at bump; cases bump

/-- The event at which a request read its copy of the user. -/
theorem own_read {specs : Tid → Trace Reply → Call → Prop}
    (lawful : Lawful answers condition specs world past) {tid : Tid} {id : UUID4} {copy : UserObject}
    (seen : ⟨.getUser id, some copy⟩ ∈ traceOf past tid) (owner : copy.id = userId) :
    ∃ newer read older, past = newer ++ read :: older ∧ read.thread = tid ∧
      read.request = .getUser userId ∧
      (stateAfter world older).db.user? userId = some copy.toUser := by
  obtain ⟨newer, read, older, rfl, mover, same, _, answered⟩ := seen_event lawful seen
  obtain ⟨row, here, rfl⟩ := Option.map_eq_some_iff.mp (answers_getUser answered).symm
  have named : id = userId := (Database.user?_id here).symm.trans owner
  refine ⟨newer, read, older, rfl, mover, ?_, named ▸ here⟩
  rw [← named]
  exact congrArg Exchange.request same

/-- A user endpoint holds one copy of its row. -/
theorem reads_once
    (disciplined : Lawful answers condition (fun tid => (requests tid).Disciplined app) world past)
    {tid : Tid} {token : Token} {operation : UserOperation}
    (requested : requests tid = .userEndpoint token operation) {id other : UUID4}
    {copy user : UserObject} (seen : ⟨.getUser id, some copy⟩ ∈ traceOf past tid)
    (again : ⟨.getUser other, some user⟩ ∈ traceOf past tid) : copy = user := by
  induction past with
  | nil => cases seen
  | cons event past ih =>
    by_cases mover : event.thread = tid
    · subst mover
      have issued := disciplined.1.specified
      rw [requested] at issued
      have fresh {id : UUID4} (reads : event.request = .getUser id) {other : UUID4}
          {user : UserObject} (earlier : ⟨.getUser other, some user⟩ ∈ traceOf past event.thread) :
          False := by
        rw [reads] at issued
        exact issued.2 _ earlier other rfl
      rw [traceOf_cons_self, List.mem_cons] at seen again
      obtain here | earlier := seen <;> obtain there | before := again
      · have same := here.trans there.symm
        cases same
        rfl
      · exact (fresh (congrArg Exchange.request here).symm before).elim
      · exact (fresh (congrArg Exchange.request there).symm earlier).elim
      · exact ih disciplined.2 earlier before
    · rw [traceOf_cons_of_ne mover] at seen again
      exact ih disciplined.2 seen again

end Sessions

/-- When a request bumps the version, nobody has bumped it since the request read the row. -/
def noLostUpdate (userId : UUID4) : Condition Tid Reply World := fun past event =>
  bumps userId event = true → ∀ other ∈ past.takeWhile fun other =>
    ¬ (other.thread = event.thread ∧ other.request = .getUser userId), bumps userId other = false

instance (userId : UUID4) (past : List ServiceEvent) (event : ServiceEvent) :
    Decidable (noLostUpdate userId past event) := inferInstanceAs (Decidable (_ → _))

section Counting

variable {Token : Type} {app : App Token} {condition : Condition Tid Reply World} {world : World}
  {requests : Tid → Request Token} {newer older past : List ServiceEvent} {event : ServiceEvent}
  {userId : UUID4}

theorem version_persists (lawful : ServiceLawful app condition world requests past)
    (suffix : older <:+ past) {version : ℕ}
    (found : (stateAfter world older).version userId = some version) :
    ∃ later, (stateAfter world past).version userId = some later := by
  obtain ⟨row, here, _⟩ := Option.map_eq_some_iff.mp found
  obtain ⟨later, there, _⟩ := flags_kept lawful suffix _ _ here
  exact ⟨later.tokenVersion, by rw [World.version, there]; rfl⟩

theorem versions_quiet (lawful : ServiceLawful app condition world requests (newer ++ older))
    (quiet : ∀ event ∈ newer, bumps userId event = false) {version : ℕ}
    (found : (stateAfter world older).version userId = some version) :
    (stateAfter world (newer ++ older)).version userId = some version := by
  induction newer with
  | nil => exact found
  | cons event newer ih =>
    have follows : event.before = stateAfter world (newer ++ older) := lawful.1.follows
    refine version_kept lawful.1 (quiet event List.mem_cons_self) ?_
    rw [follows]
    exact ih lawful.2 fun other member => quiet other (List.mem_cons_of_mem _ member)

/-- A bump that follows its own read without another bump in between adds one. -/
theorem version_bumped (lawful : ServiceLawful app condition world requests (event :: older))
    (disciplined : Lawful answers condition (fun tid => (requests tid).Disciplined app) world older)
    (fresh : noLostUpdate userId older event) (bumped : bumps userId event = true) {version : ℕ}
    (found : (stateAfter world older).version userId = some version) :
    event.after.version userId = some (version + 1) := by
  obtain ⟨readId, loaded, changed, token, operation, seen, id, writes, next, requested, _⟩ :=
    bump_cases lawful.1 bumped
  obtain ⟨newer, read, rest, rfl, mover, readOwn, row⟩ := own_read lawful.2 seen id
  -- the request reads once, so everything newer than the read lies within the window
  have window : ∀ other ∈ newer, ¬ (other.thread = event.thread ∧ other.request = .getUser userId) := by
    rintro other member ⟨mover', reads⟩
    obtain ⟨recent, middle, rfl⟩ := List.append_of_mem member
    have again : Lawful answers condition (fun tid => (requests tid).Disciplined app) world
        (recent ++ other :: (middle ++ read :: rest)) := by simpa using disciplined
    have issued := again.event.specified
    rw [mover', reads, requested] at issued
    exact issued.2 read.exchange (mem_traceOf.mpr ⟨read, by simp, mover, rfl⟩) userId readOwn
  have quiet : ∀ other ∈ newer, bumps userId other = false := by
    intro other member
    refine fresh bumped other ?_
    rw [List.takeWhile_append_of_pos (fun other member => by
      simpa only [decide_eq_true_iff] using window other member)]
    exact List.mem_append_left _ member
  have current : (stateAfter world (newer ++ read :: rest)).version userId =
      some loaded.tokenVersion := by
    refine versions_quiet lawful.2 quiet ?_
    have reading := lawful.2.event
    refine version_kept reading ?_ (by rw [reading.follows, World.version, row]; rfl)
    rw [bumps, committed_of_silent (by rw [readOwn]; exact nofun)]
    rfl
  rw [current] at found
  cases found
  exact version_written id lawful.1 writes next (by rw [lawful.1.follows]; exact current)

/-- As long as no update is lost, the version counts the bumps. -/
theorem version_counts (lawful : ServiceLawful app condition world requests (newer ++ older))
    (disciplined : Lawful answers condition (fun tid => (requests tid).Disciplined app) world
      (newer ++ older))
    (fresh : ∀ recent event past, newer ++ older = recent ++ event :: past →
      noLostUpdate userId past event) {version : ℕ}
    (found : (stateAfter world older).version userId = some version) :
    (stateAfter world (newer ++ older)).version userId =
      some (version + newer.countP (bumps userId)) := by
  induction newer with
  | nil => exact found
  | cons event newer ih =>
    have before := ih lawful.2 disciplined.2 fun recent other past split =>
      fresh (event :: recent) other past (by simp [split])
    cases bumped : bumps userId event with
    | true =>
      have after := version_bumped lawful disciplined.2 (fresh [] event (newer ++ older) rfl) bumped
        before
      rw [List.countP_cons_of_pos bumped]
      exact after
    | false =>
      rw [List.countP_cons_of_neg (by simp [bumped])]
      refine version_kept lawful.1 bumped ?_
      rw [show event.before = stateAfter world (newer ++ older) from lawful.1.follows]
      exact before

end Counting

end AuthApi
