import AuthApi.Properties.CallbackOutcome
import AuthApi.Run.Issuance

/-! # Renewals that fail

`refresh_tokens` and `logout_others` revoke first and issue afterwards. A call that is refused before
has stored nothing; the one failure that comes later is that of a user without a role, who loses the
session and gets nothing for it.
-/

namespace AuthApi

open Interleaving Interleaving.Program

/-- A failure of the database or of Redis. -/
def Exn.isStoreFailure : Exn → Bool
  | .dbError _ => true
  | .redisError _ => true
  | _ => false

/-- The exchange writes to Redis, or it has committed statements. -/
def changesStore (exchange : Exchange Reply) : Bool :=
  match exchange.request with
  | .redisSetex .. => true
  | .redisGetdel _ => true
  | .redisIncrWithTtl .. => true
  | _ => !(committedBy exchange.request exchange.reply).isEmpty

section Programs

variable {Token : Type} (app : App Token)

/-- The payload a refresh token carries, whatever the time. -/
def App.refreshPayload (token : Token) : Option RefreshTokenPayload :=
  (app.jwt.verify token).bind RefreshTokenPayload.modelValidate

/-- A refresh goes on with a row that has the version of its token, a logout of others with any. -/
def RenewsWith (request : Request Token) (version : ℕ) : Prop :=
  ∀ token, request = .refreshTokens token →
    ∃ payload, app.refreshPayload token = some payload ∧ payload.tv = version

/-- How a renewal ends, in terms of what it read and stored. -/
inductive Renewal (request : Request Token) (trace : Trace Reply) :
    Except Exn (TokenData Token) → Prop
  | refused (error : Exn) (silent : ∀ exchange ∈ trace, changesStore exchange = false)
      (unread : ∀ id row, ⟨.selectUserById id true, some row⟩ ∈ trace →
        ¬ RenewsWith app request (UserObject.toUser row).tokenVersion) :
      Renewal request trace (.error error)
  | failed (error : Exn) (store : error.isStoreFailure = true) : Renewal request trace (.error error)
  | renewed (pair : TokenData Token)
      (served : ∀ id row, ⟨.selectUserById id true, some row⟩ ∈ trace → row.role = .loaded none →
        ∃ copy, SawUser trace copy ∧ (copy = row ∨ copy.id = id) ∧ copy.isSuperuser = true) :
      Renewal request trace (.ok pair)
  | stripped (error : Exn) (id : UUID4) (row copy : UserObject)
      (read : ⟨.selectUserById id true, some row⟩ ∈ trace) (saw : SawUser trace copy)
      (same : copy = row ∨ copy.id = id)
      (bare : ∀ role, row.role = .loaded role → role = none ∧ copy.isSuperuser = false)
      (goesOn : RenewsWith app request row.tokenVersion)
      (stored : ∃ exchange ∈ trace, changesStore exchange = true) : Renewal request trace (.error error)
  | vanished (error : Exn) (gone : Vanished trace) : Renewal request trace (.error error)

variable {app} {trace later : Trace Reply} {request : Request Token}

/-- Only a user without a role, who is no superuser, gets no pair. -/
theorem resolveRoleClaims_loaded {user : UserObject} {role : Option Role} {error : Exn}
    (failed : resolveRoleClaims { user with role := .loaded role } = .error error) :
    role = none ∧ user.isSuperuser = false := by
  cases role with
  | some role => cases failed
  | none =>
    refine ⟨rfl, ?_⟩
    cases flag : user.isSuperuser with
    | false => rfl
    | true => simp [resolveRoleClaims, flag] at failed

/-- The only row read with its role is this one. -/
def ReadOnly (trace : Trace Reply) (id : UUID4) (found : UserObject) : Prop :=
  ∀ other row, ⟨.selectUserById other true, some row⟩ ∈ trace → other = id ∧ row = found

/-- The last stage of a renewal, once something has been stored. -/
theorem issueTokenPair_renewal {user found copy : UserObject} {id : UUID4}
    (read : ⟨.selectUserById id true, some found⟩ ∈ trace) (only : ReadOnly trace id found)
    (saw : SawUser trace copy) (same : copy = found ∨ copy.id = id)
    (made : resolveRoleClaims user = resolveRoleClaims { copy with role := found.role })
    (goesOn : RenewsWith app request found.tokenVersion)
    (stored : ∃ exchange ∈ trace, changesStore exchange = true) :
    (issueTokenPair app user).Along anyCall (Renewal app request) trace := by
  have issues : (issueTokenPair app user).Along (fun _ call => call = .now ∨ call = .uuid4) _ trace :=
    issueTokenPair_along (fun _ => .inl rfl) (fun _ => .inr rfl) user
  apply (issues.keeps (p := fun later => ReadOnly later id found) ?_ only).mono (fun _ _ _ => trivial)
  · rintro later outcome ⟨⟨grown, ends⟩, only⟩
    cases outcome with
    | ok pair =>
      obtain ⟨_, _, _, _, roleClaims, _, _, resolved, _⟩ := ends
      refine .renewed pair fun other row member bare => ?_
      obtain ⟨rfl, rfl⟩ := only other row member
      refine ⟨copy, saw.mono grown, same, ?_⟩
      rw [made, bare] at resolved
      by_contra plain
      simp [resolveRoleClaims, plain] at resolved
    | error error =>
      obtain ⟨exchange, member, stores⟩ := stored
      refine .stripped error id found copy (grown.subset read) (saw.mono grown) same ?_ goesOn
        ⟨exchange, grown.subset member, stores⟩
      intro role loaded
      change resolveRoleClaims user = .error error at ends
      rw [made, loaded] at ends
      exact resolveRoleClaims_loaded ends
  · rintro later request reply (rfl | rfl) only other row member
    · exact only other row (by simpa using member)
    · exact only other row (by simpa using member)

/-- What a refresh demands of the version is the version of its token. -/
theorem renewsWith_iff {token : Token} {claims : Claims} {payload : RefreshTokenPayload} {version : ℕ}
    (verified : app.jwt.verify token = some claims)
    (valid : RefreshTokenPayload.modelValidate claims = some payload) :
    RenewsWith app (.refreshTokens token) version ↔ payload.tv = version := by
  have carried : app.refreshPayload token = some payload := by
    rw [App.refreshPayload, verified, Option.bind_some, valid]
  constructor
  · intro goesOn
    obtain ⟨other, found, version⟩ := goesOn token rfl
    rw [carried] at found
    cases found
    exact version
  · rintro version _ ⟨⟩
    exact ⟨payload, carried, version⟩

theorem refreshTokens_renewal (token : Token) :
    (AuthService.refreshTokens app token).Along anyCall (Renewal app (.refreshTokens token)) [] := by
  refine ⟨trivial, fun decodedAt => ?_⟩
  simp only [done_bind]
  split
  · exact .refused _ (by simp [changesStore, committedBy]) (by simp)
  · exact .refused _ (by simp [changesStore, committedBy]) (by simp)
  · next claims decoded =>
    split
    · exact .refused _ (by simp [changesStore, committedBy]) (by simp)
    · next payload valid =>
      have demands (version : ℕ) : RenewsWith app (.refreshTokens token) version ↔
          payload.tv = version := renewsWith_iff (PyJwt.decode_eq_ok.mp decoded).1 valid
      refine ⟨trivial, fun entry => ?_⟩
      cases entry with
      | error error => exact .failed _ rfl
      | ok entry =>
        simp only [attempt_ok, done_bind, pure_eq]
        split
        · exact .refused _ (by simp [changesStore, committedBy]) (by simp)
        · refine ⟨trivial, fun found => ?_⟩
          cases found with
          | none => exact .refused _ (by simp [changesStore, committedBy]) (by simp)
          | some user =>
            simp only [done_bind]
            split
            · next version =>
              refine ⟨trivial, fun now => ⟨trivial, fun reply => ?_⟩⟩
              cases reply with
              | error error => exact .failed _ rfl
              | ok _ =>
                refine @issueTokenPair_renewal _ _ _ _ user user user payload.sub (by simp) ?_
                  ⟨⟨.selectUserById payload.sub true, some user⟩, by simp, rfl⟩ (.inl rfl) rfl
                  ((demands _).mpr version) ⟨_, List.mem_cons_self, rfl⟩
                intro other row member
                simpa using member
            · next differ =>
              refine .refused _ (by simp [changesStore, committedBy]) ?_
              intro id row member goesOn
              obtain ⟨_, rfl⟩ : id = payload.sub ∧ row = user := by simpa using member
              exact differ ((demands _).mp goesOn)

theorem logoutOthers_renewal {user : UserObject} {payload : UUID4} {time : Time} (token : Token) :
    (AuthService.logoutOthers app user).Along anyCall
      (Renewal app (.userEndpoint token .logoutOthers))
      [⟨.getUser payload, some user⟩, ⟨.now, time⟩] := by
  refine ⟨trivial, fun reply => ?_⟩
  cases reply with
  | error error => exact .failed _ rfl
  | ok _ =>
    have saw (tail : Trace Reply) : SawUser (tail ++ [⟨.getUser payload, some user⟩, ⟨.now, time⟩])
        user := ⟨⟨.getUser payload, some user⟩, by simp, rfl⟩
    refine ⟨trivial, fun found => ?_⟩
    cases found with
    | none =>
      exact .vanished _ (.select user.id true _ (.read user rfl (saw [_])) (List.suffix_refl _))
    | some found =>
      refine @issueTokenPair_renewal _ _ _ _ _ found user user.id (by simp) ?_ (saw [_, _]) (.inr rfl)
        rfl nofun ⟨⟨.commit .request (bumpOf user), .ok ()⟩, ?_, ?_⟩
      · intro other row member
        simpa using member
      · simp [bumpOf]
      · simp [changesStore, committedBy, bumpOf, userUpdate, UserPatch.diff, changed]

/-- The two requests that renew a session. -/
def Request.renews : Request Token → Bool
  | .refreshTokens _ => true
  | .userEndpoint _ .logoutOthers => true
  | _ => false

theorem Renewal.close {outcome : Except Exn (TokenData Token)} (ends : Renewal app request trace outcome) :
    Renewal app request (⟨.close, ()⟩ :: trace) outcome := by
  have grown := List.suffix_cons (⟨.close, ()⟩ : Exchange Reply) trace
  cases ends with
  | refused error silent unread =>
    refine .refused error (List.forall_mem_cons.mpr ⟨rfl, silent⟩) fun id row member => ?_
    exact unread id row (by simpa using member)
  | failed error store => exact .failed error store
  | renewed pair served =>
    refine .renewed pair fun id row member bare => ?_
    obtain ⟨copy, saw, same, flag⟩ := served id row (by simpa using member) bare
    exact ⟨copy, saw.mono grown, same, flag⟩
  | stripped error id row copy read saw same bare goesOn stored =>
    obtain ⟨exchange, member, stores⟩ := stored
    exact .stripped error id row copy (grown.subset read) (saw.mono grown) same bare goesOn
      ⟨exchange, grown.subset member, stores⟩
  | vanished error gone => exact .vanished error (gone.mono grown)

/-- What is known of a renewal at its end. -/
def Request.renewed (app : App Token) (request : Request Token) (trace : Trace Reply)
    (outcome : Except Exn (Outcome Token)) : Prop :=
  request.renews = true → ∃ ended : Except Exn (TokenData Token),
    Renewal app request trace ended ∧ outcome = ended.map .tokens

private theorem closed_renewal {program : Action (TokenData Token)}
    (along : program.Along anyCall (Renewal app request) trace) :
    (do return Outcome.tokens (← program)).Along anyCall
      (fun later outcome => request.renewed app (⟨.close, ()⟩ :: later) outcome) trace := by
  apply along.bind
  · exact fun pair later ends _ => ⟨.ok pair, ends.close, rfl⟩
  · exact fun error later ends _ => ⟨.error error, ends.close, rfl⟩

theorem Request.renewal (app : App Token) (request : Request Token) :
    (request.program app).Along anyCall (request.renewed app) [] := by
  cases request with
  | refreshTokens token =>
    exact along_withSession (fun _ => trivial) (closed_renewal (refreshTokens_renewal token))
  | userEndpoint token operation =>
    cases operation with
    | logoutOthers =>
      apply along_withSession fun _ => trivial
      apply Along.bind (getTokenUser_along (fun _ => trivial) token fun _ _ _ => trivial)
      · rintro user _ ⟨time, payload, _, _, rfl⟩
        exact closed_renewal (logoutOthers_renewal token)
      · rintro error later (⟨time, detail, rfl, _⟩ | ⟨time, payload, found, _, rfl, _⟩) _
        · exact ⟨.error error, .refused _ (by simp [changesStore, committedBy]) (by simp), rfl⟩
        · exact ⟨.error error, .refused _ (by simp [changesStore, committedBy]) (by simp), rfl⟩
    | _ => exact along_any.mono (fun _ _ _ => trivial) fun _ _ _ => nofun
  | _ => exact along_any.mono (fun _ _ _ => trivial) fun _ _ _ => nofun

end Programs

section Runs

variable {Token : Type} {app : App Token} {condition : Condition Tid Reply World} {world : World}
  {requests : Tid → Request Token} {config : ServiceConfig Token} {tid : Tid}

/-- A call that raised has stored nothing: each of its steps left the tables and Redis. -/
def SessionKept (config : ServiceConfig Token) (tid : Tid) (outcome : Except Exn (Outcome Token)) :
    Prop :=
  ∀ error, outcome = .error error → ∀ event ∈ config.past, event.thread = tid →
    changesStore event.exchange = false ∧ event.after.db = event.before.db ∧
      event.after.redis = event.before.redis

/-- When the call reads the user it is to issue a pair for, the user has no role, is no superuser, and
has the version that the call demands. -/
def MeetsStripped (app : App Token) (requests : Tid → Request Token) (config : ServiceConfig Token)
    (tid : Tid) : Prop :=
  ∃ event ∈ config.past, event.thread = tid ∧ ∃ id row, event.request = .selectUserById id true ∧
    event.before.db.user? id = some row ∧ row.roleId = none ∧ row.isSuperuser = false ∧
      RenewsWith app (requests tid) row.tokenVersion

theorem answers_redis_of_silent {before after : World} {exchange : Exchange Reply}
    (answered : answers tid exchange.request before exchange.reply after)
    (silent : changesStore exchange = false) : after.redis = before.redis := by
  obtain ⟨request, reply⟩ := exchange
  obtain ⟨choice, answered⟩ := answered
  cases request with
  | flush writes => exact (World.flush_effect answered).2.2.2
  | commit session writes => exact (World.commit_effect answered).2.2.1
  | selectLoginHistory userId offset limit =>
    simp only [World.answer, World.respond] at answered
    split at answered <;> cases answered
    rfl
  | redisGet key =>
    rcases World.redisCommand_cases (Option.some.inj answered) with
      ⟨same, _⟩ | ⟨value, redis, read, same, _⟩
    · exact same
    · cases read
      exact same
  | redisSetex => cases silent
  | redisGetdel => cases silent
  | redisIncrWithTtl => cases silent
  | _ => cases answered; rfl

/-- An exchange that stores nothing leaves the tables and Redis. -/
theorem left_of_silent {specs : Tid → Trace Reply → Call → Prop} {older : List ServiceEvent}
    {event : ServiceEvent} (lawful : LawfulEvent answers condition specs world older event)
    (silent : changesStore event.exchange = false) :
    event.after.db = event.before.db ∧ event.after.redis = event.before.redis := by
  refine ⟨db_of_committed_nil lawful ?_, answers_redis_of_silent lawful.answered silent⟩
  obtain ⟨thread, request, reply, before, after⟩ := event
  cases request with
  | commit session writes => simpa [changesStore, Event.exchange, committed] using silent
  | _ => rfl

/-- A row that was read with its role, at the moment it was read. -/
theorem read_with_role {past : List ServiceEvent}
    (lawful : ServiceLawful app condition world requests past) {id : UUID4} {row : UserObject}
    (read : ⟨.selectUserById id true, some row⟩ ∈ traceOf past tid) :
    row.id = id ∧ SawUser (traceOf past tid) row ∧ ∃ event ∈ past, event.thread = tid ∧
      event.request = .selectUserById id true ∧ event.before.db.user? id = some row.toUser ∧
        row.role = .loaded (event.before.db.roleOf row.toUser) := by
  have same := selectUserById_id lawful read
  refine ⟨same, ⟨_, read, rfl⟩, ?_⟩
  obtain ⟨newer, event, older, rfl, mover, exchanged, follows, answered⟩ := seen_event lawful read
  obtain ⟨found, role⟩ :=
    @answers_userRead tid _ event.after ⟨.selectUserById id true, some row⟩ answered row rfl
  refine ⟨event, by simp, mover, congrArg Exchange.request exchanged, ?_, ?_⟩
  · rw [follows, ← same]
    exact found
  · rw [follows]
    exact role

/-- A row that a call meets with its role is what it reads. -/
theorem seen_with_role {past : List ServiceEvent}
    (lawful : ServiceLawful app condition world requests past) {event : ServiceEvent}
    (member : event ∈ past) {id : UUID4} {row : User} (request : event.request = .selectUserById id true)
    (found : event.before.db.user? id = some row) :
    ⟨.selectUserById id true, some (event.before.userObject true row)⟩ ∈
      traceOf past event.thread := by
  apply mem_traceOf.mpr
  refine ⟨event, member, rfl, ?_⟩
  obtain ⟨newer, older, rfl⟩ := List.append_of_mem member
  have answered := lawful.event.answered
  obtain ⟨thread, call, reply, before, after⟩ := event
  dsimp only at request
  subst request
  have read : reply = _ := answers_selectUserById answered
  rw [found] at read
  exact congrArg (fun reply => (⟨.selectUserById id true, reply⟩ : Exchange Reply)) read

/-- A foreign key finds its role, so a row without one refers to none. -/
theorem roleId_of_roleOf {db : Database} {user : User} (present : user ∈ db.users)
    (bare : db.roleOf user = none) : user.roleId = none := by
  by_contra assigned
  have found := db.roleOf_isSome present (Option.isSome_iff_ne_none.mpr assigned)
  rw [bare] at found
  cases found

/-- A renewal that no failure of the database or of Redis ends has either renewed the session or
stored nothing, exactly when it did not read a user without a role. -/
theorem failed_renewal_kept (run : Reaches answers condition (started app world requests) config)
    (renews : (requests tid).renews = true) {outcome : Except Exn (Outcome Token)}
    (ended : (config.threads tid).outcome? = some outcome)
    (answered : ∀ error, outcome = .error error → error.isStoreFailure = false) :
    SessionKept config tid outcome ↔ ¬ MeetsStripped app requests config tid := by
  have lawful := (service_course run).lawful
  obtain ⟨ends, renewal, rfl⟩ := (course_of_along _ _ run fun tid =>
    (requests tid).renewal app).finished ended renews
  cases renewal with
  | refused error silent unread =>
    apply iff_of_true
    · rintro _ _ event member rfl
      have quiet := silent event.exchange (mem_traceOf.mpr ⟨event, member, rfl, rfl⟩)
      obtain ⟨newer, older, split⟩ := List.append_of_mem member
      rw [split] at lawful
      exact ⟨quiet, left_of_silent lawful.event quiet⟩
    · rintro ⟨event, member, rfl, id, row, request, found, _, _, goesOn⟩
      exact unread id _ (seen_with_role lawful member request found) goesOn
  | failed error store =>
    have reached := answered error rfl
    rw [store] at reached
    cases reached
  | renewed pair served =>
    apply iff_of_true
    · rintro error ⟨⟩
    · rintro ⟨event, member, rfl, id, row, request, found, free, plain, _⟩
      have read := seen_with_role lawful member request found
      have sameId : row.id = id := Database.user?_id found
      have bare : event.before.db.roleOf row = none := by rw [Database.roleOf, free, Option.bind_none]
      obtain ⟨copy, saw, same, flag⟩ := served id _ read (congrArg RoleAttribute.loaded bare)
      have agree : copy.isSuperuser = row.isSuperuser := by
        rcases same with rfl | same
        · rfl
        · exact sawUser_flag lawful saw ⟨_, read, rfl⟩ (same.trans sameId.symm)
      rw [flag, plain] at agree
      cases agree
  | stripped error id row copy read saw same bare goesOn stored =>
    obtain ⟨sameId, sawRow, event, member, mover, request, found, role⟩ := read_with_role lawful read
    obtain ⟨free, plain⟩ := bare _ role
    apply iff_of_false
    · intro kept
      obtain ⟨exchange, seen, stores⟩ := stored
      obtain ⟨writer, among, same, rfl⟩ := mem_traceOf.mp seen
      have silent := (kept error rfl writer among same).1
      rw [stores] at silent
      cases silent
    · rw [not_not]
      refine ⟨event, member, mover, id, row.toUser, request, found, ?_, ?_, goesOn⟩
      · exact roleId_of_roleOf (Database.user?_mem found) free
      · rcases same with rfl | same
        · exact plain
        · rw [sawUser_flag lawful sawRow saw (sameId.trans same.symm), plain]
  | vanished error gone => exact absurd gone (not_vanished lawful)

end Runs

/-- The refresh token of a user with the given number. -/
private def refreshOf (user jti : ℕ) (version : ℕ) : Claims :=
  RefreshTokenPayload.modelDump
    { sub := numbered user, iat := 1700000000, exp := 1702592000, jti := numbered jti, tv := version }

/-- A token of an old version is refused, and nothing is stored. -/
theorem failed_renewal_kept_refused : ∃ (config : ServiceConfig Claims) (error : Exn),
    (config.threads 0).outcome? = some (.error error) ∧
      (SessionKept config 0 (.error error) ↔
        ¬ MeetsStripped transparentApp (pool [.refreshTokens (refreshOf 2 3 7)]) config 0) := by
  have played : ((started transparentApp bootstrappedWorld (pool [.refreshTokens (refreshOf 2 3 7)])).playAll
      World.answer unrestricted [move 0, move 0, move 0, move 0]).any
      (fun config => decide ((config.threads 0).outcome? =
        some (.error (.refreshTokenError "Token version mismatch")))) = true := by decide
  obtain ⟨config, run, ended⟩ := Config.playAll_exists played
  have ended := of_decide_eq_true ended
  refine ⟨config, _, ended, failed_renewal_kept run rfl ended ?_⟩
  rintro _ ⟨⟩
  rfl

/-- A user logs in, the role is deleted, and the refresh blacklists the token without renewing it. -/
theorem refresh_strips_session : ∃ (requests : Tid → Request Claims) (config : ServiceConfig Claims)
    (pair : TokenData Claims),
    Reaches answers sequentially (started transparentApp bootstrappedWorld requests) config ∧
      config.threads 3 = .done (.tokens pair) ∧ requests 5 = .refreshTokens pair.refresh ∧
      config.threads 5 = .raise (.valueError
        "Non-superuser users must have a role before creating an access token") ∧
      ¬ SessionKept config 5 (.error (.valueError
        "Non-superuser users must have a role before creating an access token")) := by
  have played : ((started transparentApp bootstrappedWorld (pool
      [.createUser ⟨"a@example.com", "pw"⟩, .role (.createRole ⟨"editor", [.free]⟩),
        .role (.assignRole (numbered 3) (numbered 4)),
        .loginUser ⟨"a@example.com", "pw"⟩ ⟨none, none⟩ none, .role (.removeRole (numbered 4)),
        .refreshTokens (refreshOf 3 6 1)])).playAll World.answer sequentially
      [move 0, move 0, move 0, move 0 3, move 0, move 0, move 0,
        move 1 4, move 1, move 1, move 2, move 2, move 2, move 2,
        move 3, move 3, move 3 5, move 3, move 3 6, move 3 7, move 3, move 3,
        move 4, move 4, move 4, move 5, move 5, move 5, move 5, move 5, move 5, move 5]).any
      (fun config => decide ((returnedPair? (config.threads 3)).map TokenData.refresh =
          some (refreshOf 3 6 1)) &&
        decide ((config.threads 5).outcome? = some (.error (.valueError
          "Non-superuser users must have a role before creating an access token"))) &&
        config.past.any fun event => event.thread = 5 && changesStore event.exchange) = true := by
    decide
  obtain ⟨config, run, checked⟩ := Config.playAll_exists played
  rw [Bool.and_eq_true, Bool.and_eq_true, decide_eq_true_iff, decide_eq_true_iff] at checked
  obtain ⟨⟨returned, raised⟩, stored⟩ := checked
  obtain ⟨pair, ended, same⟩ := Option.map_eq_some_iff.mp returned
  refine ⟨_, config, pair, run, returnedPair?_eq_some.mp ended, congrArg Request.refreshTokens same.symm,
    outcome?_eq_error.mp raised, fun kept => ?_⟩
  obtain ⟨event, member, writes⟩ := List.any_eq_true.mp stored
  rw [Bool.and_eq_true, decide_eq_true_iff] at writes
  have silent := (kept _ rfl event member writes.1).1
  rw [writes.2] at silent
  cases silent

end AuthApi
