import AuthApi.Interleaving.Alone
import AuthApi.Run.Keyspace
import AuthApi.Run.TokenIds

/-! # Sessions of different users do not touch each other

What a user does with an own token changes the row of that user and the blacklist entry of that
token. No reader can tell from another user's tokens whether it happened: `get_token_user` and
`refresh_tokens` end alike before and after, whatever the environment does.
-/

namespace AuthApi

open Interleaving Interleaving.Program Relational Dependencies AuthService

/-- The call asks for nothing but the row with the id and the entry of the key. -/
def Call.readsOnly (userId : UUID4) (key : String) : Call → Prop
  | .now => True
  | .uuid4 => True
  | .getUser id => id = userId
  | .selectUserById id _ => id = userId
  | .redisGet other => other = key
  | .redisSetex other _ _ => other = key
  | _ => False

/-- The states show the same row, the same roles and the same entry at the same time. -/
structure SameFor (userId : UUID4) (key : String) (first second : World) : Prop where
  clock : first.clock = second.clock
  row : first.db.user? userId = second.db.user? userId
  roles : first.db.roles = second.db.roles
  entry : ∀ now, first.redis.entryAt now key = second.redis.entryAt now key

section Readers

variable {userId : UUID4} {key : String} {first second : World} {choice : Choice}

theorem SameFor.advance (same : SameFor userId key first second) (delay : Time) :
    SameFor userId key (first.advance delay) (second.advance delay) where
  clock := congrArg (· + delay) same.clock
  row := same.row
  roles := same.roles
  entry := same.entry

/-- The instance made of the row is the same. -/
theorem SameFor.userObject (same : SameFor userId key first second) (withRole : Bool) :
    (first.db.user? userId).map (first.userObject withRole) =
      (second.db.user? userId).map (second.userObject withRole) := by
  have role (user : User) : first.db.roleOf user = second.db.roleOf user := by
    unfold Database.roleOf Database.role?
    rw [same.roles]
  rw [same.row]
  apply Option.map_congr
  intro user _
  rw [World.userObject, World.userObject, role]

/-- A Redis command with the same result on both keyspaces. -/
theorem redisCommand_agrees {α : Type} {left right : Option (α × Redis)}
    (same : SameFor userId key first second)
    (results : Agrees (fun one other : Redis => ∀ now, one.entryAt now key = other.entryAt now key)
      left right) :
    Agrees (SameFor userId key) (some (first.redisCommand choice.fault left))
      (some (second.redisCommand choice.fault right)) := by
  cases left with
  | none =>
    cases right with
    | none => cases choice.fault <;> exact ⟨rfl, same⟩
    | some right => cases results
  | some left =>
    cases right with
    | none => cases results
    | some right =>
      obtain ⟨equal, entry⟩ := results
      have stored : SameFor userId key { first with redis := left.2 } { second with redis := right.2 } :=
        ⟨same.clock, same.row, same.roles, entry⟩
      cases choice.fault with
      | none => exact ⟨congrArg Except.ok equal, stored⟩
      | lost => exact ⟨rfl, same⟩
      | unanswered => exact ⟨rfl, stored⟩

theorem setex_agrees {now : ℕ} {ttl : ℤ} {value : RedisValue} (one other : Redis) :
    Agrees (fun one other : Redis => ∀ now, one.entryAt now key = other.entryAt now key)
      ((one.setex now key ttl value).map fun redis => ((), redis))
      ((other.setex now key ttl value).map fun redis => ((), redis)) := by
  unfold Redis.setex
  split
  · refine ⟨rfl, fun later => ?_⟩
    rw [Redis.entryAt_put_self, Redis.entryAt_put_self]
  · trivial

/-- Such a call is answered alike by both states. -/
theorem answer_agrees {tid : Tid} {call : Call} (reads : call.readsOnly userId key)
    (same : SameFor userId key first second) :
    Agrees (SameFor userId key) (World.answer tid choice call first)
      (World.answer tid choice call second) := by
  have same := same.advance choice.delay
  cases call with
  | now => exact ⟨same.clock, same⟩
  | uuid4 => exact ⟨rfl, same⟩
  | getUser id =>
    cases reads
    exact ⟨same.userObject false, same⟩
  | selectUserById id withRole =>
    cases reads
    exact ⟨same.userObject withRole, same⟩
  | redisGet other =>
    cases reads
    apply redisCommand_agrees same
    refine ⟨?_, same.entry⟩
    rw [same.clock]
    exact congrArg (Option.map RedisEntry.value) (same.entry _)
  | redisSetex other ttl value =>
    cases reads
    apply redisCommand_agrees same
    rw [same.clock]
    exact setex_agrees _ _
  | _ => cases reads

end Readers

/-- How a program ends that is started in the given state at the given time, when the environment
makes the given choices. -/
def Action.endsAt {α : Type} (program : Action α) (reader : Tid) (world : World) (now : Time)
    (choices : List Choice) : Option (Except Exn α) :=
  (program.replay (World.answer reader) { world with clock := now } choices).map Prod.fst

section Programs

variable {Token : Type} {app : App Token} {token : Token} {claims : Claims}

/-- Programs that read one row and one key end alike where these are the same. -/
theorem Action.endsAt_congr {α : Type} {program : Action α} {post : Trace Reply → Except Exn α → Prop}
    {userId : UUID4} {key : String} {first second : World} {now : Time}
    (along : program.Along (fun _ call => call.readsOnly userId key) post [])
    (same : SameFor userId key { first with clock := now } { second with clock := now }) (reader : Tid)
    (choices : List Choice) :
    program.endsAt reader first now choices = program.endsAt reader second now choices := by
  apply replay_congr _ along same choices
  intro choice call one other reads same
  exact answer_agrees reads same

theorem refreshTokens_readsOnly (verified : app.jwt.verify token = some claims) :
    (refreshTokens app token).Along
      (fun _ call => call.readsOnly claims.sub (blacklistKey claims.jti.val.str)) (fun _ _ => True)
      [] := by
  apply refreshTokens_along (fun _ => trivial) (fun _ => trivial)
  · rintro trace found same
    rw [verified] at same
    cases same
    rfl
  · rintro trace found same
    rw [verified] at same
    cases same
    rfl
  · rintro trace found now ttl same _ _ _
    rw [verified] at same
    cases same
    rfl

theorem getTokenUser_readsOnly (verified : app.jwt.verify token = some claims) (key : String) :
    (getTokenUser app token).Along (fun _ call => call.readsOnly claims.sub key) (fun _ _ => True) [] := by
  apply (getTokenUser_along (fun _ => trivial) token _).mono (fun _ _ admitted => admitted)
    fun _ _ _ => trivial
  exact fun time payload accepted => App.accessPayload_sub verified accepted.1

end Programs

section Requests

variable {Token : Type} (app : App Token)

/-- The requests of a user who presents a token: any other argument is free. -/
inductive Request.ActsWith (token : Token) : Request Token → Prop
  | refresh : ActsWith token (.refreshTokens token)
  | logout : ActsWith token (.logout token)
  | changeEmail (data : UserChangeEmailIn) : ActsWith token (.userEndpoint token (.changeEmail data))
  | changePassword (data : UserChangePasswordIn) :
      ActsWith token (.userEndpoint token (.changePassword data))
  | logoutOthers : ActsWith token (.userEndpoint token .logoutOthers)

/-- A commit of the request updates the row of the user. -/
def UpdatesOwn (userId : UUID4) (trace : Trace Reply) : Call → Prop
  | .commit _ writes => ∃ (loaded : UserObject) (current : User),
      ⟨.getUser userId, some loaded⟩ ∈ trace ∧ writes = userUpdate loaded.toUser current
  | _ => True

variable {app} {trace : Trace Reply} {token : Token} {claims : Claims} {userId : UUID4}

/-- The request commits nothing but updates of the row of its user. -/
theorem Request.ActsWith.along {request : Request Token} (acts : request.ActsWith token)
    (verified : app.jwt.verify token = some claims) :
    (request.program app).Along (UpdatesOwn claims.sub) (fun _ _ => True) [] := by
  have gated {operation : UserOperation}
      (rest : ∀ (user : UserObject) (later : Trace Reply), ⟨.getUser claims.sub, some user⟩ ∈ later →
        (operation.program app user).Along (UpdatesOwn claims.sub) (fun _ _ => True) later) :
      ((Request.userEndpoint token operation).program app).Along (UpdatesOwn claims.sub)
        (fun _ _ => True) [] := by
    apply along_withSession (fun _ => trivial)
    apply Along.bind (getTokenUser_along (fun _ => trivial) token fun _ _ _ => trivial)
    · rintro user _ ⟨time, payload, accepted, _, rfl⟩
      exact rest user _ (by rw [App.accessPayload_sub verified accepted.1]; exact List.mem_cons_self)
    · exact fun _ _ _ => trivial
  cases acts with
  | refresh =>
    apply along_withSession (fun _ => trivial)
    apply Along.bind (refreshTokens_along (fun _ => trivial) (fun _ => trivial)
      (fun _ _ _ => trivial) (fun _ _ _ => trivial) fun _ _ _ _ _ _ _ _ => trivial)
    · exact fun _ _ _ => trivial
    · exact fun _ _ _ => trivial
  | logout =>
    apply along_withSession (fun _ => trivial)
    apply Along.bind (logout_along (fun _ => trivial) fun _ _ _ _ _ _ _ _ => trivial)
    · exact fun _ _ _ => trivial
    · exact fun _ _ _ => trivial
  | changeEmail data =>
    apply gated
    intro user later seen
    apply Along.bind (changeEmail_along data user (fun _ => trivial) ⟨user, _, seen, rfl⟩)
    · exact fun _ _ _ => trivial
    · exact fun _ _ _ => trivial
  | changePassword data =>
    apply gated
    intro user later seen
    apply Along.bind (changePassword_along data user (fun _ => trivial)
      fun salt => ⟨user, _, List.mem_cons_of_mem _ seen, rfl⟩)
    · exact fun _ _ _ => trivial
    · exact fun _ _ _ => trivial
  | logoutOthers =>
    apply gated
    intro user later seen
    apply Along.bind (logoutOthers_along user (fun _ => trivial) (fun _ => trivial)
      (fun _ => trivial) ⟨user, _, seen, rfl⟩)
    · exact fun _ _ _ => trivial
    · exact fun _ _ _ => trivial

/-- The only token a request of this kind puts on the blacklist is the one it presents. -/
theorem Request.ActsWith.revokes {request : Request Token} (acts : request.ActsWith token)
    {other : Token} (revoked : request.revokes? = some other) : other = token := by
  cases acts <;> cases revoked <;> rfl

end Requests

/-- Nothing changes but the row of one user and the blacklist entry of one token id. -/
structure OthersKept (userId jti : UUID4) (first last : World) : Prop where
  users : ∀ id, id ≠ userId → last.db.user? id = first.db.user? id
  roles : last.db.roles = first.db.roles
  oauthAccounts : last.db.oauthAccounts = first.db.oauthAccounts
  blacklist : ∀ id, id ≠ jti → ∀ now, last.redis.entryAt now (blacklistKey id.val.str) =
    first.redis.entryAt now (blacklistKey id.val.str)

namespace OthersKept

variable {userId jti : UUID4} {first middle last : World}

theorem refl (world : World) : OthersKept userId jti world world :=
  ⟨fun _ _ => rfl, rfl, rfl, fun _ _ _ => rfl⟩

theorem trans (left : OthersKept userId jti first middle) (right : OthersKept userId jti middle last) :
    OthersKept userId jti first last where
  users id other := (right.users id other).trans (left.users id other)
  roles := right.roles.trans left.roles
  oauthAccounts := right.oauthAccounts.trans left.oauthAccounts
  blacklist id other now := (right.blacklist id other now).trans (left.blacklist id other now)

/-- Readers of another user's row and of another token's entry see the same. -/
theorem sameFor (kept : OthersKept userId jti first last) {id other : UUID4} (stranger : id ≠ userId)
    (distinct : other ≠ jti) (now : Time) :
    SameFor id (blacklistKey other.val.str) { first with clock := now } { last with clock := now } where
  clock := rfl
  row := (kept.users id stranger).symm
  roles := kept.roles.symm
  entry moment := (kept.blacklist other distinct moment).symm

end OthersKept

section Runs

variable {Token : Type} {app : App Token} {condition : Condition Tid Reply World} {world : World}
  {requests : Tid → Request Token} {config : ServiceConfig Token} {tid : Tid} {token : Token}
  {claims : Claims} {past older newer : List ServiceEvent} {event : ServiceEvent}

/-- One step of such a request. -/
theorem acting_step (acts : (requests event.thread).ActsWith token)
    (verified : app.jwt.verify token = some claims)
    (allowed : LawfulEvent answers condition (fun tid => Allowed app (requests tid)) world older event)
    (reads : Lawful answers condition (fun tid => Allowed app (requests tid)) world older)
    (updates : UpdatesOwn claims.sub (traceOf older event.thread) event.request) :
    OthersKept claims.sub claims.jti event.before event.after := by
  have tables : ∃ users, event.after.db.toTables = { event.before.db.toTables with users := users } ∧
      ∀ id, id ≠ claims.sub → lookup User.id users id = event.before.db.user? id := by
    have written := event_db allowed
    by_cases silent : committed event = []
    · rw [db_of_committed_nil allowed silent]
      exact ⟨_, rfl, fun _ _ => rfl⟩
    · obtain ⟨thread, call, reply, before, after⟩ := event
      cases call with
      | commit session writes =>
        cases reply with
        | error error => exact absurd rfl silent
        | ok _ =>
          obtain ⟨loaded, current, seen, rfl⟩ := updates
          obtain ⟨state, _, _, answered⟩ := seen_answer reads seen
          obtain ⟨row, found, same⟩ := Option.map_eq_some_iff.mp (answers_getUser answered).symm
          have owner : loaded.id = claims.sub := by
            rw [← Database.user?_id found, ← same]
            rfl
          obtain ⟨change, described, tables⟩ := Database.writeAll_userUpdate written
          refine ⟨_, tables, fun id other => lookup_amend_of_ne described.id ?_⟩
          rw [owner]
          exact other
      | _ => exact absurd rfl silent
  obtain ⟨users, tables, kept⟩ := tables
  constructor
  · intro id other
    rw [Database.user?, tables]
    exact kept id other
  · rw [tables]
  · rw [tables]
  · intro id other
    rcases blacklist_step allowed id with same | ⟨revoked, found, _, _, presented, opened, jti, _⟩
    · exact same
    · rw [acts.revokes presented, verified] at opened
      cases opened
      exact absurd jti.symm other

/-- All steps of such a request, as long as no other request moves in between. -/
theorem acting_steps (run : Reaches answers condition (started app world requests) config)
    (acts : (requests tid).ActsWith token) (verified : app.jwt.verify token = some claims)
    (segment : newer ++ older <:+ config.past) (own : ∀ event ∈ newer, event.thread = tid) :
    OthersKept claims.sub claims.jti (stateAfter world older) (stateAfter world (newer ++ older)) := by
  have lawful := (service_course run).lawful.suffix segment
  have along (other : Tid) : ((requests other).program app).Along
      (fun trace call => other = tid → UpdatesOwn claims.sub trace call) (fun _ _ => True) [] := by
    have updates : ((requests other).program app).Along
        (fun trace call => other = tid → UpdatesOwn claims.sub trace call) (fun _ _ => other = tid → True) [] := by
      apply along_forall
      rintro rfl
      exact acts.along verified
    exact updates.mono (fun _ _ admitted => admitted) fun _ _ _ => trivial
  have updating := (course_of_along _ _ run along).lawful.suffix segment
  clear segment
  induction newer with
  | nil => exact .refl _
  | cons event newer ih =>
    obtain ⟨mover, own⟩ := List.forall_mem_cons.mp own
    have step := acting_step (mover ▸ acts) verified lawful.1 lawful.2 (updating.1.specified mover)
    rw [lawful.1.follows] at step
    exact (ih own lawful.2 updating.2).trans step

/-- The user's row, role and links are the same in both states, and every token that was issued to
the user is treated alike, whenever and by whomever it is presented. -/
structure Undetected (app : App Token) (config : ServiceConfig Token) (userId : UUID4)
    (before after : World) : Prop where
  row : after.db.user? userId = before.db.user? userId
  role : ∀ user, before.db.user? userId = some user → after.db.roleOf user = before.db.roleOf user
  links : ∀ account, account.userId = userId →
    (account ∈ after.db.oauthAccounts ↔ account ∈ before.db.oauthAccounts)
  tokenUser : ∀ token, IssuedTo app config token userId → ∀ reader now choices,
    (getTokenUser app token).endsAt reader after now choices =
      (getTokenUser app token).endsAt reader before now choices
  refreshes : ∀ token, IssuedTo app config token userId → ∀ reader now choices,
    (refreshTokens app token).endsAt reader after now choices =
      (refreshTokens app token).endsAt reader before now choices

/-- In every run in which no UUID is drawn twice, whatever a user does with an own token goes
undetected by every other user and leaves the roles, step by step and as a whole. -/
theorem session_isolated (run : Reaches answers freshDraws (started app world requests) config)
    {userId : UUID4} (issued : IssuedTo app config token userId)
    (acts : (requests tid).ActsWith token) (segment : newer ++ older <:+ config.past)
    (own : ∀ event ∈ newer, event.thread = tid) {otherId : UUID4} (stranger : otherId ≠ userId) :
    (stateAfter world (newer ++ older)).db.roles = (stateAfter world older).db.roles ∧
      Undetected app config otherId (stateAfter world older) (stateAfter world (newer ++ older)) := by
  obtain ⟨claims, verified, rfl⟩ := issued.claims
  have kept := acting_steps run acts verified segment own
  have apart {other : Token} {otherClaims : Claims} (reissued : IssuedTo app config other otherId)
      (signed : app.jwt.verify other = some otherClaims) : otherClaims.jti ≠ claims.jti :=
    fun same => stranger (issued_owner run reissued signed issued verified same)
  refine ⟨kept.roles, kept.users otherId stranger, fun user _ => ?_, fun account _ => ?_, ?_, ?_⟩
  · unfold Database.roleOf Database.role?
    rw [kept.roles]
  · rw [kept.oauthAccounts]
  · intro other reissued reader now choices
    obtain ⟨otherClaims, signed, rfl⟩ := reissued.claims
    have shown := kept.sameFor stranger (apart reissued signed) now
    exact (Action.endsAt_congr (getTokenUser_readsOnly signed _) shown reader choices).symm
  · intro other reissued reader now choices
    obtain ⟨otherClaims, signed, rfl⟩ := reissued.claims
    have shown := kept.sameFor stranger (apart reissued signed) now
    exact (Action.endsAt_congr (refreshTokens_readsOnly signed) shown reader choices).symm

end Runs

/-- The refresh token of a user with the given number, issued when the service starts. -/
private def startingToken (user jti : ℕ) : Claims :=
  RefreshTokenPayload.modelDump
    { sub := numbered user, iat := 1700000000, exp := 1702592000, jti := numbered jti, tv := 1 }

/-- The superuser logs out, and a user with an open session does not notice. -/
theorem session_isolated_logout : ∃ config : ServiceConfig Claims,
    IssuedTo transparentApp config (startingToken 3 5) (numbered 3) ∧
      Undetected transparentApp config (numbered 3)
        (stateAfter bootstrappedWorld (config.past.drop 4)) (stateAfter bootstrappedWorld config.past) := by
  have played : ((started transparentApp bootstrappedWorld (pool
      [.createUser ⟨"a@example.com", "pw"⟩, .loginUser ⟨"a@example.com", "pw"⟩ ⟨none, none⟩ none,
        .loginUser ⟨"admin@example.com", "password"⟩ ⟨none, none⟩ none,
        .logout (startingToken 2 8)])).playAll World.answer freshDraws
      [move 0, move 0, move 0, move 0 3, move 0, move 0, move 0,
        move 1, move 1, move 1 4, move 1, move 1 5, move 1 6, move 1, move 1,
        move 2, move 2, move 2 7, move 2, move 2 8, move 2 9, move 2, move 2,
        move 3, move 3, move 3, move 3]).any
      (fun config =>
        decide ((returnedPair? (config.threads 1)).map TokenData.refresh = some (startingToken 3 5)) &&
        decide ((returnedPair? (config.threads 2)).map TokenData.refresh = some (startingToken 2 8)) &&
        (config.past.take 4).all fun event => event.thread = 3) = true := by
    decide
  obtain ⟨config, run, checked⟩ := Config.playAll_exists played
  rw [Bool.and_eq_true, Bool.and_eq_true, decide_eq_true_iff, decide_eq_true_iff] at checked
  obtain ⟨⟨first, second⟩, own⟩ := checked
  have issued {tid : Tid} {user jti : ℕ}
      (returned : (returnedPair? (config.threads tid)).map TokenData.refresh =
        some (startingToken user jti)) :
      IssuedTo transparentApp config (startingToken user jti) (numbered user) := by
    obtain ⟨pair, ended, same⟩ := Option.map_eq_some_iff.mp returned
    have done := outcome?_eq_ok.mpr (returnedPair?_eq_some.mp ended)
    exact ⟨tid, .tokens pair, pair, _, done, rfl, by simp [same], rfl, rfl⟩
  refine ⟨config, issued first, ?_⟩
  have whole : config.past.take 4 ++ config.past.drop 4 = config.past := List.take_append_drop 4 _
  have segment : config.past.take 4 ++ config.past.drop 4 <:+ config.past := by rw [whole]
  have moves : ∀ event ∈ config.past.take 4, event.thread = 3 := fun event member =>
    of_decide_eq_true (List.all_eq_true.mp own event member)
  have stranger : numbered 3 ≠ numbered 2 := by decide
  have isolated := session_isolated run (issued second) (by exact .logout) segment moves stranger
  rw [whole] at isolated
  exact isolated.2

end AuthApi
