import AuthApi.Run.AloneIssuance

/-! # What an issued pair is good for

A pair that a request returns is accepted for the user it was issued for until it expires: the access
token decodes to the user row and its role and passes `get_token_user`, and the refresh token passes
`refresh_tokens`. Neither token is ever taken for the other.
-/

namespace AuthApi

open Interleaving Interleaving.Program Relational Dependencies AuthService

/-- The payload says what the row and the role of the row say. -/
structure AccessTokenPayload.Describes (payload : AccessTokenPayload) (db : Database) (row : User) :
    Prop where
  sub : payload.sub = row.id
  tv : payload.tv = row.tokenVersion
  isSuperuser : payload.isSuperuser = row.isSuperuser
  role : payload.role = (db.roleOf row).map Role.title
  accessLabels : payload.accessLabels = ((db.roleOf row).map Role.accessLabels).getD []

/-- The signed expiry of the token lies ahead. -/
def App.Unexpired {Token : Type} (app : App Token) (token : Token) (now : Time) : Prop :=
  ∃ claims, app.jwt.verify token = some claims ∧ (now : ℤ) < claims.exp * 1000000

/-- The answer of the gate to a token it does not accept. -/
def Unauthorized {α : Type} (outcome : Except Exn α) : Prop :=
  ∃ detail, outcome = .error (.httpException (credentialsHttpException detail))

/-- The answer to a token that is no good refresh token. -/
def RefreshRefused {α : Type} (outcome : Except Exn α) : Prop :=
  ∃ detail, outcome = .error (.refreshTokenError detail)

/-- From the world on, a reader that runs alone accepts the pair for the row until it expires, and
never takes one token for the other. If Redis fails, a refresh fails with its error. -/
structure PairAgrees {Token : Type} (app : App Token) (reader : Tid) (world : World) (row : User)
    (pair : TokenData Token) : Prop where
  stored : world.db.user? row.id = some row
  payload : app.Unexpired pair.access world.clock →
    (getAccessTokenPayload app pair.access).Ensures
      (during (app.Unexpired pair.access) (answers reader))
      (fun outcome _ => ∃ payload : AccessTokenPayload, outcome = .ok payload ∧
        payload.Describes world.db row) world
  tokenUser : app.Unexpired pair.access world.clock →
    (getTokenUser app pair.access).Ensures (during (app.Unexpired pair.access) (answers reader))
      (fun outcome _ => outcome = .ok { row with role := .noValue }) world
  refreshes : app.Unexpired pair.refresh world.clock →
    (refreshTokens app pair.refresh).Ensures (during (app.Unexpired pair.refresh) (faultless reader))
      (fun outcome _ => ∃ next, outcome = .ok next) world
  refreshesOrFails : app.Unexpired pair.refresh world.clock →
    (refreshTokens app pair.refresh).Ensures (during (app.Unexpired pair.refresh) (answers reader))
      (fun outcome _ => (∃ next, outcome = .ok next) ∨ ∃ error, outcome = .error (.redisError error))
      world
  accessNotRefreshed : (refreshTokens app pair.access).Ensures (answers reader)
    (fun outcome _ => RefreshRefused outcome) world
  accessNotLoggedOut : (logout app pair.access).Ensures (answers reader)
    (fun outcome _ => RefreshRefused outcome) world
  refreshNoPayload : (getAccessTokenPayload app pair.refresh).Ensures (answers reader)
    (fun outcome _ => Unauthorized outcome) world
  refreshNoUser : ∀ operation,
    ((Request.userEndpoint pair.refresh operation).program app).Ensures (answers reader)
      (fun outcome _ => Unauthorized outcome) world
  refreshNoSuperuser : ∀ operation,
    ((Request.roleEndpoint pair.refresh operation).program app).Ensures (answers reader)
      (fun outcome _ => Unauthorized outcome) world

theorem PyJwt.decode_encode {Token : Type} (jwt : PyJwt Token) {claims : Claims} {now : Time}
    (issued : claims.iat * 1000000 ≤ (now : ℤ)) (unexpired : (now : ℤ) < claims.exp * 1000000) :
    jwt.decode (jwt.encode claims) now = .ok claims :=
  PyJwt.decode_eq_ok.mpr ⟨jwt.verify_encode claims, issued, unexpired⟩

theorem Time.seconds_le (time : Time) : (time.seconds : ℤ) * 1000000 ≤ (time : ℤ) := by
  have floor : time.seconds * 1000000 ≤ (time : ℕ) := Nat.div_mul_le_self time 1000000
  exact_mod_cast floor

section Minted

variable {Token : Type} {app : App Token} {world : World} {row : User} {pair : TokenData Token}

/-- The role claims of a current instance are those of the role of the row. -/
theorem Current.describes {user : UserObject} {roleClaims : Option String × List AccessLabel}
    (current : Current world row user) (claims : resolveRoleClaims user = .ok roleClaims) :
    roleClaims = ((world.db.roleOf row).map Role.title,
      ((world.db.roleOf row).map Role.accessLabels).getD []) := by
  rw [resolveRoleClaims, current.role] at claims
  cases role : world.db.roleOf row with
  | none =>
    rw [role] at claims
    simp only at claims
    split at claims
    · cases claims
      rfl
    · cases claims
  | some found =>
    rw [role] at claims
    cases claims
    rfl

theorem Minted.access (minted : Minted app world row pair) :
    ∃ payload : AccessTokenPayload, pair.access = app.jwt.encode payload.modelDump ∧
      payload.iat * 1000000 ≤ (world.clock : ℤ) ∧ payload.Describes world.db row := by
  obtain ⟨user, accessTime, _, accessId, _, roleClaims, current, early, _, claims, access, _⟩ := minted
  refine ⟨_, access, ?_, ?_⟩
  · exact le_trans (Time.seconds_le accessTime) (by exact_mod_cast early)
  · have described := current.describes claims
    constructor
    · exact current.id
    · exact current.tokenVersion
    · exact current.isSuperuser
    · rw [described]
    · rw [described]

/-- What `refresh_tokens` relies on. -/
structure RefreshTokenPayload.Accepted (payload : RefreshTokenPayload) (world : World) (row : User) :
    Prop where
  issued : payload.iat * 1000000 ≤ (world.clock : ℤ)
  sub : payload.sub = row.id
  tv : payload.tv = row.tokenVersion
  unlisted : ∀ now, world.clock.milliseconds ≤ now →
    world.redis.entryAt now (blacklistKey payload.jti.val.str) = none

theorem Minted.refresh (minted : Minted app world row pair) :
    ∃ payload : RefreshTokenPayload, pair.refresh = app.jwt.encode payload.modelDump ∧
      payload.Accepted world row := by
  obtain ⟨user, _, refreshTime, _, refreshId, _, current, _, late, _, _, refresh, absent⟩ := minted
  refine ⟨_, refresh, ?_, current.id, current.tokenVersion, absent⟩
  exact le_trans (Time.seconds_le refreshTime) (by exact_mod_cast late)

/-- Another instance made of the row passes the check of the role as well. -/
theorem Minted.role (minted : Minted app world row pair) :
    ∃ roleClaims, resolveRoleClaims { row with role := .loaded (world.db.roleOf row) } =
      .ok roleClaims := by
  obtain ⟨user, _, _, _, _, roleClaims, current, _, _, claims, _⟩ := minted
  refine ⟨roleClaims, ?_⟩
  rw [← claims, resolveRoleClaims, resolveRoleClaims, current.role, current.isSuperuser]

end Minted

section Readers

variable {Token : Type} {app : App Token} {reader : Tid} {world : World} {row : User}
  {admitted : Time → Prop} {step : (call : Call) → World → Reply call → World → Prop}

theorem getAccessTokenPayload_ensures {payload : AccessTokenPayload} (serves : Serves reader admitted step)
    (unexpired : ∀ now, admitted now → (now : ℤ) < payload.exp * 1000000)
    (issued : payload.iat * 1000000 ≤ (world.clock : ℤ)) (now : admitted world.clock) :
    (getAccessTokenPayload app (app.jwt.encode payload.modelDump)).Ensures step
      (fun outcome after => outcome = .ok payload ∧ after.db = world.db ∧ admitted after.clock)
      world := by
  apply serves.call now rfl
  intro time after _ answered later
  have effect := answers_effect answered
  have moment := answers_now answered
  have decoded : app.jwt.decode (app.jwt.encode payload.modelDump) time = .ok payload.modelDump := by
    apply app.jwt.decode_encode
    · rw [moment]
      exact le_trans issued (by exact_mod_cast effect.clock)
    · rw [moment]
      exact unexpired _ later
  simp only [done_bind, decoded, AccessTokenPayload.modelValidate_modelDump]
  exact ⟨rfl, (Except.ok.inj effect.db).symm, later⟩

theorem getTokenUser_ensures {payload : AccessTokenPayload} (serves : Serves reader admitted step)
    (unexpired : ∀ now, admitted now → (now : ℤ) < payload.exp * 1000000)
    (issued : payload.iat * 1000000 ≤ (world.clock : ℤ)) (now : admitted world.clock)
    (stored : world.db.user? payload.sub = some row) (version : payload.tv = row.tokenVersion) :
    (getTokenUser app (app.jwt.encode payload.modelDump)).Ensures step
      (fun outcome _ => outcome = .ok { row with role := .noValue }) world := by
  apply Ensures.bind (getAccessTokenPayload_ensures serves unexpired issued now)
  · rintro _ read ⟨⟨⟩, same, now⟩
    apply serves.call now rfl
    intro found after _ answered _
    have user := answers_getUser answered
    rw [same, stored] at user
    subst user
    simp only [Option.map_some, done_bind, World.userObject]
    rw [if_pos version]
    rfl
  · rintro error read ⟨⟨⟩, _⟩

/-- A new pair for an instance whose role claims resolve. -/
theorem issueTokenPair_ensures {user : UserObject} {roleClaims : Option String × List AccessLabel}
    (serves : Serves reader admitted step) (now : admitted world.clock)
    (claims : resolveRoleClaims user = .ok roleClaims) :
    (issueTokenPair app user).Ensures step (fun outcome _ => ∃ next, outcome = .ok next) world := by
  apply serves.call now rfl
  intro accessTime first _ _ now
  simp only [done_bind, claims]
  apply serves.call now rfl
  intro accessId second _ _ now
  apply serves.call now rfl
  intro refreshTime third _ _ now
  apply serves.call now rfl
  intro refreshId last _ _ now
  exact ⟨_, rfl⟩

/-- A good refresh token gives a new pair, unless a Redis command fails. -/
theorem refreshTokens_ensures {payload : RefreshTokenPayload} {roleClaims : Option String × List AccessLabel}
    {post : Except Exn (TokenData Token) → World → Prop} (serves : Serves reader admitted step)
    (unexpired : ∀ now, admitted now → (now : ℤ) < payload.exp * 1000000)
    (accepted : payload.Accepted world row) (now : admitted world.clock)
    (stored : world.db.user? row.id = some row)
    (claims : resolveRoleClaims { row with role := .loaded (world.db.roleOf row) } = .ok roleClaims)
    (succeeds : ∀ next after, post (.ok next) after)
    (getFails : ∀ {key before error after}, step (.redisGet key) before (.error error) after →
      post (.error (.redisError error)) after)
    (setFails : ∀ {key ttl value before error after}, 0 < ttl →
      step (.redisSetex key ttl value) before (.error error) after →
        post (.error (.redisError error)) after) :
    (refreshTokens app (app.jwt.encode payload.modelDump)).Ensures step post world := by
  apply serves.call now rfl
  intro time first _ answered now
  have effect := answers_effect answered
  have moment := answers_now answered
  have passed := effect.clock
  have kept : first.db = world.db := (Except.ok.inj effect.db).symm
  have decoded : app.jwt.decode (app.jwt.encode payload.modelDump) time = .ok payload.modelDump := by
    apply app.jwt.decode_encode
    · rw [moment]
      exact le_trans accepted.issued (by exact_mod_cast passed)
    · rw [moment]
      exact unexpired _ now
  simp only [done_bind, decoded, RefreshTokenPayload.modelValidate_modelDump]
  apply serves.call now rfl
  intro entry second given answered now
  have silent := effect.redis (blacklistKey payload.jti.val.str) nofun
  have effect := answers_effect answered
  have passed := le_trans passed effect.clock
  have kept : second.db = world.db := (Except.ok.inj effect.db).symm.trans kept
  cases entry with
  | error error => exact getFails given
  | ok entry =>
    have absent : entry = none := by
      rw [(answers_redisGet answered).2 entry rfl, Redis.get, silent,
        accepted.unlisted _ (Time.milliseconds_mono passed)]
      rfl
    subst absent
    simp only [attempt_ok, done_bind, pure_eq, Option.isSome_none, Bool.false_eq_true, if_false]
    apply serves.call now rfl
    intro found third _ answered now
    have user := answers_selectUserById answered
    rw [kept, accepted.sub, stored] at user
    subst user
    simp only [Option.map_some, done_bind]
    have version : payload.tv = (second.userObject true row).tokenVersion := accepted.tv
    have resolved : resolveRoleClaims (second.userObject true row) = .ok roleClaims := by
      rw [← claims, World.userObject, kept]
      rfl
    rw [if_pos version]
    apply serves.call now rfl
    intro revoked fourth _ _ now
    apply serves.call now rfl
    intro reply fifth given _ now
    cases reply with
    | error error => exact setFails (by omega) given
    | ok _ =>
      apply Ensures.mono _ (issueTokenPair_ensures serves now resolved)
      rintro _ after ⟨next, rfl⟩
      exact succeeds next after

end Readers

section Refused

variable {Token : Type} {app : App Token} {reader : Tid} {world : World}

theorem PyJwt.claims_of_decode {jwt : PyJwt Token} {claims decoded : Claims} {now : Time}
    (accepted : jwt.decode (jwt.encode claims) now = .ok decoded) : decoded = claims := by
  have verified := (PyJwt.decode_eq_ok.mp accepted).1
  rw [jwt.verify_encode] at verified
  exact (Option.some.inj verified).symm

theorem refreshTokens_refuses (payload : AccessTokenPayload) :
    (refreshTokens app (app.jwt.encode payload.modelDump)).Ensures (answers reader)
      (fun outcome _ => RefreshRefused outcome) world := by
  apply serves_answers.call trivial rfl
  intro time _ _ _ _
  simp only [done_bind]
  split
  · exact ⟨_, rfl⟩
  · exact ⟨_, rfl⟩
  · next claims decoded =>
    rw [PyJwt.claims_of_decode decoded, RefreshTokenPayload.modelValidate_access]
    exact ⟨_, rfl⟩

theorem logout_refuses (payload : AccessTokenPayload) :
    (logout app (app.jwt.encode payload.modelDump)).Ensures (answers reader)
      (fun outcome _ => RefreshRefused outcome) world := by
  apply serves_answers.call trivial rfl
  intro time _ _ _ _
  simp only [done_bind]
  split
  · exact ⟨_, rfl⟩
  · next claims decoded =>
    rw [PyJwt.claims_of_decode decoded, RefreshTokenPayload.modelValidate_access]
    exact ⟨_, rfl⟩

theorem getAccessTokenPayload_refuses (payload : RefreshTokenPayload) :
    (getAccessTokenPayload app (app.jwt.encode payload.modelDump)).Ensures (answers reader)
      (fun outcome _ => Unauthorized outcome) world := by
  apply serves_answers.call trivial rfl
  intro time _ _ _ _
  simp only [done_bind]
  split
  · exact ⟨_, rfl⟩
  · exact ⟨_, rfl⟩
  · next claims decoded =>
    rw [PyJwt.claims_of_decode decoded, AccessTokenPayload.modelValidate_refresh]
    exact ⟨_, rfl⟩

/-- What the gate refuses never gets to what is behind the gate. -/
theorem bind_unauthorized {α β : Type} {gate : Action α} {rest : α → Action β}
    (refused : gate.Ensures (answers reader) (fun outcome _ => Unauthorized outcome) world) :
    (gate.bind rest).Ensures (answers reader) (fun outcome _ => Unauthorized outcome) world := by
  apply Ensures.bind refused
  · rintro value middle ⟨detail, ⟨⟩⟩
  · rintro error middle ⟨detail, ⟨⟩⟩
    exact ⟨detail, rfl⟩

theorem withSession_unauthorized {α : Type} {body : Action α}
    (refused : body.Ensures (answers reader) (fun outcome _ => Unauthorized outcome) world) :
    (withSession body).Ensures (answers reader) (fun outcome _ => Unauthorized outcome) world := by
  apply bind_unauthorized
  apply Ensures.handle refused
  · exact fun value middle holds => holds
  · rintro error middle ⟨detail, ⟨⟩⟩
    apply serves_answers.call trivial rfl
    intro _ _ _ _ _
    exact ⟨detail, rfl⟩

end Refused

section Agreement

variable {Token : Type} {app : App Token} {tid : Tid} {world after : World} {row : User}
  {pair : TokenData Token}

theorem App.Unexpired.lt {claims : Claims} {now : Time}
    (unexpired : app.Unexpired (app.jwt.encode claims) now) : (now : ℤ) < claims.exp * 1000000 := by
  obtain ⟨found, verified, ahead⟩ := unexpired
  rw [app.jwt.verify_encode] at verified
  cases verified
  exact ahead

theorem Minted.agrees (minted : Minted app world row pair) (reader : Tid) :
    PairAgrees app reader world row pair := by
  obtain ⟨access, encoded, issued, described⟩ := minted.access
  obtain ⟨refresh, signed, accepted⟩ := minted.refresh
  obtain ⟨roleClaims, claims⟩ := minted.role
  have stored : world.db.user? row.id = some row := by
    obtain ⟨_, _, _, _, _, _, current, _⟩ := minted
    exact current.stored
  have gate := @getAccessTokenPayload_refuses Token app reader world refresh
  obtain ⟨_, _⟩ := pair
  subst encoded signed
  constructor
  · exact stored
  · intro now
    apply Ensures.mono _ (getAccessTokenPayload_ensures (serves_answers.during _)
      (fun _ unexpired => unexpired.lt) issued now)
    rintro _ after ⟨rfl, _⟩
    exact ⟨access, rfl, described⟩
  · intro now
    apply getTokenUser_ensures (serves_answers.during _) (fun _ unexpired => unexpired.lt) issued now
    · rw [described.sub]
      exact stored
    · exact described.tv
  · intro now
    apply refreshTokens_ensures (serves_faultless.during _) (fun _ unexpired => unexpired.lt) accepted
      now stored claims
    · exact fun next after => ⟨next, rfl⟩
    · rintro key before error after ⟨⟨choice, served, answered⟩, _⟩
      simp [World.answer, World.respond, World.redisCommand, served] at answered
    · rintro key ttl value before error after positive ⟨⟨choice, served, answered⟩, _⟩
      simp [World.answer, World.respond, World.redisCommand, Redis.setex, served, positive] at answered
  · intro now
    apply refreshTokens_ensures (serves_answers.during _) (fun _ unexpired => unexpired.lt) accepted
      now stored claims
    · exact fun next after => .inl ⟨next, rfl⟩
    · exact fun _ => .inr ⟨_, rfl⟩
    · exact fun _ _ => .inr ⟨_, rfl⟩
  · exact refreshTokens_refuses access
  · exact logout_refuses access
  · exact gate
  · exact fun operation => withSession_unauthorized (bind_unauthorized (bind_unauthorized gate))
  · exact fun operation => bind_unauthorized (bind_unauthorized gate)

end Agreement

/-- A request that nothing disturbs returns a pair only if it agrees, for every later reader, with
the row of the user who logged in, refreshed or was resolved, and with the role of that row. -/
theorem issued_pair_agrees {Token : Type} {app : App Token} {tid : Tid} {request : Request Token}
    {world after : World} {pair : TokenData Token}
    (run : (request.program app).Runs (alone unlisted tid) world (.ok (.tokens pair)) after)
    (reader : Tid) :
    ∃ row, request.IssuesFor app world after row.id ∧ PairAgrees app reader after row pair := by
  obtain ⟨row, owner, minted⟩ := request.mints.run run pair rfl
  exact ⟨row, owner, minted.agrees reader⟩

private def entering : Request Claims :=
  .loginUser ⟨"admin@example.com", "password"⟩ ⟨none, none⟩ none

/-- The request returned a pair for the superuser. -/
private def returnsPair (outcome : Except Exn (Outcome Claims)) (_ : World) : Bool :=
  match outcome with
  | .ok (.tokens pair) => pair.access.sub = adminRow.id && pair.refresh.jti = numbered 8
  | _ => false

theorem issued_pair_agrees_login : ∃ pair after row,
    (entering.program transparentApp).Runs (alone unlisted 0) bootstrappedWorld (.ok (.tokens pair))
      after ∧ row.id = adminRow.id ∧ PairAgrees transparentApp 1 after row pair := by
  have played : ((entering.program transparentApp).replay (freshAnswer unlisted 0) bootstrappedWorld
      (([0, 0, 7, 0, 8, 9, 0, 0] : List ℕ).map fun n => (move 0 n).2)).any
      (fun ended => returnsPair ended.1 ended.2) = true := by decide
  obtain ⟨outcome, after, run, returned⟩ := replay_exists played
  obtain ⟨pair, rfl⟩ : ∃ pair, outcome = .ok (.tokens pair) := by
    unfold returnsPair at returned
    split at returned
    · exact ⟨_, rfl⟩
    · cases returned
  obtain ⟨row, ⟨owner, found, same⟩, agrees⟩ := issued_pair_agrees run 1
  have admin : bootstrappedWorld.db.userByEmail? "admin@example.com" = some adminRow := by decide
  obtain rfl := Option.some.inj (admin.symm.trans found)
  exact ⟨pair, after, row, run, same.symm, agrees⟩

end AuthApi
