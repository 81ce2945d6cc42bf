import AuthApi.Run.Alone
import AuthApi.Run.Users

/-! # Pairs issued by a request that runs alone

A request that nothing disturbs issues its pair for a user row as the database has it, with the role
as the database has it, and only adds a login to the history afterwards.
-/

namespace AuthApi

open Interleaving Interleaving.Program Relational DbHelpers Dependencies YandexIdService

/-- A drawn UUID names no entry of the blacklist. -/
def unlisted (world : World) (id : UUID4) : Bool :=
  (world.redis.entryAt world.clock.milliseconds (AuthService.blacklistKey id.val.str)).isNone

/-- What has expired stays absent. -/
theorem Redis.entryAt_eq_none_of_le {redis : Redis} {now later : ℕ} {key : String}
    (absent : redis.entryAt now key = none) (passed : now ≤ later) :
    redis.entryAt later key = none := by
  rw [Redis.entryAt, Option.filter_eq_none_iff] at absent ⊢
  intro entry found live
  apply absent entry found
  unfold RedisEntry.live at live ⊢
  split
  · rfl
  · next deadline bounded =>
    rw [bounded] at live
    simp only [decide_eq_true_eq] at live ⊢
    omega

/-- The users, the roles, the links and the keyspace are as before, at the same time or later. -/
structure Undisturbed (before after : World) : Prop where
  users : after.db.users = before.db.users
  roles : after.db.roles = before.db.roles
  accounts : after.db.oauthAccounts = before.db.oauthAccounts
  clock : before.clock ≤ after.clock
  redis : ∀ key now, after.redis.entryAt now key = before.redis.entryAt now key

/-- The instance agrees with the row and with its role, as the database has them. -/
structure Current (world : World) (row : User) (user : UserObject) : Prop where
  stored : world.db.user? row.id = some row
  id : user.id = row.id
  tokenVersion : user.tokenVersion = row.tokenVersion
  isSuperuser : user.isSuperuser = row.isSuperuser
  role : user.role = .loaded (world.db.roleOf row)

/-- The pair was made for the row as it is, and its refresh token is not on the blacklist. -/
def Minted {Token : Type} (app : App Token) (world : World) (row : User) (pair : TokenData Token) :
    Prop :=
  ∃ user accessTime refreshTime accessId refreshId roleClaims,
    Current world row user ∧ accessTime ≤ world.clock ∧ refreshTime ≤ world.clock ∧
    resolveRoleClaims user = .ok roleClaims ∧
    pair.access = app.jwt.encode (accessClaims app user accessTime accessId roleClaims) ∧
    pair.refresh = app.jwt.encode (refreshClaims app user refreshTime refreshId) ∧
    ∀ now, world.clock.milliseconds ≤ now →
      world.redis.entryAt now (AuthService.blacklistKey refreshId.val.str) = none

theorem Time.milliseconds_mono {first second : Time} (passed : first ≤ second) :
    first.milliseconds ≤ second.milliseconds := Nat.div_le_div_right passed

section Frame

variable {before middle after : World} {row : User} {user : UserObject}

theorem Undisturbed.trans (first : Undisturbed before middle) (second : Undisturbed middle after) :
    Undisturbed before after where
  users := second.users.trans first.users
  roles := second.roles.trans first.roles
  accounts := second.accounts.trans first.accounts
  clock := le_trans first.clock second.clock
  redis key now := (second.redis key now).trans (first.redis key now)

/-- Whether an instance is current is a matter of the users and the roles. -/
theorem Current.frame (current : Current before row user) (users : after.db.users = before.db.users)
    (roles : after.db.roles = before.db.roles) : Current after row user where
  stored := by
    rw [Database.user?, users]
    exact current.stored
  id := current.id
  tokenVersion := current.tokenVersion
  isSuperuser := current.isSuperuser
  role := by
    rw [current.role, Database.roleOf, Database.roleOf]
    unfold Database.role?
    rw [roles]

theorem Minted.undisturbed {Token : Type} {app : App Token} {pair : TokenData Token}
    (minted : Minted app before row pair) (same : Undisturbed before after) :
    Minted app after row pair := by
  obtain ⟨user, accessTime, refreshTime, accessId, refreshId, roleClaims, current, early, late,
    claims, access, refresh, absent⟩ := minted
  refine ⟨user, accessTime, refreshTime, accessId, refreshId, roleClaims,
    current.frame same.users same.roles, le_trans early same.clock, le_trans late same.clock, claims,
    access, refresh, fun now passed => ?_⟩
  rw [same.redis]
  exact absent now (le_trans (Time.milliseconds_mono same.clock) passed)

end Frame

section Steps

variable {fresh : World → UUID4 → Bool} {tid : Tid} {before after : World} {call : Call}
  {reply : Reply call}

/-- A call that commits nothing and is no Redis command disturbs nothing. -/
theorem alone_undisturbed (answered : alone fresh tid call before reply after)
    (silent : committedBy call reply = []) (elsewhere : call.redisKey? = none) :
    Undisturbed before after := by
  have same := alone_db answered silent
  have effect := alone_effect answered
  constructor
  · rw [same]
  · rw [same]
  · rw [same]
  · exact effect.clock
  · intro key now
    apply effect.redis key
    rw [elsewhere]
    exact nofun

/-- An instance read with its role is current. -/
theorem alone_current {user : UserObject} (answered : alone fresh tid call before reply after)
    (read : userRead ⟨call, reply⟩ = some user) (joined : joinsRole call = true)
    (silent : committedBy call reply = []) : Current after user.toUser user := by
  have made := @answers_userRead tid before after ⟨call, reply⟩ (alone_answers answered) user read
  rw [← alone_db answered silent, joined] at made
  exact ⟨made.1, rfl, rfl, rfl, made.2⟩

/-- A recorded login, or a failed attempt to record it, disturbs nothing. -/
theorem alone_history {entry : NewLoginHistory} {reply : Except DbError Unit}
    (answered : alone fresh tid (.commit .request [.insertLoginHistory entry]) before reply after) :
    Undisturbed before after := by
  cases reply with
  | error error => exact alone_undisturbed answered rfl rfl
  | ok _ =>
    have effect := alone_effect answered
    have tables := Database.writeAll_insertLoginHistory effect.db
    constructor
    · rw [tables]
    · rw [tables]
    · rw [tables]
    · exact effect.clock
    · exact fun key => effect.redis key nofun

end Steps

section Programs

variable {Token : Type} {app : App Token} {tid : Tid} {before : World}

/-- Whom a request that runs alone issues its pair for: the user who has the email, the subject of the token
shown, or a user linked to an account of the provider. -/
def Request.IssuesFor (app : App Token) (request : Request Token) (before after : World) (userId : UUID4) : Prop :=
  match request with
  | .loginUser data _ _ => ∃ row, before.db.userByEmail? data.email = some row ∧ row.id = userId
  | .refreshTokens token => ∃ claims, app.jwt.verify token = some claims ∧ claims.sub = userId
  | .userEndpoint token _ => ∃ claims, app.jwt.verify token = some claims ∧ claims.sub = userId
  | .authorize _ _ _ _ => ∃ providerUserId row,
      after.db.linkedUser? YANDEX providerUserId = some row ∧ row.id = userId
  | _ => False

/-- The outcome is no pair, or a pair minted for the row of an owner. -/
def MintsFor (app : App Token) (owner : World → UUID4 → Prop) (outcome : Except Exn (TokenData Token))
    (after : World) : Prop :=
  ∀ pair, outcome = .ok pair → ∃ row, owner after row.id ∧ Minted app after row pair

/-- Owners stay owners while nothing is disturbed. -/
def Stays (owner : World → UUID4 → Prop) : Prop :=
  ∀ first last userId, Undisturbed first last → owner first userId → owner last userId

theorem Undisturbed.linkedUser? {first last : World} (same : Undisturbed first last)
    (provider providerUserId : String) :
    last.db.linkedUser? provider providerUserId = first.db.linkedUser? provider providerUserId := by
  unfold Database.linkedUser? Database.account? Database.user?
  rw [same.users, same.accounts]

theorem Request.stays (app : App Token) (request : Request Token) (before : World) :
    Stays (request.IssuesFor app before) := by
  intro first last userId same owned
  cases request with
  | authorize code state requestMeta deviceInfo =>
    obtain ⟨providerUserId, row, linked, owner⟩ := owned
    exact ⟨providerUserId, row, (same.linkedUser? YANDEX providerUserId).trans linked, owner⟩
  | _ => exact owned

variable {owner : World → UUID4 → Prop}

theorem issueTokenPair_alone {row : User} {user : UserObject} (stays : Stays owner)
    (current : Current before row user) (owned : owner before row.id) :
    (issueTokenPair app user).Alone (alone unlisted tid) (MintsFor app owner) before := by
  intro accessTime first answered
  have early := answers_now (alone_answers answered)
  have same := alone_undisturbed answered rfl rfl
  cases claims : resolveRoleClaims user with
  | error error => exact nofun
  | ok roleClaims =>
    intro accessId second answered
    have same := same.trans (alone_undisturbed answered rfl rfl)
    have early : accessTime ≤ second.clock := early ▸ (alone_undisturbed answered rfl rfl).clock
    intro refreshTime third answered
    have late := answers_now (alone_answers answered)
    have same := same.trans (alone_undisturbed answered rfl rfl)
    have early := le_trans early (alone_undisturbed answered rfl rfl).clock
    intro refreshId last answered
    have absent := Option.isNone_iff_eq_none.mp (alone_draw answered)
    have drawn := alone_undisturbed answered rfl rfl
    have same := same.trans drawn
    rintro pair ⟨⟩
    refine ⟨row, stays _ _ _ same owned, user, accessTime, refreshTime, accessId, refreshId, roleClaims,
      current.frame same.users same.roles, le_trans early drawn.clock, late ▸ drawn.clock, claims, rfl,
      rfl, fun now passed => ?_⟩
    rw [drawn.redis]
    exact Redis.entryAt_eq_none_of_le absent
      (le_trans (Time.milliseconds_mono drawn.clock) passed)

theorem saveLoginHistory_alone (userId : UUID4) (requestMeta : RequestMeta)
    (deviceInfo : Option DeviceInfo) :
    (saveLoginHistory userId requestMeta deviceInfo).Alone (alone unlisted tid)
      (fun outcome after => outcome = .ok () ∧ Undisturbed before after) before := by
  intro id drawn answered
  have same := alone_undisturbed answered rfl rfl
  intro reply recorded answered
  have same := same.trans (alone_history answered)
  cases reply with
  | ok _ => exact ⟨rfl, same⟩
  | error error =>
    intro _ last answered
    exact ⟨rfl, same.trans (alone_undisturbed answered rfl rfl)⟩

/-- The pair that is issued before the login is recorded. -/
theorem issue_and_record_alone {row : User} {user : UserObject} (stays : Stays owner)
    (current : Current before row user) (owned : owner before row.id) (requestMeta : RequestMeta)
    (deviceInfo : Option DeviceInfo) :
    (do
      let tokens ← issueTokenPair app user
      saveLoginHistory user.id requestMeta deviceInfo
      return tokens : Action (TokenData Token)).Alone (alone unlisted tid) (MintsFor app owner) before := by
  apply Alone.bind (issueTokenPair_alone stays current owned)
  · intro tokens issued minted
    apply Alone.bind (saveLoginHistory_alone user.id requestMeta deviceInfo)
    · rintro _ last ⟨_, same⟩ pair ⟨⟩
      obtain ⟨row, owned, minted⟩ := minted tokens rfl
      exact ⟨row, stays _ _ _ same owned, minted.undisturbed same⟩
    · rintro error last ⟨⟨⟩, _⟩
  · exact fun error middle holds => nofun

theorem loginUser_alone (data : UserLoginData) (requestMeta : RequestMeta)
    (deviceInfo : Option DeviceInfo) :
    (AuthService.loginUser app data requestMeta deviceInfo).Alone (alone unlisted tid)
      (MintsFor app ((Request.loginUser data requestMeta deviceInfo).IssuesFor app before)) before := by
  intro found read answered
  cases found with
  | none => exact nofun
  | some user =>
    obtain ⟨row, stored, rfl⟩ :=
      Option.map_eq_some_iff.mp (answers_selectUserByEmail (alone_answers answered)).symm
    simp only [done_bind]
    split
    · exact issue_and_record_alone (Request.stays app (.loginUser data requestMeta deviceInfo) before)
        (alone_current answered rfl rfl rfl) ⟨row, stored, rfl⟩ requestMeta deviceInfo
    · exact nofun

theorem refreshTokens_alone (token : Token) :
    (AuthService.refreshTokens app token).Alone (alone unlisted tid)
      (MintsFor app ((Request.refreshTokens token).IssuesFor app before)) before := by
  intro decodedAt _ _
  simp only [done_bind]
  split
  · exact nofun
  · exact nofun
  · next claims decoded =>
    split
    · exact nofun
    · next payload validated =>
      have subject : ∃ claims, app.jwt.verify token = some claims ∧ claims.sub = payload.sub :=
        ⟨claims, (PyJwt.decode_eq_ok.mp decoded).1, by rw [RefreshTokenPayload.modelValidate_eq_some validated]⟩
      intro entry _ _
      cases entry with
      | error error => exact nofun
      | ok entry =>
        simp only [attempt_ok, done_bind, pure_eq]
        split
        · exact nofun
        · intro found read answered
          cases found with
          | none => exact nofun
          | some user =>
            have current := alone_current answered rfl rfl rfl
            obtain ⟨row, stored, rfl⟩ :=
              Option.map_eq_some_iff.mp (answers_selectUserById (alone_answers answered)).symm
            rw [← Database.user?_id stored] at subject
            simp only [done_bind]
            split
            · intro now timed answered
              have kept := alone_db answered rfl
              intro reply revoked answered
              have kept := (alone_db answered rfl).trans kept
              cases reply with
              | error error => exact nofun
              | ok _ =>
                exact issueTokenPair_alone (Request.stays app (.refreshTokens token) before)
                  (current.frame (by rw [kept]) (by rw [kept])) subject
            · exact nofun

/-- The instance of the session, with its next version and the role read after the commit, agrees
with the row the commit left. -/
theorem logoutOthers_alone {user : UserObject} (stays : Stays owner)
    (found : before.db.user? user.id = some user.toUser) (owned : ∀ world, owner world user.id) :
    (AuthService.logoutOthers app user).Alone (alone unlisted tid) (MintsFor app owner) before := by
  intro reply bumped answered
  cases reply with
  | error error => exact nofun
  | ok _ =>
    obtain ⟨change, described, tables⟩ := Database.writeAll_userUpdate (alone_effect answered).db
    have stored : bumped.db.user? user.id = some (change user.toUser) := by
      rw [Database.user?, tables, lookup_amend_self described.id]
      exact congrArg (Option.map change) found
    intro reply read answered
    have row := answers_selectUserById (alone_answers answered)
    rw [stored] at row
    subst row
    have kept := alone_db answered rfl
    refine @issueTokenPair_alone Token app tid read owner (change user.toUser) _ stays ?_
      (described.id user.toUser ▸ owned read)
    constructor
    · rw [kept, described.id]
      exact stored
    · exact (described.id user.toUser).symm
    · rw [described.tokenVersion]
      exact (changed_getD _ _).symm
    · rw [described.isSuperuser]
      exact (changed_getD _ user.isSuperuser).symm
    · rw [kept]
      rfl

/-- The outcome is an exception, no row, or an instance that agrees with the row the profile is linked to. -/
def Resolves (profile : YandexIdUserData) (outcome : Except Exn (Option UserObject)) (after : World) : Prop :=
  ∀ user, outcome = .ok (some user) → ∃ row, after.db.linkedUser? YANDEX profile.id = some row ∧
    Current after row user

/-- A committed link stands for its user. -/
theorem Database.writeAll_links {db next : Database} {defaults : ModelDefaults} {now : Time} {flushed : List Write}
    {account : NewOAuthAccount}
    (written : db.writeAll defaults now (flushed ++ [.insertOAuthAccount account]) = .ok next) :
    next.account? account.provider account.providerUserId = some (account.row defaults) := by
  induction flushed generalizing db with
  | nil =>
    have member : account.row defaults ∈ next.oauthAccounts := by
      rw [Database.writeAll_insertOAuthAccount written]
      exact List.mem_append_right _ List.mem_cons_self
    exact lookup_of_mem next.consistent.oauthKeys member
  | cons write flushed ih =>
    rw [List.cons_append, Database.writeAll] at written
    split at written
    · cases written
    · exact ih written

/-- The refresh after the commit reads the row as it is, with the role if it was loaded before. -/
theorem attachOauthAccount_alone (flushed : List Write) (user : UserObject)
    (provider providerUserId : String) :
    (attachOauthAccount app flushed user provider providerUserId).Alone (alone unlisted tid)
      (fun outcome after => ∀ refreshed, outcome = .ok refreshed →
        refreshed.id = user.id ∧ after.db.user? user.id = some refreshed.toUser ∧
          after.db.linkedUser? provider providerUserId = some refreshed.toUser ∧
          (user.role ≠ .noValue → Current after refreshed.toUser refreshed)) before := by
  refine fun id _ _ => alone_accept (fun _ => ?_) fun _ => nofun
  intro reply linked committed
  cases reply with
  | ok _ =>
    have account := Database.writeAll_links (alone_effect committed).db
    intro reply read answered
    have row := answers_refreshUser (alone_answers answered)
    cases reply with
    | none =>
      intro refreshed same
      cases same
    | some found =>
      rintro refreshed ⟨⟩
      obtain ⟨stored, present, rfl⟩ := Option.map_eq_some_iff.mp row.symm
      refine ⟨Database.user?_id present, ?_, ?_, fun loaded => ?_⟩
      · rw [alone_db answered rfl]
        exact present
      · rw [alone_db answered rfl, Database.linkedUser?, account]
        exact present
      · exact alone_current answered rfl (by simpa [joinsRole] using loaded) rfl
  | error error =>
    cases error with
    | integrity =>
      intro _ _ _ refreshed same
      cases same
    | staleData | data =>
      intro refreshed same
      cases same

theorem resolveUser_alone (profile : YandexIdUserData) :
    (resolveUser app profile).Alone (alone unlisted tid) (Resolves profile) before := by
  refine fun linked read answered => alone_accept (fun _ => ?_) fun _ => nofun
  cases linked with
  | some linked =>
    obtain ⟨row, stored, rfl⟩ :=
      Option.map_eq_some_iff.mp (answers_selectLinkedUser (alone_answers answered)).symm
    rintro user ⟨⟩
    refine ⟨row, ?_, alone_current answered rfl rfl rfl⟩
    rw [alone_db answered rfl]
    exact stored
  | none =>
    intro found read answered
    cases found with
    | some existing =>
      have loaded : existing.role ≠ .noValue := by
        rw [(alone_current answered rfl rfl rfl).role]
        exact nofun
      simp only [done_bind]
      apply Alone.bind (attachOauthAccount_alone [] existing _ _)
      · rintro refreshed after attached user ⟨⟩
        obtain ⟨_, _, linked, current⟩ := attached refreshed rfl
        exact ⟨_, linked, current loaded⟩
      · exact fun _ _ _ => nofun
    | none =>
      simp only [done_bind]
      apply Alone.bind alone_any
      · refine fun role _ _ password _ _ salt _ _ id _ _ => alone_accept (fun _ => ?_) fun _ => nofun
        intro reply flushed _
        cases reply with
        | error error => exact nofun
        | ok _ =>
          simp only [attempt_ok, done_bind]
          apply Alone.bind (attachOauthAccount_alone _ _ _ _)
          · intro created attached holds reply read answered
            obtain ⟨same, stored, linked, _⟩ := holds created rfl
            have row := answers_selectUserById (alone_answers answered)
            rw [same, stored] at row
            subst row
            rintro user ⟨⟩
            refine ⟨_, ?_, alone_current answered rfl rfl rfl⟩
            rw [alone_db answered rfl]
            exact linked
          · exact fun _ _ _ => nofun
      · exact fun _ _ _ => nofun

theorem authorize_alone (start : World) (code : String) (state : UUID) (requestMeta : RequestMeta)
    (deviceInfo : DeviceInfo) :
    (authorize app code state requestMeta deviceInfo).Alone (alone unlisted tid)
      (MintsFor app ((Request.authorize code state requestMeta deviceInfo).IssuesFor app start)) before := by
  apply Alone.bind alone_any
  · intro codeVerifier _ _
    apply Alone.bind alone_any
    · intro tokenData _ _
      apply Alone.bind alone_any
      · intro profile _ _
        apply Alone.bind (resolveUser_alone profile)
        · intro resolved after resolves
          cases resolved with
          | none => exact fun _ _ _ => nofun
          | some user =>
            obtain ⟨row, linked, current⟩ := resolves user rfl
            have stays := Request.stays app (.authorize code state requestMeta deviceInfo) start
            exact issue_and_record_alone stays current ⟨profile.id, row, linked, rfl⟩ requestMeta (some deviceInfo)
        · exact fun _ _ _ => nofun
      · exact fun _ _ _ => nofun
    · exact fun _ _ _ => nofun
  · exact fun _ _ _ => nofun

/-- `get_token_user` returns the row as it is, of the subject of the token. -/
theorem getTokenUser_alone {fresh : World → UUID4 → Bool} (token : Token) :
    (getTokenUser app token).Alone (alone fresh tid)
      (fun outcome after => ∀ user, outcome = .ok user →
        after.db.user? user.id = some user.toUser ∧
          ∃ claims, app.jwt.verify token = some claims ∧ claims.sub = user.id) before := by
  apply Alone.bind (q := fun outcome _ => ∀ payload, outcome = .ok payload →
    ∃ claims, app.jwt.verify token = some claims ∧ claims.sub = payload.sub)
  · intro time _ _
    simp only [done_bind]
    split
    · exact nofun
    · exact nofun
    · next claims decoded =>
      split
      · exact nofun
      · next payload validated =>
        rintro _ ⟨⟩
        exact ⟨claims, (PyJwt.decode_eq_ok.mp decoded).1,
          (AccessTokenPayload.modelValidate_eq_some validated).1.symm⟩
  · intro payload _ subject found read answered
    cases found with
    | none => exact nofun
    | some user =>
      simp only [done_bind]
      split
      · rintro _ ⟨⟩
        have made := @answers_userRead _ _ _ ⟨.getUser payload.sub, some user⟩
          (alone_answers answered) user rfl
        obtain ⟨row, stored, rfl⟩ := Option.map_eq_some_iff.mp (answers_getUser (alone_answers answered)).symm
        obtain ⟨claims, verified, same⟩ := subject payload rfl
        refine ⟨?_, claims, verified, same.trans (Database.user?_id stored).symm⟩
        rw [alone_db answered rfl]
        exact made.1
      · exact nofun
  · exact fun _ _ _ => nofun

/-- The request returns no pair, or a pair minted for the row of an owner. -/
def Mints (app : App Token) (owner : World → UUID4 → Prop) (outcome : Except Exn (Outcome Token)) (after : World) :
    Prop :=
  ∀ pair, outcome = .ok (.tokens pair) → ∃ row, owner after row.id ∧ Minted app after row pair

theorem pair_alone {program : Action (TokenData Token)}
    (mints : program.Alone (alone unlisted tid) (MintsFor app owner) before) :
    (do return Outcome.tokens (← program)).Alone (alone unlisted tid) (Mints app owner) before := by
  apply Alone.bind mints
  · rintro tokens after minted _ ⟨⟩
    exact minted tokens rfl
  · exact fun _ _ _ => nofun

theorem other_alone {α : Type} {program : Action α} {result : α → Outcome Token}
    (other : ∀ value pair, result value ≠ .tokens pair) :
    (do return result (← program)).Alone (alone unlisted tid) (Mints app owner) before := by
  apply Alone.bind alone_any
  · intro value after _ pair same
    exact absurd (Except.ok.inj same) (other value pair)
  · exact fun _ _ _ => nofun

theorem session_alone {program : Action (Outcome Token)}
    (stays : Stays owner) (mints : program.Alone (alone unlisted tid) (Mints app owner) before) :
    (withSession program).Alone (alone unlisted tid) (Mints app owner) before := by
  apply withSession_alone mints
  intro outcome middle last minted closed pair same
  obtain ⟨row, owned, minted⟩ := minted pair same
  have same := alone_undisturbed closed rfl rfl
  exact ⟨row, stays _ _ _ same owned, minted.undisturbed same⟩

theorem RoleOperation.alone (operation : RoleOperation) :
    (operation.program app).Alone (AuthApi.alone unlisted tid) (Mints app owner)
      before := by
  cases operation <;> exact other_alone nofun

/-- Whatever request runs alone, a pair it returns is minted for the row of its user as the run left it. -/
theorem Request.mints (request : Request Token) :
    (request.program app).Alone (alone unlisted tid) (Mints app (request.IssuesFor app before)) before := by
  have stays := request.stays app before
  cases request with
  | loginUser data requestMeta deviceInfo =>
    exact session_alone stays (pair_alone (loginUser_alone data requestMeta deviceInfo))
  | refreshTokens refreshToken => exact session_alone stays (pair_alone (refreshTokens_alone refreshToken))
  | logout refreshToken => exact session_alone stays (other_alone nofun)
  | createUser data => exact session_alone stays (other_alone nofun)
  | createSuperuser email password => exact session_alone stays (other_alone nofun)
  | getOrCreateDefaultRole => exact other_alone nofun
  | userEndpoint accessToken operation =>
    apply session_alone stays
    apply Alone.bind (getTokenUser_alone accessToken)
    · intro user after found
      cases operation with
      | logoutOthers =>
        obtain ⟨stored, subject⟩ := found user rfl
        exact pair_alone (logoutOthers_alone stays stored fun _ => subject)
      | checkAccess => exact nofun
      | _ => exact other_alone nofun
    · exact fun _ _ _ => nofun
  | role operation => exact session_alone stays operation.alone
  | roleEndpoint accessToken operation =>
    apply Alone.bind alone_any
    · exact fun _ _ _ => session_alone stays operation.alone
    · exact fun _ _ _ => nofun
  | authorize code state requestMeta deviceInfo =>
    exact session_alone stays (pair_alone (authorize_alone before code state requestMeta deviceInfo))
  | oauthLogin http => exact other_alone nofun
  | confirmLoginYandex http => exact other_alone nofun

end Programs

end AuthApi
