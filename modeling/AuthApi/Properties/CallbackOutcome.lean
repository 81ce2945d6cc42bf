import AuthApi.Properties.RoleAssignment
import AuthApi.Run.Callbacks

/-! # How a callback ends

A callback logs in the user its provider id is linked to, or ends with a domain error. What else can
escape is a conflict at the flush of a new user, which no handler covers, and the replies of the
provider that no handler covers.
-/

namespace AuthApi

open Interleaving Interleaving.Program Relational YandexIdService

section Programs

/-- What precedes the link in the transaction of a callback: nothing, or the new user. -/
inductive Pending : List Write → Prop
  | nothing : Pending []
  | user (user : NewUser) : Pending [.insertUser user]

/-- The provider id belongs to this user id: the request found the link, or committed it. -/
inductive ResolvedAs (trace : Trace Reply) (providerUserId : String) (userId : UUID4) : Prop
  | found (user : UserObject) (same : user.id = userId)
      (seen : ⟨.selectLinkedUser YANDEX providerUserId, some user⟩ ∈ trace)
  | linked (pending : List Write) (shape : Pending pending) (id ownerId : UUID4) (joined : Bool)
      (refreshed : UserObject) (same : refreshed.id = userId)
      (committed : ⟨.commit .request (pending ++
        [.insertOAuthAccount ⟨id, YANDEX, providerUserId, ownerId⟩]), .ok ()⟩ ∈ trace)
      (seen : ⟨.refreshUser ownerId joined, some refreshed⟩ ∈ trace)

/-- The request has read this user, or committed it as a new one. -/
inductive Known (trace : Trace Reply) (userId : UUID4) : Prop
  | read (user : UserObject) (same : user.id = userId) (saw : SawUser trace user)
  | created (user : NewUser) (account : NewOAuthAccount) (same : user.id = userId)
      (committed : ⟨.commit .request [.insertUser user, .insertOAuthAccount account], .ok ()⟩ ∈ trace)

/-- A row the request knew was gone when it was read again. -/
inductive Vanished (trace : Trace Reply) : Prop
  | refresh (userId : UUID4) (joined : Bool) (rest : Trace Reply) (known : Known rest userId)
      (gone : ⟨.refreshUser userId joined, none⟩ :: rest <:+ trace)
  | select (userId : UUID4) (joined : Bool) (rest : Trace Reply) (known : Known rest userId)
      (gone : ⟨.selectUserById userId joined, none⟩ :: rest <:+ trace)

/-- Replies of the database that a callback does not handle. -/
inductive Unhandled (trace : Trace Reply) : Prop
  | defaultRole (absent : ⟨.selectRoleByTitle DEFAULT_ROLE_TITLE, none⟩ ∈ trace)
  | flush (user : NewUser) (roleId : UUID4) (holds : user.roleId = some roleId)
      (saw : SawDefaultRole trace roleId) (error : DbError)
      (refused : ⟨.flush [.insertUser user], .error error⟩ ∈ trace)
  | stale (pending : List Write) (shape : Pending pending) (account : NewOAuthAccount) (error : DbError)
      (other : error ≠ .integrity)
      (refused : ⟨.commit .request (pending ++ [.insertOAuthAccount account]), .error error⟩ ∈ trace)
  | vanished (gone : Vanished trace)

variable {Token : Type} {app : App Token} {trace later : Trace Reply}

theorem ResolvedAs.mono {providerUserId : String} {userId : UUID4}
    (resolved : ResolvedAs trace providerUserId userId) (grown : trace <:+ later) :
    ResolvedAs later providerUserId userId := by
  cases resolved with
  | found user same seen => exact .found user same (grown.subset seen)
  | linked pending shape id ownerId joined refreshed same committed seen =>
    exact .linked pending shape id ownerId joined refreshed same (grown.subset committed)
      (grown.subset seen)

theorem Vanished.mono (gone : Vanished trace) (grown : trace <:+ later) : Vanished later := by
  cases gone with
  | refresh userId joined rest known gone => exact .refresh userId joined rest known (gone.trans grown)
  | select userId joined rest known gone => exact .select userId joined rest known (gone.trans grown)

theorem Unhandled.mono (unhandled : Unhandled trace) (grown : trace <:+ later) : Unhandled later := by
  cases unhandled with
  | defaultRole absent => exact .defaultRole (grown.subset absent)
  | flush user roleId holds saw error refused =>
    exact .flush user roleId holds (saw.mono grown) error (grown.subset refused)
  | stale pending shape account error other refused =>
    exact .stale pending shape account error other (grown.subset refused)
  | vanished gone => exact .vanished (gone.mono grown)

/-- The link is committed and the user read again, or the failure is one of those listed. -/
theorem AttachEnds.links {pending : List Write} (shape : Pending pending) {user : UserObject}
    {providerUserId : String} {outcome : Except Exn UserObject}
    (known : ∀ id, Known (⟨.commit .request (pending ++
      [.insertOAuthAccount ⟨id, YANDEX, providerUserId, user.id⟩]), .ok ()⟩ :: ⟨.uuid4, id⟩ :: trace) user.id)
    (ends : AttachEnds app pending user YANDEX providerUserId trace later outcome) :
    match outcome with
      | .ok refreshed => ResolvedAs later providerUserId refreshed.id
      | .error error => error.isYandexError = true ∨ Unhandled later ∨
          app.fitsIndex providerUserId = false ∧ error = .dbError .data := by
  cases ends with
  | unstored id unfit => exact .inr (.inr ⟨unfit, rfl⟩)
  | linked id refreshed =>
    exact .linked pending shape id user.id _ refreshed rfl (by simp) List.mem_cons_self
  | vanished id => exact .inr (.inl (.vanished (.refresh _ _ _ (known id) (List.suffix_refl _))))
  | conflict id detail => exact .inl rfl
  | stale id fault other => exact .inr (.inl (.stale pending shape _ fault other List.mem_cons_self))

/-- A new user is known from its insertion. -/
theorem known_added (user : NewUser) (middle : Trace Reply) (providerUserId : String) (id : UUID4) :
    Known (⟨.commit .request ([.insertUser user] ++
      [.insertOAuthAccount ⟨id, YANDEX, providerUserId, user.id⟩]), .ok ()⟩ :: ⟨.uuid4, id⟩ :: middle)
        user.id :=
  .created _ _ rfl List.mem_cons_self

theorem ResolveEnds.resolves {profile : YandexIdUserData} {outcome : Except Exn (Option UserObject)}
    (ends : ResolveEnds app profile trace later outcome) :
    match outcome with
      | .ok (some user) => ResolvedAs later profile.id user.id
      | .ok none => Unhandled later
      | .error error => error.isYandexError = true ∨ Unhandled later ∨
          app.storesProfile profile = false ∧ error = .dbError .data := by
  have failed {pending : List Write} (shape : Pending pending) {user : UserObject} {middle : Trace Reply}
      {error : Exn}
      (known : ∀ id, Known (⟨.commit .request (pending ++
        [.insertOAuthAccount ⟨id, YANDEX, profile.id, user.id⟩]), .ok ()⟩ :: ⟨.uuid4, id⟩ :: middle) user.id)
      (ends : AttachEnds app pending user YANDEX profile.id middle later (.error error)) :
      error.isYandexError = true ∨ Unhandled later ∨ app.storesProfile profile = false ∧ error = .dbError .data :=
    (ends.links shape known).imp_right (Or.imp_right (And.imp_left fun unfit =>
      App.storesProfile_of_id (by simp [App.storesKey, unfit])))
  have read (user : UserObject) (id : UUID4) : Known (⟨.commit .request
      ([] ++ [.insertOAuthAccount ⟨id, YANDEX, profile.id, user.id⟩]), .ok ()⟩ :: ⟨.uuid4, id⟩ ::
        ⟨.selectUserByEmail profile.defaultEmail true, some user⟩ ::
          ⟨.selectLinkedUser YANDEX profile.id, none⟩ :: trace) user.id :=
    .read user rfl ⟨⟨.selectUserByEmail profile.defaultEmail true, some user⟩, by simp, rfl⟩
  cases ends with
  | found user => exact .found user rfl List.mem_cons_self
  | linked user refreshed _ attached => exact attached.links .nothing (read user)
  | unstored _ grown unfit => exact .inr (.inr ⟨unfit, rfl⟩)
  | unlinked user _ error ends => exact failed .nothing (read user) ends
  | unassigned _ fault grown absent => exact .inr (.inl (.defaultRole absent))
  | refused user roleId rest fault grown holds saw =>
    exact .inr (.inl (.flush user roleId holds (saw.mono (List.suffix_cons _ _)) fault List.mem_cons_self))
  | failed user middle _ error grown ends =>
    exact failed (.user user) (known_added user middle profile.id) ends
  | added user middle rest created stored grown attached =>
    exact (attached.links (.user user) (known_added user middle profile.id)).mono (List.suffix_cons _ _)
  | vanished user middle rest created grown attached =>
    exact .vanished (.select _ _ _ (.read created rfl attached.saw.1) (List.suffix_refl _))

/-- The ends of a callback. -/
def CallbackEnds (app : App Token) (trace : Trace Reply) :
    Except Exn (TokenData Token) → Prop
  | .ok pair => ∃ profile user, SawProfile app trace profile ∧
      ResolvedAs trace profile.id (UserObject.toUser user).id ∧ IssuedFor app trace user pair
  | .error error => error.isYandexError = true ∨ ProviderFault app trace error ∨
      (∃ detail, error = .valueError detail) ∨ Unhandled trace

theorem authorize_ends (code : String) (state : UUID) (requestMeta : RequestMeta)
    (deviceInfo : DeviceInfo) :
    (authorize app code state requestMeta deviceInfo).Along anyCall (CallbackEnds app) trace := by
  refine Along.bind (consumeCachedState_along state trivial) ?_ fun _ _ ends => .inl ends.2
  rintro codeVerifier later _
  refine Along.bind (exchangeCode_along code codeVerifier deviceInfo trivial) ?_ ?_
  rotate_left
  · exact fun error last ends => ends.2.imp_right .inl
  rintro tokenData later ⟨_, exchange, member, read⟩
  refine Along.bind (fetchUserInfo_along tokenData.accessToken fun _ _ _ _ => trivial) ?_ ?_
  rotate_left
  · rintro error last ⟨grown, yandex | unreadable | ⟨other, rfl⟩⟩
    · exact .inl yandex
    · exact .inr (.inl (.inl unreadable))
    · exact .inr (.inl (.inr (.inl ⟨⟨exchange, grown.subset member, tokenData, read, other⟩, rfl⟩)))
  rintro profile later ⟨_, fetched⟩
  refine Along.bind (resolveUser_ends profile) ?_ ?_
  rotate_left
  · rintro error last ends
    obtain yandex | unhandled | ⟨unfit, same⟩ := ends.resolves
    · exact .inl yandex
    · exact .inr (.inr (.inr unhandled))
    · exact .inr (.inl (.inr (.inr ⟨⟨profile, fetched.mono ends.grown, unfit⟩, same⟩)))
  rintro resolved later ends
  have grown := ends.grown
  have resolves := ends.resolves
  cases resolved with
  | none => exact ⟨trivial, fun _ => .inr (.inr (.inr (resolves.mono (List.suffix_cons _ _))))⟩
  | some user =>
    refine Along.bind (issueTokenPair_along (fun _ => trivial) (fun _ => trivial) user) ?_ ?_
    · rintro pair last ⟨more, issued⟩
      refine Along.bind (saveLoginHistory_along (fun _ => trivial) (fun _ => trivial)
        (fun _ _ => trivial) _ _ _) ?_ ?_
      · rintro _ final ⟨rest, _⟩
        exact ⟨profile, user, fetched.mono ((grown.trans more).trans rest),
          resolves.mono (more.trans rest), issued.mono rest⟩
      · rintro error final ⟨_, ⟨⟩⟩
    · rintro error last ⟨_, failed⟩
      exact .inr (.inr (.inl (resolveRoleClaims_error failed)))

/-- What is claimed of an `authorize` request at its end. -/
def Request.callbackEnds (app : App Token) (request : Request Token) (trace : Trace Reply)
    (outcome : Except Exn (Outcome Token)) : Prop :=
  request.isAuthorize = true → ∃ ended : Except Exn (TokenData Token),
    CallbackEnds app trace ended ∧ outcome = ended.map .tokens

private theorem CallbackEnds.close {outcome : Except Exn (TokenData Token)}
    (ends : CallbackEnds app trace outcome) : CallbackEnds app (⟨.close, ()⟩ :: trace) outcome := by
  have grown := List.suffix_cons (⟨.close, ()⟩ : Exchange Reply) trace
  cases outcome with
  | ok pair =>
    obtain ⟨profile, user, fetched, resolved, issued⟩ := ends
    exact ⟨profile, user, fetched.mono grown, resolved.mono grown, issued.mono grown⟩
  | error error =>
    obtain yandex | fault | value | unhandled := ends
    · exact .inl yandex
    · exact .inr (.inl (fault.mono grown))
    · exact .inr (.inr (.inl value))
    · exact .inr (.inr (.inr (unhandled.mono grown)))

theorem Request.callback_ends (app : App Token) (request : Request Token) :
    (request.program app).Along anyCall (request.callbackEnds app) [] := by
  cases request with
  | authorize code state requestMeta deviceInfo =>
    refine along_withSession (fun _ => trivial)
      ((authorize_ends code state requestMeta deviceInfo).bind ?_ ?_)
    · exact fun pair later ends _ => ⟨.ok pair, ends.close, rfl⟩
    · exact fun error later ends _ => ⟨.error error, ends.close, rfl⟩
  | _ => exact along_any.mono (fun _ _ _ => trivial) fun _ _ _ => nofun

end Programs

section Runs

/-- The rows a flush would insert. -/
def Call.flushedUsers : Call → List NewUser
  | .flush writes => writes.filterMap fun
      | .insertUser user => some user
      | _ => none
  | _ => []

/-- No new user is flushed whose email or id is taken, and nothing the provider sends is beyond what
a callback can read, send back or store. -/
def undisturbed {Token : Type} (app : App Token) : Condition Tid Reply World := fun _ event =>
  (∀ user ∈ event.request.flushedUsers, user.email ∉ event.before.db.users.map User.email ∧
    user.id ∉ event.before.db.users.map User.id) ∧
  unreadableBody event.exchange = none ∧
  (tokenDataRead app event.exchange).all (fun data => isAscii data.accessToken) = true ∧
  (profileRead app event.exchange).all app.storesProfile = true

instance {Token : Type} (app : App Token) (past : List ServiceEvent) (event : ServiceEvent) :
    Decidable (undisturbed app past event) := inferInstanceAs (Decidable (_ ∧ _))

variable {Token : Type} {app : App Token} {condition : Condition Tid Reply World} {world : World}
  {requests : Tid → Request Token} {past : List ServiceEvent} {tid : Tid} {defaultId : UUID4}

theorem known_present (lawful : ServiceLawful app condition world requests past) {userId : UUID4}
    (known : Known (traceOf past tid) userId) :
    ∃ user, (stateAfter world past).db.user? userId = some user := by
  cases known with
  | read user same saw =>
    obtain ⟨older, suffix, found⟩ := sawUser_state lawful saw
    obtain ⟨later, here, _⟩ := flags_kept lawful suffix _ _ found
    exact ⟨later, same ▸ here⟩
  | created user account same committed =>
    obtain ⟨newer, event, older, rfl, _, shape, _, _⟩ := seen_event lawful committed
    have written := event_db lawful.event
    rw [committed_of_exchange shape] at written
    have member : user.row (eventDefaults event) ∈ event.after.db.users := by
      rw [Database.writeAll_newLink written]
      exact List.mem_append_right _ List.mem_cons_self
    obtain ⟨later, here, _⟩ := flags_kept lawful (List.suffix_append newer (event :: older)) _ _
      (Database.user?_of_mem member)
    exact ⟨later, same ▸ here⟩

theorem not_vanished (lawful : ServiceLawful app condition world requests past) :
    ¬ Vanished (traceOf past tid) := by
  rintro (⟨userId, joined, rest, known, gone⟩ | ⟨userId, joined, rest, known, gone⟩)
  · obtain ⟨event, older, suffix, rfl, same, rfl⟩ := event_of_trace_suffix gone
    obtain ⟨user, found⟩ := known_present (lawful.suffix suffix).2 known
    have reply := answers_refreshUser (event_answers (lawful.suffix suffix).1 same)
    rw [found] at reply
    cases reply
  · obtain ⟨event, older, suffix, rfl, same, rfl⟩ := event_of_trace_suffix gone
    obtain ⟨user, found⟩ := known_present (lawful.suffix suffix).2 known
    have reply := answers_selectUserById (event_answers (lawful.suffix suffix).1 same)
    rw [found] at reply
    cases reply

/-- An insertion never misses its row. -/
theorem Pending.refused {pending : List Write} (shape : Pending pending) {account : NewOAuthAccount}
    {db : Database} {defaults : ModelDefaults} {now : Time} {error : DbError}
    (failed : db.writeAll defaults now (pending ++ [.insertOAuthAccount account]) = .error error) :
    error = .integrity := by
  have single (db : Database)
      (failed : db.writeAll defaults now [.insertOAuthAccount account] = .error error) : error = .integrity := by
    simp only [Database.writeAll] at failed
    split at failed
    · next refused =>
      cases failed
      exact Database.write_error rfl refused
    · cases failed
  cases shape with
  | nothing => exact single db failed
  | user user =>
    rw [List.cons_append, List.nil_append, Database.writeAll] at failed
    split at failed
    · next refused =>
      cases failed
      exact Database.write_error rfl refused
    · next middle first => exact single middle failed

/-- A resolved user is the one its provider id is linked to, from then on. -/
theorem resolved_linked (lawful : ServiceLawful app condition world requests past)
    {providerUserId : String} {userId : UUID4}
    (resolved : ResolvedAs (traceOf past tid) providerUserId userId) :
    ∃ user, (stateAfter world past).db.linkedUser? YANDEX providerUserId = some user ∧
      user.id = userId := by
  suffices linked : ∃ account ∈ (stateAfter world past).db.oauthAccounts,
      account.key = (YANDEX, providerUserId) ∧ account.userId = userId by
    obtain ⟨account, member, key, rfl⟩ := linked
    obtain ⟨user, found, same⟩ := Database.linkedUser?_of_mem member
    obtain ⟨provider, subject⟩ := Prod.mk.inj key
    rw [provider, subject] at found
    exact ⟨user, found, same⟩
  cases resolved with
  | found user same seen =>
    obtain ⟨older, _, suffix, answered⟩ := seen_answer lawful seen
    obtain ⟨row, linked, rfl⟩ := Option.map_eq_some_iff.mp (answers_selectLinkedUser answered).symm
    obtain ⟨account, member, key, owner⟩ := Database.linkedUser?_account linked
    exact ⟨account, (accounts_kept lawful suffix).subset member, key, owner.trans same⟩
  | linked pending shape id ownerId joined refreshed same committed seen =>
    obtain ⟨_, _, _, answered⟩ := seen_answer lawful seen
    obtain ⟨row, read, rfl⟩ := Option.map_eq_some_iff.mp (answers_refreshUser answered).symm
    obtain ⟨newer, event, older, rfl, _, exchanged, _, _⟩ := seen_event lawful committed
    have written := event_db lawful.event
    rw [committed_of_exchange exchanged] at written
    have member : NewOAuthAccount.row ⟨id, YANDEX, providerUserId, ownerId⟩ (eventDefaults event) ∈
        event.after.db.oauthAccounts := by
      cases shape with
      | nothing =>
        rw [Database.writeAll_insertOAuthAccount written]
        exact List.mem_append_right _ List.mem_cons_self
      | user user =>
        rw [Database.writeAll_newLink written]
        exact List.mem_append_right _ List.mem_cons_self
    refine ⟨_, (accounts_kept lawful (List.suffix_append newer (event :: older))).subset member, rfl, ?_⟩
    exact (Database.user?_id read).symm.trans same

/-- The request returned tokens of the user its provider id is linked to. -/
structure LogsIn (app : App Token) (config : ServiceConfig Token) (tid : Tid)
    (pair : TokenData Token) : Prop where
  linked : ∃ profile user, SawProfile app (traceOf config.past tid) profile ∧
    config.now.db.linkedUser? YANDEX profile.id = some user ∧
    ∀ token ∈ [pair.access, pair.refresh],
      ∃ claims, app.jwt.verify token = some claims ∧ claims.sub = user.id

end Runs

end AuthApi
