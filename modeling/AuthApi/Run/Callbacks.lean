import AuthApi.Run.DefaultRole

/-! # What a callback writes

The users and links a Yandex callback leaves: an event of a callback changes these tables only by
the commit of a link, alone or together with the new user it belongs to (`CallbackStep`), and
`authorize` attempts that commit at most once, after everything that can fail with a domain error.
-/

namespace AuthApi

open Interleaving Interleaving.Program Relational YandexIdService

def Request.isAuthorize {Token : Type} : Request Token → Bool
  | .authorize .. => true
  | _ => false

theorem Request.isCallback_of_authorize {Token : Type} {request : Request Token}
    (authorizes : request.isAuthorize = true) : request.isCallback = true := by
  cases request <;> first | rfl | cases authorizes

/-- The users and links before and after an event of a callback. -/
inductive CallbackStep {Token : Type} (app : App Token) (trace : Trace Reply) (writes : List Write)
    (defaults : ModelDefaults) (users : List User) (accounts : List OAuthAccount) :
    List User → List OAuthAccount → Prop
  | same : CallbackStep app trace writes defaults users accounts users accounts
  | link (profile : YandexIdUserData) (user : UserObject) (id : UUID4)
      (fetched : SawProfile app trace profile)
      (found : ⟨.selectUserByEmail profile.defaultEmail true, some user⟩ ∈ trace)
      (shape : writes = [.insertOAuthAccount ⟨id, YANDEX, profile.id, user.id⟩]) :
      CallbackStep app trace writes defaults users accounts users
        (accounts ++ [NewOAuthAccount.row ⟨id, YANDEX, profile.id, user.id⟩ defaults])
  | newLink (profile : YandexIdUserData) (user : NewUser) (roleId id : UUID4)
      (fetched : SawProfile app trace profile) (plain : user.isSuperuser = false)
      (email : user.email = profile.defaultEmail) (holds : user.roleId = some roleId)
      (seen : SawDefaultRole trace roleId)
      (shape : writes =
        [.insertUser user, .insertOAuthAccount ⟨id, YANDEX, profile.id, user.id⟩]) :
      CallbackStep app trace writes defaults users accounts (users ++ [user.row defaults])
        (accounts ++ [NewOAuthAccount.row ⟨id, YANDEX, profile.id, user.id⟩ defaults])

section Events

variable {Token : Type} {app : App Token} {condition : Condition Tid Reply World} {world : World}
  {requests : Tid → Request Token} {older : List ServiceEvent} {event : ServiceEvent}

/-- Callbacks change no user. -/
theorem UserChange.not_callback {request : Request Token} {trace : Trace Reply} {user changed : User}
    (change : UserChange request trace user changed) : request.isCallback = false := by
  cases callback : request.isCallback with
  | false => rfl
  | true =>
    have none := Request.roleOperation?_of_callback callback
    cases change with
    | email _ _ requested => rw [requested] at callback; cases callback
    | password _ _ _ requested => rw [requested] at callback; cases callback
    | logoutOthers _ requested => rw [requested] at callback; cases callback
    | assign _ _ _ requested => rw [none] at requested; cases requested
    | strip _ requested => rw [none] at requested; cases requested
    | revoke _ _ requested => rw [none] at requested; cases requested

theorem callback_step
    (lawful : LawfulEvent answers condition (fun tid => Allowed app (requests tid)) world older
      event) (callback : (requests event.thread).isCallback = true) :
    CallbackStep app (traceOf older event.thread) (committed event) (eventDefaults event)
      event.before.db.users event.before.db.oauthAccounts event.after.db.users
      event.after.db.oauthAccounts := by
  have noRole := Request.roleOperation?_of_callback callback
  have written := event_db lawful
  obtain none | commits := event_commits lawful
  · rw [db_of_committed_nil lawful none]
    exact .same
  · generalize shape : committed event = writes at written commits ⊢
    cases commits with
    | defaultRole id absent => rw [Database.writeAll_insertRole written]; exact .same
    | loginHistory entry => rw [Database.writeAll_insertLoginHistory written]; exact .same
    | link profile user id _ fetched found =>
      rw [Database.writeAll_insertOAuthAccount written]
      exact .link profile user id fetched found rfl
    | newLink profile user roleId id _ fetched plain email holds seen =>
      rw [Database.writeAll_newLink written]
      exact .newLink profile user roleId id fetched plain email holds seen rfl
    | changeUser id user seen changed allowed =>
      rw [allowed.not_callback] at callback
      cases callback
    | createUser _ _ _ _ _ _ requested => rw [requested] at callback; cases callback
    | createSuperuser _ _ _ _ requested => rw [requested] at callback; cases callback
    | createRole role requested => rw [noRole] at requested; cases requested
    | removeRole _ _ _ _ requested => rw [noRole] at requested; cases requested
    | modifyRole _ _ _ _ _ requested => rw [noRole] at requested; cases requested

/-- No link is ever removed. -/
theorem accounts_kept {past : List ServiceEvent}
    (lawful : ServiceLawful app condition world requests past) (suffix : older <:+ past) :
    (stateAfter world older).db.oauthAccounts <+: (stateAfter world past).db.oauthAccounts := by
  refine Lawful.relates (r := fun first last => first.db.oauthAccounts <+: last.db.oauthAccounts)
    (fun _ => List.prefix_refl _) ?_ ?_ lawful suffix
  · intro first middle last left right
    exact List.IsPrefix.trans left right
  · intro _ event _ here
    have step := (rows_step here).accounts
    generalize event.after.db.oauthAccounts = accounts at step ⊢
    cases step with
    | same => exact List.prefix_refl _
    | insert account => exact List.prefix_append _ _

/-- A link finds its user. -/
theorem Database.linkedUser?_of_mem {db : Database} {account : OAuthAccount}
    (member : account ∈ db.oauthAccounts) :
    ∃ user, db.linkedUser? account.provider account.providerUserId = some user ∧
      user.id = account.userId := by
  have found := lookup_of_mem db.consistent.oauthKeys member
  obtain ⟨user, owner⟩ :=
    Option.isSome_iff_exists.mp (lookup_isSome.mpr (db.consistent.oauthUsers account member))
  refine ⟨user, ?_, lookup_key owner⟩
  rw [Database.linkedUser?, Database.account?, show (account.provider, account.providerUserId) =
    account.key from rfl, found]
  exact owner

theorem Database.linkedUser?_account {db : Database} {provider providerUserId : String} {user : User}
    (linked : db.linkedUser? provider providerUserId = some user) :
    ∃ account ∈ db.oauthAccounts, account.key = (provider, providerUserId) ∧
      account.userId = user.id := by
  obtain ⟨account, found, owner⟩ := Option.bind_eq_some_iff.mp linked
  exact ⟨account, lookup_mem found, lookup_key found, (user?_id owner).symm⟩

end Events

def Write.isLink : Write → Bool
  | .insertOAuthAccount _ => true
  | _ => false

/-- A commit that contains a link. -/
def Call.links : Call → Bool
  | .commit _ writes => writes.any Write.isLink
  | _ => false

/-- The exchange committed a link. -/
def linked (exchange : Exchange Reply) : Bool :=
  (committedBy exchange.request exchange.reply).any Write.isLink

theorem links_of_linked {exchange : Exchange Reply} (committed : linked exchange = true) :
    exchange.request.links = true := by
  obtain ⟨request, reply⟩ := exchange
  cases request with
  | commit session writes =>
    cases reply with
    | ok _ => exact committed
    | error error => cases committed
  | _ => cases committed

/-- No link has been attempted yet. -/
def Unlinked (trace : Trace Reply) : Prop := ∀ exchange ∈ trace, exchange.request.links = false

theorem unlinked_cons {exchange : Exchange Reply} {trace : Trace Reply} :
    Unlinked (exchange :: trace) ↔ exchange.request.links = false ∧ Unlinked trace := by
  simp [Unlinked]

/-- At most one link is attempted. -/
def linksOnce (trace : Trace Reply) (call : Call) : Prop := call.links = true → Unlinked trace

/-- The errors after which nothing may be left behind. -/
def Exn.isRefusal (error : Exn) : Bool :=
  error.isYandexError || decide (error = .dbError .integrity)

/-- A refused callback has committed no link. -/
def RefusalsFree {α : Type} (trace : Trace Reply) (outcome : Except Exn α) : Prop :=
  ∀ error, outcome = .error error → error.isRefusal = true →
    ∀ exchange ∈ trace, linked exchange = false

section Programs

variable {Token : Type} {app : App Token} {trace : Trace Reply}

theorem Unlinked.linked {exchange : Exchange Reply} (unlinked : Unlinked trace)
    (member : exchange ∈ trace) : linked exchange = false := by
  cases committed : AuthApi.linked exchange with
  | false => rfl
  | true =>
    have attempted := links_of_linked committed
    rw [unlinked exchange member] at attempted
    cases attempted

theorem Unlinked.refusalsFree {α : Type} {outcome : Except Exn α} (unlinked : Unlinked trace) :
    RefusalsFree trace outcome := fun _ _ _ _ member => unlinked.linked member

/-- A part of a callback without a link keeps the trace unlinked. -/
theorem along_unlinked {α : Type} {program : Action α} {post : Trace Reply → Except Exn α → Prop}
    (along : program.Along (fun _ call => call.links = false) post trace)
    (unlinked : Unlinked trace) :
    program.Along linksOnce (fun later outcome => post later outcome ∧ Unlinked later) trace := by
  refine (along.keeps ?_ unlinked).mono ?_ fun _ _ ends => ends
  · exact fun later call reply plain before => unlinked_cons.mpr ⟨plain, before⟩
  · intro later call plain attempted
    rw [plain] at attempted
    cases attempted

/-- A part of a callback after its link ends without a refusal. -/
theorem along_after_link {α : Type} {program : Action α} {post : Trace Reply → Except Exn α → Prop}
    (along : program.Along (fun _ call => call.links = false) post trace)
    (other : ∀ later error, post later (.error error) → error.isRefusal = false) :
    program.Along linksOnce RefusalsFree trace := by
  refine along.mono ?_ ?_
  · intro later call plain attempted
    rw [plain] at attempted
    cases attempted
  · rintro later _ ends error rfl refusal
    rw [other later error ends] at refusal
    cases refusal

theorem linksOnce_of_silent {later : Trace Reply} {call : Call} (silent : call.isSilent = true) :
    linksOnce later call := by
  intro attempted
  cases call with
  | commit session writes => cases silent
  | _ => cases attempted

/-- A conflict is reported only when the link was not committed. -/
theorem attachOauthAccount_linksOnce (flushed : List Write) (user : UserObject)
    (providerUserId : String) (unlinked : Unlinked trace) :
    (attachOauthAccount app flushed user YANDEX providerUserId).Along linksOnce RefusalsFree trace := by
  have before (id : UUID4) : Unlinked (⟨.uuid4, id⟩ :: trace) := unlinked_cons.mpr ⟨rfl, unlinked⟩
  have failed (id : UUID4) (error : DbError) : ∀ exchange ∈ (⟨.commit .request (flushed ++
      [.insertOAuthAccount ⟨id, YANDEX, providerUserId, user.id⟩]), .error error⟩ ::
        ⟨.uuid4, id⟩ :: trace : Trace Reply), linked exchange = false := by
    intro exchange member
    rcases List.mem_cons.mp member with rfl | old
    · rfl
    · exact (before id).linked old
  apply (attachOauthAccount_along flushed user YANDEX providerUserId (fun _ _ => linksOnce_of_silent)
    fun id _ => before id).mono fun _ _ admitted => admitted
  intro later outcome ends error same refusal
  cases ends with
  | unstored id unfit => exact fun exchange => (before id).linked
  | linked id refreshed => cases same
  | vanished id =>
    cases same
    cases refusal
  | conflict id detail =>
    intro exchange member
    rcases List.mem_cons.mp member with rfl | old
    · rfl
    · exact failed id _ exchange old
  | stale id fault other => exact failed id _

theorem resolveUser_linksOnce (profile : YandexIdUserData) (unlinked : Unlinked trace) :
    (resolveUser app profile).Along linksOnce RefusalsFree trace := by
  refine ⟨nofun, fun linked => along_accept (fun _ => ?_) fun _ =>
    (unlinked_cons.mpr ⟨rfl, unlinked⟩).refusalsFree⟩
  cases linked with
  | some user => exact nofun
  | none =>
    refine ⟨nofun, fun found => ?_⟩
    have unlinked : Unlinked (⟨.selectUserByEmail profile.defaultEmail true, found⟩ ::
        ⟨.selectLinkedUser YANDEX profile.id, none⟩ :: trace) :=
      unlinked_cons.mpr ⟨rfl, unlinked_cons.mpr ⟨rfl, unlinked⟩⟩
    cases found with
    | some existing =>
      exact (attachOauthAccount_linksOnce [] existing profile.id unlinked).bind (fun _ _ _ => nofun)
        fun error later free other same => free other (by cases same; rfl)
    | none =>
      simp only [done_bind]
      refine Along.bind (along_unlinked (getOrCreateDefaultRole_along (fun _ => rfl) (fun _ => rfl)
        fun _ _ _ => rfl) unlinked) ?_ fun _ _ ends => ends.2.refusalsFree
      rintro role later ⟨_, unlinked⟩
      refine ⟨nofun, fun password => ⟨nofun, fun salt => ⟨nofun, fun id => ?_⟩⟩⟩
      have drawn : Unlinked (⟨.uuid4, id⟩ :: ⟨.salt, salt⟩ :: ⟨.uuid4, password⟩ :: later) := by
        simp only [unlinked_cons]
        exact ⟨rfl, rfl, rfl, unlinked⟩
      refine along_accept (fun _ => ⟨nofun, fun reply => ?_⟩) fun _ => drawn.refusalsFree
      have flushed (writes : List Write) (reply : Except DbError Unit) :
          Unlinked (⟨.flush writes, reply⟩ :: ⟨.uuid4, id⟩ :: ⟨.salt, salt⟩ :: ⟨.uuid4, password⟩ ::
            later) := unlinked_cons.mpr ⟨rfl, drawn⟩
      cases reply with
      | error error => exact (flushed _ _).refusalsFree
      | ok _ =>
        simp only [attempt_ok, done_bind]
        refine Along.bind (attachOauthAccount_linksOnce _ _ profile.id (flushed _ _)) ?_ ?_
        · intro created last _
          refine ⟨nofun, fun found => ?_⟩
          cases found <;> exact nofun
        · exact fun error later free other same => free other (by cases same; rfl)

theorem authorize_linksOnce (code : String) (state : UUID) (requestMeta : RequestMeta)
    (deviceInfo : DeviceInfo) :
    (authorize app code state requestMeta deviceInfo).Along linksOnce RefusalsFree [] := by
  have unlinked : Unlinked [] := List.forall_mem_nil _
  refine Along.bind (along_unlinked (consumeCachedState_along state rfl) unlinked) ?_
    fun _ _ ends => ends.2.refusalsFree
  rintro codeVerifier _ ⟨_, unlinked⟩
  refine Along.bind (along_unlinked (exchangeCode_along code codeVerifier deviceInfo rfl) unlinked) ?_
    fun _ _ ends => ends.2.refusalsFree
  rintro tokenData later ⟨_, unlinked⟩
  have fetches : (fetchUserInfo app tokenData.accessToken).Along (fun _ call => call.links = false)
      _ later := fetchUserInfo_along tokenData.accessToken fun _ _ _ _ => rfl
  refine Along.bind (along_unlinked fetches unlinked) ?_ fun _ _ ends => ends.2.refusalsFree
  rintro profile _ ⟨_, unlinked⟩
  refine Along.bind (resolveUser_linksOnce profile unlinked) ?_
    fun error later free other same => free other (by cases same; rfl)
  intro resolved later _
  cases resolved with
  | none => exact ⟨nofun, fun _ error same refusal => by cases same; cases refusal⟩
  | some user =>
    refine Along.bind (q := RefusalsFree) (along_after_link
      (issueTokenPair_along (fun _ => by rfl) (fun _ => by rfl) user) ?_) ?_
      fun error later free other same => free other (by cases same; rfl)
    · rintro later error ⟨_, failed⟩
      obtain ⟨detail, rfl⟩ := resolveRoleClaims_error failed
      rfl
    · intro tokens later _
      refine Along.bind (q := RefusalsFree) (along_after_link
        (saveLoginHistory_along (fun _ => by rfl) (fun _ => by rfl) (fun _ _ => by rfl) _ _ _) ?_)
        (fun _ _ _ => nofun) fun error later free other same => free other (by cases same; rfl)
      rintro later error ⟨_, ⟨⟩⟩

end Programs

end AuthApi
