import AuthApi.Interleaving.Trace
import AuthApi.Run.Callbacks

/-! # A callback leaves a user with its link, a link, or nothing

The three ways in which one `authorize` call changes the users and the links, in any run. A new user
and its link are committed together, so neither is ever found without the other.
-/

namespace AuthApi

open Interleaving Interleaving.Program Relational YandexIdService

/-- The event changed the users or the links. -/
def changesAccounts (event : ServiceEvent) : Bool :=
  decide (event.after.db.users ≠ event.before.db.users ∨
    event.after.db.oauthAccounts ≠ event.before.db.oauthAccounts)

/-- All that one request contributed to the users and the links, newest first. -/
def contributions (past : List ServiceEvent) (tid : Tid) : List ServiceEvent :=
  past.filter fun event => decide (event.thread = tid) && changesAccounts event

section Contribution

variable {Token : Type} (app : App Token) (world : World) (past : List ServiceEvent) (tid : Tid)

/-- The event adds one link, to the user whose row the callback's own look-up by the profile's email
found before. -/
structure AddsLink (event : ServiceEvent) (profile : YandexIdUserData) (user : User) : Prop where
  fetched : SawProfile app (traceOf past tid) profile
  users : event.after.db.users = event.before.db.users
  links : ∃ account, event.after.db.oauthAccounts = event.before.db.oauthAccounts ++ [account] ∧
    account.key = (YANDEX, profile.id) ∧ account.userId = user.id
  existing : ∃ older read earlier, event :: older <:+ past ∧ read :: earlier <:+ older ∧ read.thread = tid ∧
    read.request = .selectUserByEmail profile.defaultEmail true ∧
    (stateAfter world earlier).db.userByEmail? profile.defaultEmail = some user
  stays : (event.before.db.user? user.id).isSome

/-- The event adds one ordinary user with the default role, and one link to it. -/
structure AddsUser (event : ServiceEvent) (profile : YandexIdUserData) (user : User) : Prop where
  fetched : SawProfile app (traceOf past tid) profile
  users : event.after.db.users = event.before.db.users ++ [user]
  links : ∃ account, event.after.db.oauthAccounts = event.before.db.oauthAccounts ++ [account] ∧
    account.key = (YANDEX, profile.id) ∧ account.userId = user.id
  email : user.email = profile.defaultEmail
  plain : user.isSuperuser = false
  role : ∃ role, event.after.db.roleByTitle? DEFAULT_ROLE_TITLE = some role ∧
    user.roleId = some role.id

/-- The three ways in which a callback contributes. -/
inductive Contribution : Prop
  | nothing (none : contributions past tid = [])
  | link (event : ServiceEvent) (profile : YandexIdUserData) (user : User)
      (one : contributions past tid = [event]) (adds : AddsLink app world past tid event profile user)
  | user (event : ServiceEvent) (profile : YandexIdUserData) (user : User)
      (one : contributions past tid = [event]) (adds : AddsUser app past tid event profile user)

end Contribution

theorem Request.linksOnce {Token : Type} (app : App Token) (request : Request Token) :
    (request.program app).Along
      (fun trace call => request.isAuthorize = true → AuthApi.linksOnce trace call)
      (fun trace outcome => request.isAuthorize = true → RefusalsFree trace outcome) [] := by
  cases request with
  | authorize code state requestMeta deviceInfo =>
    have closed {later : Trace Reply} {error : Exn}
        (free : RefusalsFree later (.error error : Except Exn (TokenData Token))) :
        RefusalsFree (⟨.close, ()⟩ :: later) (.error error : Except Exn (Outcome Token)) := by
      rintro _ ⟨⟩ refusal exchange member
      rcases List.mem_cons.mp member with rfl | old
      · rfl
      · exact free error rfl refusal exchange old
    have along : ((Request.authorize code state requestMeta deviceInfo).program app).Along
        AuthApi.linksOnce RefusalsFree [] := by
      refine along_withSession (fun _ => nofun)
        ((authorize_linksOnce code state requestMeta deviceInfo).bind ?_ ?_)
      · exact fun _ _ _ error same => by cases same
      · exact fun error later free => closed free
    exact along.mono (fun _ _ once _ => once) fun _ _ free _ => free
  | _ => exact along_any.mono (fun _ _ _ => nofun) fun _ _ _ => nofun

section Runs

variable {Token : Type} {app : App Token} {condition : Condition Tid Reply World} {world : World}
  {requests : Tid → Request Token} {past : List ServiceEvent} {tid : Tid}

/-- A callback changes users or links only by committing a link. -/
theorem linked_of_changes {older : List ServiceEvent} {event : ServiceEvent}
    (lawful : LawfulEvent answers condition (fun tid => Allowed app (requests tid)) world older event)
    (callback : (requests event.thread).isCallback = true) (changes : changesAccounts event = true) :
    linked event.exchange = true := by
  have step := callback_step lawful callback
  unfold changesAccounts at changes
  change (committed event).any Write.isLink = true
  generalize event.after.db.users = users, event.after.db.oauthAccounts = accounts at step changes
  cases step with
  | same => simp at changes
  | link profile user id fetched found shape => rw [shape]; rfl
  | newLink profile user roleId id fetched plain email holds seen shape => rw [shape]; rfl

theorem contributions_length (lawful : ServiceLawful app condition world requests past)
    (once : Lawful answers condition (fun tid trace call => (requests tid).isAuthorize = true →
      linksOnce trace call) world past) (authorizes : (requests tid).isAuthorize = true) :
    (contributions past tid).length ≤ 1 := by
  rw [contributions, ← List.countP_eq_length_filter]
  refine countP_le_one fun event older suffix happens other member => ?_
  simp only [Bool.and_eq_true, decide_eq_true_eq] at happens
  obtain ⟨rfl, changes⟩ := happens
  have here := (lawful.suffix suffix).1
  have callback := Request.isCallback_of_authorize authorizes
  have attempt := links_of_linked (linked_of_changes here callback changes)
  have before := (once.suffix suffix).1.specified authorizes attempt
  by_contra again
  simp only [Bool.not_eq_false, Bool.and_eq_true, decide_eq_true_eq] at again
  obtain ⟨mover, changed⟩ := again
  obtain ⟨newer, oldest, rfl⟩ := List.append_of_mem member
  have earlier := (lawful.suffix suffix).2.event
  have attempted := links_of_linked (linked_of_changes earlier (mover ▸ callback) changed)
  have seen : other.exchange ∈ traceOf (newer ++ other :: oldest) event.thread :=
    mem_traceOf.mpr ⟨other, by simp, mover, rfl⟩
  exact Bool.false_ne_true ((before _ seen).symm.trans attempted)

theorem contribution_cases (lawful : ServiceLawful app condition world requests past)
    (once : Lawful answers condition (fun tid trace call => (requests tid).isAuthorize = true →
      linksOnce trace call) world past) (authorizes : (requests tid).isAuthorize = true)
    {defaultId : UUID4} (initial : world.db.HasDefaultRole defaultId) :
    Contribution app world past tid := by
  cases shape : contributions past tid with
  | nil => exact .nothing shape
  | cons event rest =>
    have bound := contributions_length lawful once authorizes
    rw [shape, List.length_cons] at bound
    obtain rfl : rest = [] := List.length_eq_zero_iff.mp (by omega)
    have member : event ∈ contributions past tid := by rw [shape]; exact List.mem_cons_self
    obtain ⟨present, happens⟩ := List.mem_filter.mp member
    simp only [Bool.and_eq_true, decide_eq_true_eq] at happens
    obtain ⟨rfl, changes⟩ := happens
    obtain ⟨newer, older, rfl⟩ := List.append_of_mem present
    have here := lawful.event
    have grown := traceOf_suffix (List.suffix_append (newer ++ [event]) older) event.thread
    rw [List.append_assoc, List.singleton_append] at grown
    have step := callback_step here (Request.isCallback_of_authorize authorizes)
    unfold changesAccounts at changes
    generalize users : event.after.db.users = after, links : event.after.db.oauthAccounts = accounts
      at step changes
    cases step with
    | same => simp at changes
    | link profile user id fetched found _ =>
      obtain ⟨between, look, earlier, split, mover, exchanged, _, answered⟩ := seen_event lawful.older found
      have suffix : look :: earlier <:+ older := ⟨between, split.symm⟩
      obtain ⟨row, read, rfl⟩ := Option.map_eq_some_iff.mp (answers_selectUserByEmail answered).symm
      refine .link event profile row shape ⟨fetched.mono grown, users, ⟨_, links, rfl, rfl⟩,
        ⟨older, look, earlier, List.suffix_append _ _, suffix, mover, congrArg Exchange.request exchanged, read⟩, ?_⟩
      obtain ⟨later, found, _⟩ := flags_kept lawful.older ((List.suffix_cons _ _).trans suffix) _ _
        (Database.user?_of_mem (lookup_mem read))
      rw [here.follows, found]
      rfl
    | newLink profile user roleId id fetched plain email holds seen _ =>
      refine .user event profile _ shape
        ⟨fetched.mono grown, users, ⟨_, links, rfl, rfl⟩, email, plain, ?_⟩
      obtain rfl := sawDefaultRole_id lawful.older initial seen
      have default : event.after.db.HasDefaultRole roleId := lawful_hasDefaultRole lawful.append initial
      obtain ⟨role, found, same⟩ := default.roleByTitle?
      exact ⟨role, found, holds.trans (congrArg some same.symm)⟩

/-- A refused callback contributes nothing. -/
theorem contributions_of_refusal (lawful : ServiceLawful app condition world requests past)
    (authorizes : (requests tid).isAuthorize = true)
    (free : ∀ exchange ∈ traceOf past tid, linked exchange = false) : contributions past tid = [] := by
  refine List.filter_eq_nil_iff.mpr fun event member happens => ?_
  simp only [Bool.and_eq_true, decide_eq_true_eq] at happens
  obtain ⟨rfl, changes⟩ := happens
  obtain ⟨newer, older, rfl⟩ := List.append_of_mem member
  have committed :=
    linked_of_changes lawful.event (Request.isCallback_of_authorize authorizes) changes
  have seen : event.exchange ∈ traceOf (newer ++ event :: older) event.thread :=
    mem_traceOf.mpr ⟨event, by simp, rfl, rfl⟩
  exact Bool.false_ne_true ((free _ seen).symm.trans committed)

theorem created_user_linked (lawful : ServiceLawful app condition world requests past)
    {event : ServiceEvent} (member : event ∈ past)
    (callback : (requests event.thread).isCallback = true) {user : User}
    (present : user ∈ event.after.db.users) (new : user.id ∉ event.before.db.users.map User.id) :
    ∃ account ∈ (stateAfter world past).db.oauthAccounts,
      account.provider = YANDEX ∧ account.userId = user.id := by
  obtain ⟨newer, older, rfl⟩ := List.append_of_mem member
  have kept := (accounts_kept lawful (List.suffix_append newer (event :: older))).subset
  have step := callback_step lawful.event callback
  simp only [stateAfter] at kept
  generalize event.after.db.users = users, event.after.db.oauthAccounts = accounts
    at step present kept
  cases step with
  | same => exact absurd (List.mem_map_of_mem present) new
  | link profile user id fetched found shape => exact absurd (List.mem_map_of_mem present) new
  | newLink profile created roleId id fetched plain email holds seen shape =>
    rcases List.mem_append.mp present with old | added
    · exact absurd (List.mem_map_of_mem old) new
    · rw [List.mem_singleton.mp added]
      exact ⟨_, kept (List.mem_append_right _ List.mem_cons_self), rfl, rfl⟩

/-- A callback contributes nothing, one link to the user it looked up, or one ordinary user with the
default role and the link to it; with a domain error or an integrity error it contributes nothing.
Every user a callback created keeps a link, and every link has its user. -/
theorem authorize_contributes {config : ServiceConfig Token} {default : Role}
    (present : default ∈ world.db.roles) (titled : default.title = DEFAULT_ROLE_TITLE)
    (run : Reaches answers condition (started app world requests) config) :
    (∀ tid, (requests tid).isAuthorize = true → Contribution app world config.past tid ∧
      ∀ error, config.threads tid = .raise error → error.isRefusal = true →
        contributions config.past tid = []) ∧
    (∀ event ∈ config.past, (requests event.thread).isCallback = true →
      ∀ user ∈ event.after.db.users, user.id ∉ event.before.db.users.map User.id →
        ∃ account ∈ config.now.db.oauthAccounts,
          account.provider = YANDEX ∧ account.userId = user.id) ∧
    ∀ account ∈ config.now.db.oauthAccounts, ∃ user ∈ config.now.db.users,
      user.id = account.userId := by
  have course := service_course run
  have once := course_of_along _ _ run fun tid => (requests tid).linksOnce app
  refine ⟨fun tid authorizes => ⟨?_, fun error raised refusal => ?_⟩, ?_, fun account member => ?_⟩
  · exact contribution_cases course.lawful once.lawful authorizes (.of_mem present titled)
  · exact contributions_of_refusal course.lawful authorizes
      (once.raised raised authorizes error rfl refusal)
  · intro event member callback user present new
    rw [course.now_eq]
    exact created_user_linked course.lawful member callback present new
  · exact List.mem_map.mp (config.now.db.consistent.oauthUsers account member)

end Runs

private def twoCallbacks : Tid → Request Claims := pool
  [.authorize "code" (numbered 11).val ⟨none, none⟩ ⟨numbered 20, none⟩,
    .authorize "code" (numbered 12).val ⟨none, none⟩ ⟨numbered 21, none⟩]

/-- Of two callbacks with one profile the first creates the user, and the second conflicts. -/
theorem authorize_contributes_conflict : ∃ config : ServiceConfig Claims,
    Contribution transparentApp pendingLogins config.past 0 ∧
      (contributions config.past 0).length = 1 ∧ contributions config.past 1 = [] := by
  have played : ((started transparentApp pendingLogins twoCallbacks).playAll World.answer unrestricted
      (fetchProfile 0 "7" "a@example.com" ++ fetchProfile 1 "7" "b@example.com" ++
        [move 0, move 0, move 1, move 1, move 0, move 0, move 0, move 0 3, move 0, move 0 4, move 0,
          move 1, move 1, move 1, move 1 5, move 1, move 1 6, move 1, move 1, move 1])).any
      (fun config => decide ((contributions config.past 0).length = 1) && decide
        ((config.threads 1).outcome? = some (.error (.yandexIdAccountConflictError
          "Yandex account link conflict")))) = true := by decide
  obtain ⟨config, run, checked⟩ := Config.playAll_exists played
  rw [Bool.and_eq_true, decide_eq_true_iff, decide_eq_true_iff] at checked
  have present : defaultRoleRow ∈ pendingLogins.db.roles := by decide
  obtain ⟨callbacks, _⟩ := authorize_contributes present rfl run
  exact ⟨config, (callbacks 0 rfl).1, checked.1,
    (callbacks 1 rfl).2 _ (outcome?_eq_error.mp checked.2) rfl⟩

end AuthApi
