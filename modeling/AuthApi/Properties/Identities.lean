import AuthApi.Properties.CallbackOutcome

/-! # Provider identities

A callback resolves its profile by the link of the provider id and only then by the email. Links are
never removed or moved to another user, so a provider id that has been resolved once stands for the
same user ever after, whatever becomes of emails, roles and other accounts.
-/

namespace AuthApi

open Interleaving Interleaving.Program Relational YandexIdService

/-- The profile request. -/
def Call.fetches : Call → Bool
  | .httpGet _ _ _ => true
  | _ => false

/-- The look-up of a link. -/
def Call.looksUp : Call → Bool
  | .selectLinkedUser _ _ => true
  | _ => false

/-- A statement that adds a user or a link. -/
def Write.addsIdentity : Write → Bool
  | .insertUser _ => true
  | .insertOAuthAccount _ => true
  | _ => false

/-- A commit of such a statement. -/
def Call.adds : Call → Bool
  | .commit _ writes => writes.any Write.addsIdentity
  | _ => false

/-- No profile has been asked for. -/
def Unfetched (trace : Trace Reply) : Prop := ∀ exchange ∈ trace, exchange.request.fetches = false

section Programs

variable {Token : Type} (app : App Token)

/-- The profile a callback goes on with. -/
def profileTaken : Exchange Reply → Option YandexIdUserData
  | ⟨.httpGet _ _ _, .response status (.ok (.obj fields))⟩ =>
      if isError status then none else YandexIdUserData.modelValidate app.pydantic fields
  | _ => none

/-- A callback asks for one profile, looks up the id it has been given, and adds a user or a link only
for an id without a link. -/
structure Identifies (trace : Trace Reply) (call : Call) : Prop where
  fetches : call.fetches = true → Unfetched trace
  looksUp : ∀ provider id, call = .selectLinkedUser provider id → provider = YANDEX ∧
    ∃ exchange ∈ trace, ∃ profile, profileTaken app exchange = some profile ∧ profile.id = id
  adds : call.adds = true → ∃ id, ⟨.selectLinkedUser YANDEX id, none⟩ ∈ trace

/-- Every profile the callback has taken was looked up. -/
def LookedUp (trace : Trace Reply) : Prop :=
  ∀ exchange ∈ trace, ∀ profile, profileTaken app exchange = some profile →
    ∃ found, ⟨.selectLinkedUser YANDEX profile.id, found⟩ ∈ trace

variable {app} {trace : Trace Reply}

theorem profileTaken_eq_none {exchange : Exchange Reply} (other : exchange.request.fetches = false) :
    profileTaken app exchange = none := by
  obtain ⟨request, reply⟩ := exchange
  cases request <;> first | rfl | cases other

theorem Unfetched.cons {exchange : Exchange Reply} (unfetched : Unfetched trace)
    (other : exchange.request.fetches = false) : Unfetched (exchange :: trace) :=
  List.forall_mem_cons.mpr ⟨other, unfetched⟩

theorem LookedUp.cons {exchange : Exchange Reply} (looked : LookedUp app trace)
    (other : exchange.request.fetches = false) : LookedUp app (exchange :: trace) := by
  intro earlier member profile taken
  rcases List.mem_cons.mp member with rfl | old
  · rw [profileTaken_eq_none other] at taken
    cases taken
  · obtain ⟨found, seen⟩ := looked earlier old profile taken
    exact ⟨found, List.mem_cons_of_mem _ seen⟩

/-- A call that neither fetches a profile nor looks up a link. -/
def Call.settled (call : Call) : Bool := !call.fetches && !call.looksUp

theorem Call.settled_iff {call : Call} :
    call.settled = true ↔ call.fetches = false ∧ call.looksUp = false := by
  simp [settled]

theorem identifies_of_settled {call : Call} (settled : call.settled = true)
    (adds : call.adds = true → ∃ id, ⟨.selectLinkedUser YANDEX id, none⟩ ∈ trace) :
    Identifies app trace call := by
  obtain ⟨quiet, other⟩ := Call.settled_iff.mp settled
  constructor
  · intro fetches
    rw [fetches] at quiet
    cases quiet
  · rintro provider id rfl
    cases other
  · exact adds

/-- What follows a look-up that found nothing may add a user and a link. -/
theorem along_missing {α : Type} {program : Action α} {post : Trace Reply → Except Exn α → Prop} {id : String}
    (along : program.Along (fun _ call => call.settled = true) post trace)
    (missing : ⟨.selectLinkedUser YANDEX id, none⟩ ∈ trace) (looked : LookedUp app trace) :
    program.Along (Identifies app) (fun later outcome => post later outcome ∧ LookedUp app later) trace := by
  have kept := along.keeps (p := LookedUp app)
    (fun _ _ _ settled looked => looked.cons (Call.settled_iff.mp settled).1) looked
  have stays := @along_of_stable _ _ _ _ trace
    (fun later : Trace Reply => ⟨.selectLinkedUser YANDEX id, none⟩ ∈ later)
    (fun exchange _ member => List.mem_cons_of_mem exchange member) missing program
  apply (kept.and stays).mono
  · rintro later call ⟨settled, missing⟩
    exact identifies_of_settled settled fun _ => ⟨id, missing⟩
  · rintro later outcome ⟨ends, _⟩
    exact ends

/-- A call with no part in the resolution. -/
def Call.aside (call : Call) : Bool := call.settled && !call.adds

theorem Call.aside_iff {call : Call} : call.aside = true ↔ call.settled = true ∧ call.adds = false := by
  simp [aside]

/-- What has no part in the resolution keeps what is known of it. -/
theorem along_aside {α : Type} {program : Action α} {post : Trace Reply → Except Exn α → Prop}
    {p : Trace Reply → Prop} (along : program.Along (fun _ call => call.aside = true) post trace)
    (kept : ∀ later exchange, exchange.request.fetches = false → p later → p (exchange :: later))
    (holds : p trace) :
    program.Along (Identifies app) (fun later outcome => post later outcome ∧ p later) trace := by
  apply (along.keeps (p := p) (fun later call reply aside holds => kept later ⟨call, reply⟩
    (Call.settled_iff.mp (Call.aside_iff.mp aside).1).1 holds) holds).mono
  · intro later call aside
    obtain ⟨settled, quiet⟩ := Call.aside_iff.mp aside
    apply identifies_of_settled settled
    intro adds
    rw [adds] at quiet
    cases quiet
  · exact fun _ _ ends => ends

theorem attachOauthAccount_settled (flushed : List Write) (user : UserObject) (providerUserId : String) :
    (attachOauthAccount app flushed user YANDEX providerUserId).Along (fun _ call => call.settled = true)
      (fun _ _ => True) trace := by
  refine ⟨rfl, fun id => along_accept (fun _ => ⟨rfl, fun reply => ?_⟩) fun _ => trivial⟩
  cases reply with
  | ok _ =>
    refine ⟨rfl, fun found => ?_⟩
    cases found <;> trivial
  | error error =>
    cases error with
    | integrity => exact ⟨rfl, fun _ => trivial⟩
    | staleData | data => trivial

/-- The resolution of a profile is its look-up, and without a link what follows it. -/
theorem resolveUser_looksUp (profile : YandexIdUserData) {spec : Trace Reply → Call → Prop}
    {post : Trace Reply → Except Exn (Option UserObject) → Prop}
    (looks : spec trace (.selectLinkedUser YANDEX profile.id))
    (found : ∀ user, post (⟨.selectLinkedUser YANDEX profile.id, some user⟩ :: trace) (.ok (some user)))
    (refused : storesText profile.id = false → ∀ linked,
      post (⟨.selectLinkedUser YANDEX profile.id, linked⟩ :: trace) (.error (.dbError .data)))
    (missing : ∀ rest : Action (Option UserObject), rest.Along (fun _ call => call.settled = true)
      (fun _ _ => True) (⟨.selectLinkedUser YANDEX profile.id, none⟩ :: trace) →
        rest.Along spec post (⟨.selectLinkedUser YANDEX profile.id, none⟩ :: trace)) :
    (resolveUser app profile).Along spec post trace := by
  refine ⟨looks, fun linked => along_accept (fun _ => ?_) fun unfit => refused unfit linked⟩
  cases linked with
  | some user => exact found user
  | none =>
    apply missing
    refine ⟨rfl, fun found => ?_⟩
    cases found with
    | some existing =>
      simp only [done_bind]
      exact Along.bind (attachOauthAccount_settled [] existing profile.id) (fun _ _ _ => trivial)
        fun _ _ _ => trivial
    | none =>
      simp only [done_bind]
      refine Along.bind (getOrCreateDefaultRole_along (fun _ => rfl) (fun _ => rfl) fun _ _ _ => rfl) ?_
        fun _ _ _ => trivial
      intro role later _
      refine ⟨rfl, fun password => ⟨rfl, fun salt => ⟨rfl, fun id =>
        along_accept (fun _ => ⟨rfl, fun reply => ?_⟩) fun _ => trivial⟩⟩⟩
      cases reply with
      | error error => trivial
      | ok _ =>
        simp only [attempt_ok, done_bind]
        refine Along.bind (attachOauthAccount_settled _ _ profile.id) ?_ fun _ _ _ => trivial
        intro created last _
        refine ⟨rfl, fun found => ?_⟩
        cases found <;> trivial

/-- A profile is looked up first, and its user or link is added only if it has none. -/
theorem resolveUser_identifies (profile : YandexIdUserData)
    (taken : ∃ exchange ∈ trace, profileTaken app exchange = some profile)
    (only : ∀ exchange ∈ trace, ∀ other, profileTaken app exchange = some other → other = profile) :
    (resolveUser app profile).Along (Identifies app) (fun later _ => LookedUp app later) trace := by
  have looked (found : Option UserObject) :
      LookedUp app (⟨.selectLinkedUser YANDEX profile.id, found⟩ :: trace) := by
    intro exchange member other read
    rcases List.mem_cons.mp member with rfl | old
    · cases read
    · rw [only exchange old other read]
      exact ⟨found, List.mem_cons_self⟩
  refine resolveUser_looksUp profile ?_ (fun user => looked _) (fun _ linked => looked linked) ?_
  · constructor
    · exact nofun
    · rintro _ _ ⟨⟩
      obtain ⟨exchange, member, read⟩ := taken
      exact ⟨rfl, exchange, member, profile, read, rfl⟩
    · exact nofun
  · intro rest along
    exact (along_missing along List.mem_cons_self (looked none)).mono (fun _ _ ends => ends) fun _ _ ends => ends.2

/-- Every look-up that found a linked user found such a one. -/
def Finds (p : String → UserObject → Prop) (trace : Trace Reply) : Prop :=
  ∀ id user, ⟨.selectLinkedUser YANDEX id, some user⟩ ∈ trace → p id user

theorem Finds.mono {p q : String → UserObject → Prop} (finds : Finds p trace)
    (implies : ∀ id user, p id user → q id user) : Finds q trace :=
  fun id user seen => implies id user (finds id user seen)

theorem Finds.cons {p : String → UserObject → Prop} {exchange : Exchange Reply} (finds : Finds p trace)
    (other : exchange.request.looksUp = false) : Finds p (exchange :: trace) := by
  intro id user seen
  rcases List.mem_cons.mp seen with rfl | old
  · cases other
  · exact finds id user old

/-- What looks up no link keeps what is known of the look-ups. -/
theorem along_finds {α : Type} {program : Action α} {post : Trace Reply → Except Exn α → Prop}
    {p : String → UserObject → Prop} (along : program.Along (fun _ call => call.looksUp = false) post trace)
    (finds : Finds p trace) :
    program.Along anyCall (fun later outcome => post later outcome ∧ Finds p later) trace :=
  (along.keeps (fun _ _ _ other finds => finds.cons other) finds).mono (fun _ _ _ => trivial)
    fun _ _ ends => ends

/-- A linked user is what the resolution returns, unless no column holds the id. -/
theorem resolveUser_finds (profile : YandexIdUserData) (nobody : Finds (fun _ _ => False) trace) :
    (resolveUser app profile).Along anyCall (fun later outcome => Finds (fun id user =>
      outcome = .ok (some user) ∨ storesText id = false ∧ outcome = .error (.dbError .data)) later) trace := by
  refine resolveUser_looksUp profile trivial ?_ ?_ ?_
  · intro user id other seen
    rcases List.mem_cons.mp seen with same | old
    · cases same
      exact .inl rfl
    · exact (nobody id other old).elim
  · intro unfit linked id other seen
    rcases List.mem_cons.mp seen with same | old
    · cases same
      exact .inr ⟨unfit, rfl⟩
    · exact (nobody id other old).elim
  · intro rest along
    have missed : Finds (fun _ _ => False) (⟨.selectLinkedUser YANDEX profile.id, none⟩ :: trace) := by
      intro id user seen
      rcases List.mem_cons.mp seen with same | old
      · cases same
      · exact nobody id user old
    have quiet := along.mono (fun _ _ settled => (Call.settled_iff.mp settled).2) fun _ _ ends => ends
    exact (along_finds quiet missed).mono (fun _ _ any => any) fun _ _ ends => ends.2.mono fun _ _ => False.elim

/-- How a callback ends that found a linked user: with tokens of the user, or with the error of the user's
role claims; an id that no column holds ends it before. -/
def EndsFor (app : App Token) (outcome : Except Exn (TokenData Token)) (providerUserId : String)
    (user : UserObject) : Prop :=
  match outcome with
  | .ok pair => ∀ token ∈ [pair.access, pair.refresh],
      ∃ claims, app.jwt.verify token = some claims ∧ claims.sub = user.id
  | .error error => resolveRoleClaims user = .error error ∨
      storesText providerUserId = false ∧ error = .dbError .data

theorem authorize_finds (code : String) (state : UUID) (requestMeta : RequestMeta) (deviceInfo : DeviceInfo)
    (nobody : Finds (fun _ _ => False) trace) :
    (authorize app code state requestMeta deviceInfo).Along anyCall
      (fun later outcome => Finds (EndsFor app outcome) later) trace := by
  have failed {later : Trace Reply} {outcome : Except Exn (TokenData Token)}
      (nobody : Finds (fun _ _ => False) later) : Finds (EndsFor app outcome) later :=
    nobody.mono fun _ _ => False.elim
  refine Along.bind (along_finds (consumeCachedState_along state rfl) nobody) ?_ fun _ _ ends => failed ends.2
  rintro codeVerifier _ ⟨_, nobody⟩
  refine Along.bind (along_finds (exchangeCode_along code codeVerifier deviceInfo rfl) nobody) ?_
    fun _ _ ends => failed ends.2
  rintro tokenData _ ⟨_, nobody⟩
  refine Along.bind (along_finds (fetchUserInfo_along tokenData.accessToken fun _ _ _ _ => rfl) nobody) ?_
    fun _ _ ends => failed ends.2
  rintro profile later ⟨_, nobody⟩
  refine Along.bind (resolveUser_finds profile nobody) ?_ ?_
  · intro resolved later finds
    cases resolved with
    | none =>
      refine ⟨trivial, fun _ => failed ((finds.mono ?_).cons rfl)⟩
      rintro id user (same | ⟨_, same⟩) <;> cases same
    | some user =>
      have only : Finds (fun _ other => other = user) later := by
        refine finds.mono ?_
        rintro id other (same | ⟨_, same⟩) <;> cases same
        rfl
      refine Along.bind (along_finds (issueTokenPair_along (fun _ => by rfl) (fun _ => by rfl) user) only) ?_ ?_
      · rintro pair later ⟨⟨_, issued⟩, only⟩
        refine Along.bind (along_finds (saveLoginHistory_along (fun _ => by rfl) (fun _ => by rfl) (fun _ _ => by rfl)
          user.id requestMeta (some deviceInfo)) only) ?_ ?_
        · rintro _ last ⟨_, only⟩
          refine only.mono (q := EndsFor app (.ok pair)) ?_
          rintro id _ rfl token among
          obtain ⟨_, _, _, _, _, _, _, _, access, refresh⟩ := issued
          simp only [List.mem_cons, List.not_mem_nil, or_false] at among
          rcases among with rfl | rfl
          · exact ⟨_, by rw [access, app.jwt.verify_encode], rfl⟩
          · exact ⟨_, by rw [refresh, app.jwt.verify_encode], rfl⟩
        · rintro error last ⟨⟨_, ⟨⟩⟩, _⟩
      · rintro error last ⟨⟨_, failed⟩, only⟩
        exact only.mono fun id other same => .inl (same ▸ failed)
  · intro error later finds
    refine finds.mono ?_
    rintro id user (same | ⟨unfit, same⟩) <;> cases same
    exact .inr ⟨unfit, rfl⟩

/-- How an `authorize` request ends that found a linked user. -/
theorem Request.finds (app : App Token) (request : Request Token) :
    (request.program app).Along anyCall (fun trace outcome => request.isAuthorize = true →
      ∃ ended : Except Exn (TokenData Token), Finds (EndsFor app ended) trace ∧
        outcome = ended.map .tokens) [] := by
  have nobody : Finds (fun _ _ => False) [] := by
    intro id user seen
    cases seen
  cases request with
  | authorize code state requestMeta deviceInfo =>
    refine along_withSession (fun _ => trivial)
      ((authorize_finds code state requestMeta deviceInfo nobody).bind ?_ ?_)
    · exact fun pair later finds _ => ⟨.ok pair, finds.cons rfl, rfl⟩
    · exact fun error later finds _ => ⟨.error error, finds.cons rfl, rfl⟩
  | _ => exact along_any.mono (fun _ _ _ => trivial) fun _ _ _ => nofun

theorem profileTaken_reply {url : String} {params : List (String × String)} {header : String} {status : ℕ}
    {json : Except JsonError Json} {fields : List (String × Json)} (parsed : safeJson json = .ok fields) :
    profileTaken app ⟨.httpGet url params header, .response status json⟩ =
      if isError status then none else YandexIdUserData.modelValidate app.pydantic fields := by
  unfold safeJson at parsed
  split at parsed
  · cases parsed
    rfl
  · next other =>
    cases parsed
    unfold profileTaken
    split
    · next same =>
      cases same
      exact absurd rfl (other _)
    · simp [YandexIdUserData.modelValidate, Json.field?]
  · cases parsed
    simp [profileTaken, YandexIdUserData.modelValidate, Json.field?]
  · cases parsed

/-- The callback has taken no profile. -/
def Untaken (app : App Token) (trace : Trace Reply) : Prop := ∀ exchange ∈ trace, profileTaken app exchange = none

theorem Unfetched.untaken (unfetched : Unfetched trace) : Untaken app trace :=
  fun exchange member => profileTaken_eq_none (unfetched exchange member)

theorem Untaken.lookedUp (untaken : Untaken app trace) : LookedUp app trace := by
  intro exchange member profile taken
  rw [untaken exchange member] at taken
  cases taken

/-- The profile request takes the profile it returns, and none if it fails. -/
theorem fetchUserInfo_takes (accessToken : String)
    (unfetched : Unfetched trace) :
    (fetchUserInfo app accessToken).Along (Identifies app)
      (fun later outcome => match outcome with
        | .ok profile => ∃ exchange, later = exchange :: trace ∧ profileTaken app exchange = some profile
        | .error _ => Untaken app later) trace := by
  have failed {reply : ProviderReply} {url : String} {params : List (String × String)} {header : String}
      (untaken : profileTaken app ⟨.httpGet url params header, reply⟩ = none) :
      Untaken app (⟨.httpGet url params header, reply⟩ :: trace) :=
    List.forall_mem_cons.mpr ⟨untaken, unfetched.untaken⟩
  unfold fetchUserInfo
  split
  · refine ⟨⟨fun _ => unfetched, nofun, nofun⟩, fun reply => ?_⟩
    cases reply with
    | requestError => exact failed rfl
    | response status json =>
      simp only [done_bind]
      cases parsed : safeJson json with
      | error error =>
        obtain ⟨fault, rfl, _, rfl⟩ := safeJson_eq_error parsed
        exact failed rfl
      | ok fields =>
        simp only
        split
        · next refused => exact failed (by rw [profileTaken_reply parsed, if_pos refused])
        · next accepted =>
          have taken := @profileTaken_reply _ app app.yandexidSettings.userInfoUrl [("format", "json")]
            ("OAuth " ++ accessToken) status _ _ parsed
          rw [if_neg accepted] at taken
          split
          · next invalid => exact failed (taken.trans invalid)
          · next profile valid => exact ⟨_, rfl, taken.trans valid⟩
  · exact unfetched.untaken

theorem authorize_identifies (code : String) (state : UUID) (requestMeta : RequestMeta)
    (deviceInfo : DeviceInfo) (unfetched : Unfetched trace) :
    (authorize app code state requestMeta deviceInfo).Along (Identifies app)
      (fun later _ => LookedUp app later) trace := by
  have fetchless : ∀ later exchange, exchange.request.fetches = false → Unfetched later →
      Unfetched (exchange :: later) := fun _ _ other unfetched => unfetched.cons other
  have lookups : ∀ later exchange, exchange.request.fetches = false → LookedUp app later →
      LookedUp app (exchange :: later) := fun _ _ other looked => looked.cons other
  refine Along.bind (along_aside (consumeCachedState_along state rfl) fetchless unfetched) ?_
    fun _ _ ends => ends.2.untaken.lookedUp
  rintro codeVerifier _ ⟨_, unfetched⟩
  refine Along.bind (along_aside (exchangeCode_along code codeVerifier deviceInfo rfl) fetchless unfetched)
    ?_ fun _ _ ends => ends.2.untaken.lookedUp
  rintro tokenData later ⟨_, unfetched⟩
  refine Along.bind (fetchUserInfo_takes tokenData.accessToken unfetched) ?_ fun _ _ untaken => untaken.lookedUp
  rintro profile _ ⟨exchange, rfl, taken⟩
  refine Along.bind (resolveUser_identifies profile ⟨exchange, List.mem_cons_self, taken⟩ ?_) ?_
    fun _ _ looked => looked
  · intro earlier member other read
    rcases List.mem_cons.mp member with rfl | old
    · rw [taken] at read
      exact (Option.some.inj read).symm
    · rw [profileTaken_eq_none (unfetched earlier old)] at read
      cases read
  · intro resolved later looked
    cases resolved with
    | none => exact ⟨identifies_of_settled rfl nofun, fun _ => looked.cons rfl⟩
    | some user =>
      refine Along.bind (along_aside (issueTokenPair_along (fun _ => by rfl) (fun _ => by rfl) user)
        lookups looked) ?_ fun _ _ ends => ends.2
      rintro pair later ⟨_, looked⟩
      exact Along.bind (along_aside (saveLoginHistory_along (fun _ => by rfl) (fun _ => by rfl)
        (fun _ _ => by rfl) user.id requestMeta (some deviceInfo)) lookups looked) (fun _ _ ends => ends.2)
          fun _ _ ends => ends.2

theorem confirmLoginYandex_identifies (http : HttpRequest) :
    (confirmLoginYandex app http).Along (Identifies app) (fun later _ => LookedUp app later) [] := by
  have fetchless : ∀ later exchange, exchange.request.fetches = false → Unfetched later →
      Unfetched (exchange :: later) := fun _ _ other unfetched => unfetched.cons other
  apply along_requestIdMiddleware (q := fun later _ => LookedUp app later)
    (fun _ => identifies_of_settled rfl nofun) _ fun _ _ _ looked => looked
  intro drawn uuids
  have unfetched : Unfetched (drawn ++ []) := by
    intro exchange member
    rw [List.append_nil] at member
    rw [uuids exchange member]
    rfl
  refine Along.bind (along_aside (rateLimitRouteByIp_along http _ fun _ _ => rfl) fetchless unfetched) ?_
    fun _ _ ends => ends.2.untaken.lookedUp
  rintro _ _ ⟨_, unfetched⟩
  simp only
  split
  · exact unfetched.untaken.lookedUp
  · refine Along.bind (along_aside (getOrCreateDeviceId_along http rfl) fetchless unfetched) ?_
      fun _ _ ends => ends.2.untaken.lookedUp
    rintro deviceId _ ⟨_, unfetched⟩
    split
    · exact unfetched.untaken.lookedUp
    · apply along_withSession fun _ => identifies_of_settled rfl nofun
      split
      · refine Along.bind (q := fun later _ => LookedUp app later) (Along.handle
          (authorize_identifies _ _ _ _ unfetched) (fun _ _ looked => looked) fun _ _ looked => looked) ?_ ?_
        · exact fun _ _ looked => looked.cons rfl
        · exact fun _ _ looked => looked.cons rfl
      · exact unfetched.untaken.lookedUp.cons rfl

/-- What a callback does about its profile. -/
theorem Request.identifies (app : App Token) (request : Request Token) :
    (request.program app).Along (fun trace call => request.isCallback = true → Identifies app trace call)
      (fun trace _ => request.isCallback = true → LookedUp app trace) [] := by
  have nothing : Unfetched [] := by
    intro exchange member
    cases member
  cases request with
  | authorize code state requestMeta deviceInfo =>
    apply Along.mono (fun _ _ identifies _ => identifies) (fun _ _ looked _ => looked)
    apply along_withSession fun _ => identifies_of_settled rfl nofun
    exact Along.bind (authorize_identifies code state requestMeta deviceInfo nothing)
      (fun _ _ looked => looked.cons rfl) fun _ _ looked => looked.cons rfl
  | confirmLoginYandex http =>
    apply Along.mono (fun _ _ identifies _ => identifies) (fun _ _ looked _ => looked)
    exact Along.bind (confirmLoginYandex_identifies http) (fun _ _ looked => looked) fun _ _ looked => looked
  | _ =>
    apply along_any.mono
    · intro trace call _ callback
      cases callback
    · intro trace outcome _ callback
      cases callback

end Programs

section Runs

variable {Token : Type} {app : App Token} {condition : Condition Tid Reply World} {world : World}
  {requests : Tid → Request Token} {past older : List ServiceEvent} {earlier config : ServiceConfig Token}
  {tid : Tid} {providerUserId : String} {userId : UUID4}

/-- A link stays with its user. -/
theorem linked_kept (lawful : ServiceLawful app condition world requests past) (suffix : older <:+ past)
    {provider : String} {user : User}
    (linked : (stateAfter world older).db.linkedUser? provider providerUserId = some user) :
    ∃ row, (stateAfter world past).db.linkedUser? provider providerUserId = some row ∧ row.id = user.id := by
  obtain ⟨account, member, key, owner⟩ := Database.linkedUser?_account linked
  obtain ⟨row, found, same⟩ := Database.linkedUser?_of_mem ((accounts_kept lawful suffix).subset member)
  obtain ⟨rfl, rfl⟩ := Prod.mk.inj key
  exact ⟨row, found, same.trans owner⟩

/-- A look-up made after the id was resolved finds the user. -/
theorem lookup_found (lawful : ServiceLawful app condition world requests past) (suffix : older <:+ past)
    {first : Tid} (resolved : ResolvedAs (traceOf older first) providerUserId userId)
    (unstarted : traceOf older tid = []) {found : Option UserObject}
    (seen : ⟨.selectLinkedUser YANDEX providerUserId, found⟩ ∈ traceOf past tid) :
    ∃ user, found = some user ∧ user.id = userId := by
  obtain ⟨linked, stored, same⟩ := resolved_linked (lawful.suffix suffix) resolved
  obtain ⟨newer, event, before, rfl, mover, _, _, answered⟩ := seen_event lawful seen
  have since := suffix_of_not_mem suffix (not_mem_of_traceOf_eq_nil unstarted mover)
  have within : before <:+ newer ++ event :: before :=
    (List.suffix_cons _ _).trans (List.suffix_append _ _)
  obtain ⟨row, found, kept⟩ := linked_kept (lawful.suffix within) since stored
  have reply := answers_selectLinkedUser answered
  rw [found] at reply
  exact ⟨_, reply, kept.trans same⟩

/-- What a callback of every run does about its profile. -/
abbrev IdentifiesAll (app : App Token) (requests : Tid → Request Token) (tid : Tid) (trace : Trace Reply)
    (call : Call) : Prop :=
  (requests tid).isCallback = true → Identifies app trace call

/-- A callback asks for one profile. -/
theorem fetched_once (lawful : Lawful answers condition (IdentifiesAll app requests) world past)
    (callback : (requests tid).isCallback = true) {exchange other : Exchange Reply}
    (member : exchange ∈ traceOf past tid) (fetches : exchange.request.fetches = true)
    (present : other ∈ traceOf past tid) (again : other.request.fetches = true) : other = exchange := by
  obtain ⟨newer, rest, split⟩ := List.append_of_mem member
  obtain ⟨front, tail, cut⟩ := List.append_of_mem present
  have same : exchange :: rest = other :: tail := by
    apply eq_of_unique (p := fun exchange _ => exchange.request.fetches = true) _
      (split ▸ List.suffix_append newer _) fetches (cut ▸ List.suffix_append front _) again
    intro last before earlier oldest suffix fetched within fetchedToo
    obtain ⟨event, older, found, rfl, rfl, rfl⟩ := event_of_trace_suffix suffix
    have unfetched := ((lawful.suffix found).1.specified callback).fetches fetched
    rw [unfetched earlier (within.subset List.mem_cons_self)] at fetchedToo
    cases fetchedToo
  exact (List.cons.inj same).1.symm

/-- A callback takes one profile. -/
theorem profileTaken_once (lawful : Lawful answers condition (IdentifiesAll app requests) world past)
    (callback : (requests tid).isCallback = true) {exchange other : Exchange Reply}
    {profile another : YandexIdUserData} (member : exchange ∈ traceOf past tid)
    (taken : profileTaken app exchange = some profile) (present : other ∈ traceOf past tid)
    (again : profileTaken app other = some another) : another = profile := by
  have fetches {exchange : Exchange Reply} {profile : YandexIdUserData}
      (taken : profileTaken app exchange = some profile) : exchange.request.fetches = true := by
    by_contra other
    rw [profileTaken_eq_none (by simpa using other)] at taken
    cases taken
  obtain rfl := fetched_once lawful callback member (fetches taken) present (fetches again)
  exact Option.some.inj (again.symm.trans taken)

/-- The request resolves the provider id to the user: its look-up is of that id and finds that user, it
adds neither a user nor a link, and it ends with tokens of the user or with the error of the user's role
claims; an id that no column holds ends it at the look-up. -/
structure ResolvesTo (app : App Token) (requests : Tid → Request Token) (config : ServiceConfig Token)
    (tid : Tid) (providerUserId : String) (userId : UUID4) : Prop where
  looksUp : ∀ provider id found, ⟨.selectLinkedUser provider id, found⟩ ∈ traceOf config.past tid →
    provider = YANDEX ∧ id = providerUserId ∧ ∃ user, found = some user ∧ user.id = userId
  found : (config.threads tid).outcome?.isSome = true → ∃ user,
    ⟨.selectLinkedUser YANDEX providerUserId, some user⟩ ∈ traceOf config.past tid ∧ user.id = userId
  adds : ∀ event ∈ config.past, event.thread = tid →
    ∀ statement ∈ committed event, statement.addsIdentity = false
  ends : (requests tid).isAuthorize = true → ∀ outcome, (config.threads tid).outcome? = some outcome →
    (∃ pair, outcome = .ok (.tokens pair) ∧ ∀ token ∈ [pair.access, pair.refresh],
      ∃ claims, app.jwt.verify token = some claims ∧ claims.sub = userId) ∨
    (∃ user detail, user.id = userId ∧ resolveRoleClaims user = .error (.valueError detail) ∧
      outcome = .error (.valueError detail)) ∨
    storesText providerUserId = false ∧ outcome = .error (.dbError .data)

/-- Only a commit of such a statement adds a user or a link. -/
theorem adds_of_committed {event : ServiceEvent} {statement : Write} (among : statement ∈ committed event)
    (adds : statement.addsIdentity = true) : event.request.adds = true := by
  obtain ⟨thread, request, reply, before, after⟩ := event
  cases request with
  | commit session writes =>
    cases reply with
    | ok _ => exact List.any_eq_true.mpr ⟨statement, among, adds⟩
    | error error => cases among
  | _ => cases among

/-- Once a callback has resolved a provider id to a user, every callback that begins afterwards and is
given a profile with that id resolves it to the same user, whatever else runs before or in between. -/
theorem identity_stable (run : Reaches answers condition (started app world requests) earlier)
    (rest : Reaches answers condition earlier config) {first later : Tid}
    (resolved : ResolvedAs (traceOf earlier.past first) providerUserId userId)
    (callback : (requests later).isCallback = true) (unstarted : traceOf earlier.past later = [])
    {exchange : Exchange Reply} {profile : YandexIdUserData}
    (fetched : exchange ∈ traceOf config.past later) (taken : profileTaken app exchange = some profile)
    (same : profile.id = providerUserId) : ResolvesTo app requests config later providerUserId userId := by
  have whole := run.trans rest
  have lawful := (service_course whole).lawful
  have course := course_of_along (IdentifiesAll app requests)
    (fun tid trace _ => (requests tid).isCallback = true → LookedUp app trace) whole
    fun tid => (requests tid).identifies app
  have looksUp : ∀ provider id found, ⟨.selectLinkedUser provider id, found⟩ ∈ traceOf config.past later →
      provider = YANDEX ∧ id = providerUserId ∧ ∃ user, found = some user ∧ user.id = userId := by
    intro provider id found seen
    obtain ⟨newer, tail, split⟩ := List.append_of_mem seen
    obtain ⟨event, older, suffix, rfl, exchanged, _⟩ :=
      event_of_trace_suffix (split ▸ List.suffix_append newer _)
    obtain ⟨rfl, other, member, another, read, rfl⟩ :=
      ((course.lawful.suffix suffix).1.specified callback).looksUp provider id
        (congrArg Exchange.request exchanged)
    have within := (traceOf_suffix ((List.suffix_cons event older).trans suffix) event.thread).subset member
    obtain rfl := profileTaken_once course.lawful callback fetched taken within read
    rw [same] at seen ⊢
    exact ⟨rfl, rfl, lookup_found lawful rest.extends resolved unstarted seen⟩
  have adds : ∀ event ∈ config.past, event.thread = later →
      ∀ statement ∈ committed event, statement.addsIdentity = false := by
    rintro event member rfl statement among
    by_contra added
    obtain ⟨newer, older, split⟩ := List.append_of_mem member
    have here : event :: older <:+ config.past := split ▸ List.suffix_append newer _
    obtain ⟨id, missing⟩ := ((course.lawful.suffix here).1.specified callback).adds
      (adds_of_committed among (by simpa using added))
    have within := (traceOf_suffix ((List.suffix_cons event older).trans here) event.thread).subset missing
    obtain ⟨_, _, user, ⟨⟩, _⟩ := looksUp _ _ _ within
  have found : (config.threads later).outcome?.isSome = true → ∃ user,
      ⟨.selectLinkedUser YANDEX providerUserId, some user⟩ ∈ traceOf config.past later ∧ user.id = userId := by
    intro finished
    obtain ⟨outcome, ended⟩ := Option.isSome_iff_exists.mp finished
    obtain ⟨found, seen⟩ := course.finished ended callback exchange fetched profile taken
    obtain ⟨_, _, user, rfl, owner⟩ := looksUp _ _ _ seen
    exact ⟨user, same ▸ seen, owner⟩
  refine ⟨looksUp, found, adds, ?_⟩
  intro authorizes outcome ended
  obtain ⟨user, seen, rfl⟩ := found (by rw [ended]; rfl)
  obtain ⟨ends, finds, rfl⟩ := (course_of_along _ _ whole fun tid =>
    (requests tid).finds app).finished ended authorizes
  have shape := finds providerUserId user seen
  cases ends with
  | ok pair => exact .inl ⟨pair, rfl, shape⟩
  | error error =>
    obtain failed | ⟨unfit, rfl⟩ := shape
    · obtain ⟨detail, rfl⟩ := resolveRoleClaims_error failed
      exact .inr (.inl ⟨user, detail, rfl, failed, rfl⟩)
    · exact .inr (.inr ⟨unfit, rfl⟩)

end Runs

/-- Two callbacks of one account. -/
private def returningAccount : Tid → Request Claims :=
  pool [.authorize "code" (numbered 11).val ⟨none, none⟩ ⟨numbered 20, none⟩,
    .authorize "code" (numbered 12).val ⟨none, none⟩ ⟨numbered 21, none⟩]

/-- The provider's profile of the account 7 with an integer id. -/
private def integerProfile : ProviderReply :=
  .response 200 (.ok (.obj [("login", .str "login"), ("id", .int 7), ("client_id", .str "client"),
    ("psuid", .str "psuid"), ("default_email", .str "a@example.com"), ("first_name", .str "Ann"),
    ("last_name", .str "Lee"), ("display_name", .str "Ann"), ("real_name", .str "Ann Lee"),
    ("sex", .str "female")]))

/-- The second callback gives the id as a text and the email of the superuser, and still finds the user
of the first. -/
theorem identity_stable_other_email : ∃ (config : ServiceConfig Claims) (userId : UUID4),
    (config.threads 1).outcome?.isSome = true ∧
    ResolvesTo transparentApp returningAccount config 1 "7" userId := by
  have played : ((started transparentApp pendingLogins returningAccount).playAll World.answer unrestricted
      ([move 0, fetch 0 tokenReply, fetch 0 integerProfile, move 0, move 0, move 0, move 0 31, move 0,
        move 0 32, move 0, move 0 33, move 0, move 0, move 0, move 0, move 0 34, move 0, move 0 35,
        move 0 36, move 0, move 0])).any (fun earlier => (earlier.playAll World.answer unrestricted
      (fetchProfile 1 "7" "admin@example.com" ++ [move 1, move 1, move 1 37, move 1, move 1 38, move 1 39,
        move 1, move 1])).any fun config =>
          (returnedPair? (earlier.threads 0)).isSome && (traceOf earlier.past 1).isEmpty &&
          ((traceOf earlier.past 0).all fun exchange =>
            (profileRead transparentApp exchange).all fun profile => profile.id = "7") &&
          ((traceOf config.past 1).any fun exchange =>
            (profileTaken transparentApp exchange).any fun profile => profile.id = "7") &&
          (config.threads 1).outcome?.isSome) = true := by decide
  obtain ⟨earlier, config, run, rest, checked⟩ := Config.playAll_exists_exists played
  simp only [Bool.and_eq_true] at checked
  obtain ⟨⟨⟨⟨loggedIn, unstarted⟩, seven⟩, fetched⟩, finished⟩ := checked
  obtain ⟨pair, returned⟩ := Option.isSome_iff_exists.mp loggedIn
  obtain ⟨ends, shape, outcome⟩ := (course_of_along _ _ run fun tid =>
    (returningAccount tid).callback_ends transparentApp).done (returnedPair?_eq_some.mp returned) rfl
  cases ends with
  | error error => cases outcome
  | ok issuedPair =>
    obtain ⟨profile, user, ⟨exchange, member, read⟩, resolved, _⟩ := shape
    have first : profile.id = "7" := by
      have each := List.all_eq_true.mp seven exchange member
      rw [read] at each
      exact of_decide_eq_true each
    obtain ⟨again, present, given⟩ := List.any_eq_true.mp fetched
    obtain ⟨second, taken, same⟩ := (Option.any_eq_true _ _).mp given
    exact ⟨config, _, finished, identity_stable run rest (first ▸ resolved) rfl
      (List.isEmpty_iff.mp unstarted) present taken (of_decide_eq_true same)⟩

end AuthApi
