import AuthApi.Run.Programs

/-! # The stages of a Yandex callback

What each stage of `authorize` up to the user returns or raises, in terms of the replies of Redis, of the
provider and of the database. Most failures are domain errors; a body that is not JSON text at all and
an access token outside ASCII escape as library errors, and a profile that the database does not hold as
one of the database (`ProviderFault`).
-/

namespace AuthApi

open Interleaving Interleaving.Program DbHelpers YandexIdService

/-- The errors `confirm_login_yandex` translates. -/
def Exn.isYandexError : Exn → Bool
  | .yandexIdStateError _ => true
  | .yandexIdTokenError _ => true
  | .yandexIdProviderError _ => true
  | .yandexIdUserInfoError _ => true
  | .yandexIdAccountConflictError _ => true
  | _ => false

/-- The provider's body could not be decoded, other than by a JSON syntax error. -/
def unreadableBody : Exchange Reply → Option JsonError
  | ⟨.httpPost _ _ _, .response _ (.error fault)⟩ => if fault = .decode then none else some fault
  | ⟨.httpGet _ _ _, .response _ (.error fault)⟩ => if fault = .decode then none else some fault
  | _ => none

def isAscii (text : String) : Bool := text.toList.all fun c => c.toNat < 128

section Provider

variable {Token : Type} (app : App Token)

/-- The token data in the provider's reply to the code exchange. -/
def tokenDataRead : Exchange Reply → Option YandexIdTokenData
  | ⟨.httpPost _ _ _, .response _ (.ok (.obj fields))⟩ =>
      YandexIdTokenData.modelValidate app.pydantic fields
  | _ => none

/-- The profile in the provider's reply to the profile request. -/
def profileRead : Exchange Reply → Option YandexIdUserData
  | ⟨.httpGet _ _ _, .response _ (.ok (.obj fields))⟩ =>
      YandexIdUserData.modelValidate app.pydantic fields
  | _ => none

def SawProfile (trace : Trace Reply) (profile : YandexIdUserData) : Prop :=
  ∃ exchange ∈ trace, profileRead app exchange = some profile

/-- The database holds every text that it is given of a profile. -/
def App.storesProfile (profile : YandexIdUserData) : Bool :=
  app.storesKey profile.id && storesText profile.firstName && storesText profile.lastName

/-- The library errors a reply of the provider can cause. -/
def ProviderFault (trace : Trace Reply) (error : Exn) : Prop :=
  (∃ exchange ∈ trace, ∃ fault, unreadableBody exchange = some fault ∧ error = .jsonError fault) ∨
  (∃ exchange ∈ trace, ∃ data, tokenDataRead app exchange = some data ∧
    isAscii data.accessToken = false) ∧ error = .unicodeEncodeError ∨
  (∃ profile, SawProfile app trace profile ∧ app.storesProfile profile = false) ∧ error = .dbError .data

variable {app} {trace later : Trace Reply} {spec : Trace Reply → Call → Prop}

theorem SawProfile.mono {profile : YandexIdUserData} (fetched : SawProfile app trace profile)
    (grown : trace <:+ later) : SawProfile app later profile := by
  obtain ⟨exchange, member, read⟩ := fetched
  exact ⟨exchange, grown.subset member, read⟩

theorem ProviderFault.mono {error : Exn} (fault : ProviderFault app trace error)
    (grown : trace <:+ later) : ProviderFault app later error := by
  obtain ⟨exchange, member, fault⟩ | ⟨⟨exchange, member, data⟩, same⟩ | ⟨⟨profile, fetched, unfit⟩, same⟩ := fault
  · exact .inl ⟨exchange, grown.subset member, fault⟩
  · exact .inr (.inl ⟨⟨exchange, grown.subset member, data⟩, same⟩)
  · exact .inr (.inr ⟨⟨profile, fetched.mono grown, unfit⟩, same⟩)

theorem safeJson_eq_ok {json : Except JsonError Json} {fields : List (String × Json)}
    (parsed : safeJson json = .ok fields) : json = .ok (.obj fields) ∨ fields = [] := by
  unfold safeJson at parsed
  split at parsed <;> cases parsed
  · exact .inl rfl
  · exact .inr rfl
  · exact .inr rfl

theorem safeJson_eq_error {json : Except JsonError Json} {error : Exn}
    (failed : safeJson json = .error error) :
    ∃ fault, json = .error fault ∧ fault ≠ .decode ∧ error = .jsonError fault := by
  unfold safeJson at failed
  split at failed
  · cases failed
  · cases failed
  · cases failed
  · next fault differ =>
    cases failed
    exact ⟨fault, rfl, differ, rfl⟩

theorem consumeCachedState_along (state : UUID)
    (consumes : spec trace (.redisGetdel (stateCacheKey state))) :
    (consumeCachedState state).Along spec
      (fun later outcome => trace <:+ later ∧ match outcome with
        | .ok codeVerifier =>
            later = ⟨.redisGetdel (stateCacheKey state), .ok (some (.codeVerifier codeVerifier))⟩ ::
              trace
        | .error error => error.isYandexError = true) trace := by
  refine ⟨consumes, fun reply => ?_⟩
  cases reply with
  | error error => exact ⟨List.suffix_cons _ _, rfl⟩
  | ok entry =>
    cases entry with
    | none => exact ⟨List.suffix_cons _ _, rfl⟩
    | some value => cases value <;> exact ⟨List.suffix_cons _ _, rfl⟩

theorem exchangeCode_along (code codeVerifier : String) (deviceInfo : DeviceInfo)
    (posts : spec trace (.httpPost app.yandexidSettings.tokenUrl
      { code, codeVerifier, deviceId := deviceInfo.deviceId, deviceName := deviceInfo.deviceName }
      app.yandexidSettings.authHeader)) :
    (exchangeCode app code codeVerifier deviceInfo).Along spec
      (fun later outcome => trace <:+ later ∧ match outcome with
        | .ok data => ∃ exchange ∈ later, tokenDataRead app exchange = some data
        | .error error => error.isYandexError = true ∨ ProviderFault app later error) trace := by
  refine ⟨posts, fun reply => ?_⟩
  cases reply with
  | requestError => exact ⟨List.suffix_cons _ _, .inl rfl⟩
  | response status json =>
    simp only [done_bind]
    cases parsed : safeJson json with
    | error error =>
      obtain ⟨fault, rfl, differ, rfl⟩ := safeJson_eq_error parsed
      refine ⟨List.suffix_cons _ _, .inr (.inl ⟨_, List.mem_cons_self, fault, ?_, rfl⟩)⟩
      simp [unreadableBody, differ]
    | ok fields =>
      simp only
      split
      · exact ⟨List.suffix_cons _ _, .inl rfl⟩
      · split
        · exact ⟨List.suffix_cons _ _, .inl rfl⟩
        · next data valid =>
          refine ⟨List.suffix_cons _ _, _, List.mem_cons_self, ?_⟩
          obtain rfl | rfl := safeJson_eq_ok parsed
          · exact valid
          · cases valid

theorem fetchUserInfo_along (accessToken : String)
    (gets : ∀ trace url params authorization, spec trace (.httpGet url params authorization)) :
    (fetchUserInfo app accessToken).Along spec
      (fun later outcome => trace <:+ later ∧ match outcome with
        | .ok profile => SawProfile app later profile
        | .error error => error.isYandexError = true ∨
            (∃ exchange ∈ later, ∃ fault, unreadableBody exchange = some fault ∧
              error = .jsonError fault) ∨
            isAscii accessToken = false ∧ error = .unicodeEncodeError) trace := by
  unfold fetchUserInfo
  split
  · refine ⟨gets _ _ _ _, fun reply => ?_⟩
    cases reply with
    | requestError => exact ⟨List.suffix_cons _ _, .inl rfl⟩
    | response status json =>
      simp only [done_bind]
      cases parsed : safeJson json with
      | error error =>
        obtain ⟨fault, rfl, differ, rfl⟩ := safeJson_eq_error parsed
        refine ⟨List.suffix_cons _ _, .inr (.inl ⟨_, List.mem_cons_self, fault, ?_, rfl⟩)⟩
        simp [unreadableBody, differ]
      | ok fields =>
        simp only
        split
        · exact ⟨List.suffix_cons _ _, .inl rfl⟩
        · split
          · exact ⟨List.suffix_cons _ _, .inl rfl⟩
          · next profile valid =>
            refine ⟨List.suffix_cons _ _, _, List.mem_cons_self, ?_⟩
            obtain rfl | rfl := safeJson_eq_ok parsed
            · exact valid
            · cases valid
  · next notAscii =>
    exact ⟨List.suffix_refl _, .inr (.inr ⟨by simpa [isAscii] using notAscii, rfl⟩)⟩

/-- How the link of an account may end: linked and read again, or without an instance. -/
inductive AttachEnds (app : App Token) (pending : List Write) (user : UserObject)
    (provider providerUserId : String) (trace : Trace Reply) : Trace Reply → Except Exn UserObject → Prop
  | unstored (id : UUID4) (unfit : app.fitsIndex providerUserId = false) :
      AttachEnds app pending user provider providerUserId trace (⟨.uuid4, id⟩ :: trace) (.error (.dbError .data))
  | linked (id : UUID4) (refreshed : UserObject) :
      AttachEnds app pending user provider providerUserId trace
        (⟨.refreshUser user.id (user.role != .noValue), some refreshed⟩ ::
          ⟨.commit .request (pending ++ [.insertOAuthAccount ⟨id, provider, providerUserId, user.id⟩]),
            .ok ()⟩ :: ⟨.uuid4, id⟩ :: trace) (.ok refreshed)
  | vanished (id : UUID4) :
      AttachEnds app pending user provider providerUserId trace
        (⟨.refreshUser user.id (user.role != .noValue), none⟩ ::
          ⟨.commit .request (pending ++ [.insertOAuthAccount ⟨id, provider, providerUserId, user.id⟩]),
            .ok ()⟩ :: ⟨.uuid4, id⟩ :: trace) (.error .invalidRequestError)
  | conflict (id : UUID4) (detail : String) :
      AttachEnds app pending user provider providerUserId trace
        (⟨.rollback, ()⟩ ::
          ⟨.commit .request (pending ++ [.insertOAuthAccount ⟨id, provider, providerUserId, user.id⟩]),
            .error .integrity⟩ :: ⟨.uuid4, id⟩ :: trace) (.error (.yandexIdAccountConflictError detail))
  | stale (id : UUID4) (fault : DbError) (other : fault ≠ .integrity) :
      AttachEnds app pending user provider providerUserId trace
        (⟨.commit .request (pending ++ [.insertOAuthAccount ⟨id, provider, providerUserId, user.id⟩]),
          .error fault⟩ :: ⟨.uuid4, id⟩ :: trace) (.error (.dbError fault))

theorem AttachEnds.grown {pending : List Write} {user : UserObject} {provider providerUserId : String}
    {outcome : Except Exn UserObject}
    (ends : AttachEnds app pending user provider providerUserId trace later outcome) : trace <:+ later := by
  cases ends with
  | unstored id unfit => exact List.suffix_cons _ _
  | linked id refreshed => exact List.suffix_append [_, _, _] trace
  | vanished id => exact List.suffix_append [_, _, _] trace
  | conflict id detail => exact List.suffix_append [_, _, _] trace
  | stale id fault other => exact List.suffix_append [_, _] trace

theorem attachOauthAccount_along (pending : List Write) (user : UserObject)
    (provider providerUserId : String) (silent : ∀ later call, call.isSilent = true → spec later call)
    (commits : ∀ id, spec (⟨.uuid4, id⟩ :: trace) (.commit .request
      (pending ++ [.insertOAuthAccount ⟨id, provider, providerUserId, user.id⟩]))) :
    (attachOauthAccount app pending user provider providerUserId).Along spec
      (AttachEnds app pending user provider providerUserId trace) trace := by
  refine ⟨silent _ _ rfl, fun id => along_accept (fun _ => ⟨commits id, fun reply => ?_⟩) fun unfit =>
    .unstored id unfit⟩
  rcases reply with (_ | _ | _) | _
  · exact ⟨silent _ _ rfl, fun _ => .conflict id _⟩
  · exact .stale id _ nofun
  · exact .stale id _ nofun
  · refine ⟨silent _ _ rfl, fun found => ?_⟩
    cases found with
    | none => exact .vanished id
    | some refreshed => exact .linked id refreshed

theorem App.storesProfile_of_id {profile : YandexIdUserData} (unfit : app.storesKey profile.id = false) :
    app.storesProfile profile = false := by simp [App.storesProfile, unfit]

/-- How a profile may be resolved: it has a user, the user of its email is linked, or a new one is. -/
inductive ResolveEnds (app : App Token) (profile : YandexIdUserData) (trace : Trace Reply) :
    Trace Reply → Except Exn (Option UserObject) → Prop
  | unstored (later : Trace Reply) (grown : trace <:+ later) (unfit : app.storesProfile profile = false) :
      ResolveEnds app profile trace later (.error (.dbError .data))
  | found (user : UserObject) :
      ResolveEnds app profile trace (⟨.selectLinkedUser YANDEX profile.id, some user⟩ :: trace) (.ok (some user))
  | linked (user refreshed : UserObject) (later : Trace Reply)
      (attached : AttachEnds app [] user YANDEX profile.id
        (⟨.selectUserByEmail profile.defaultEmail true, some user⟩ ::
          ⟨.selectLinkedUser YANDEX profile.id, none⟩ :: trace) later (.ok refreshed)) :
      ResolveEnds app profile trace later (.ok (some refreshed))
  | unlinked (user : UserObject) (later : Trace Reply) (error : Exn)
      (attached : AttachEnds app [] user YANDEX profile.id
        (⟨.selectUserByEmail profile.defaultEmail true, some user⟩ ::
          ⟨.selectLinkedUser YANDEX profile.id, none⟩ :: trace) later (.error error)) :
      ResolveEnds app profile trace later (.error error)
  | unassigned (later : Trace Reply) (fault : DbError) (grown : trace <:+ later)
      (absent : ⟨.selectRoleByTitle DEFAULT_ROLE_TITLE, none⟩ ∈ later) :
      ResolveEnds app profile trace later (.error (.dbError fault))
  | refused (user : NewUser) (roleId : UUID4) (later : Trace Reply) (fault : DbError)
      (grown : trace <:+ later) (holds : user.roleId = some roleId) (saw : SawDefaultRole later roleId) :
      ResolveEnds app profile trace (⟨.flush [.insertUser user], .error fault⟩ :: later)
        (.error (.dbError fault))
  | failed (user : NewUser) (middle later : Trace Reply) (error : Exn) (grown : trace <:+ middle)
      (attached : AttachEnds app [.insertUser user] (newUserObject user) YANDEX profile.id middle later
        (.error error)) : ResolveEnds app profile trace later (.error error)
  | added (user : NewUser) (middle later : Trace Reply) (created stored : UserObject)
      (grown : trace <:+ middle)
      (attached : AttachEnds app [.insertUser user] (newUserObject user) YANDEX profile.id middle later
        (.ok created)) :
      ResolveEnds app profile trace (⟨.selectUserById created.id true, some stored⟩ :: later)
        (.ok (some { created with role := stored.role }))
  | vanished (user : NewUser) (middle later : Trace Reply) (created : UserObject)
      (grown : trace <:+ middle)
      (attached : AttachEnds app [.insertUser user] (newUserObject user) YANDEX profile.id middle later
        (.ok created)) :
      ResolveEnds app profile trace (⟨.selectUserById created.id true, none⟩ :: later) (.ok none)

theorem ResolveEnds.grown {profile : YandexIdUserData} {outcome : Except Exn (Option UserObject)}
    (ends : ResolveEnds app profile trace later outcome) : trace <:+ later := by
  cases ends with
  | unstored _ grown unfit => exact grown
  | found user => exact List.suffix_cons _ _
  | linked user refreshed _ attached => exact (List.suffix_append [_, _] trace).trans attached.grown
  | unlinked user _ error attached => exact (List.suffix_append [_, _] trace).trans attached.grown
  | unassigned _ fault grown absent => exact grown
  | refused user roleId rest fault grown holds saw => exact grown.trans (List.suffix_cons _ _)
  | failed user middle _ error grown attached => exact grown.trans attached.grown
  | added user middle rest created stored grown attached =>
    exact (grown.trans attached.grown).trans (List.suffix_cons _ _)
  | vanished user middle rest created grown attached =>
    exact (grown.trans attached.grown).trans (List.suffix_cons _ _)

/-- A link is committed for the user who has the email, or together with a user who has the default role. -/
theorem resolveUser_along (profile : YandexIdUserData)
    (silent : ∀ later call, call.isSilent = true → spec later call)
    (creates : ∀ later id, ⟨.selectRoleByTitle DEFAULT_ROLE_TITLE, none⟩ ∈ later →
      spec later (.commit .defaultRole
        [.insertRole ⟨id, DEFAULT_ROLE_TITLE, DEFAULT_ROLE_ACCESS_LABELS⟩]))
    (links : ∀ later (user : UserObject) id, trace <:+ later →
      ⟨.selectUserByEmail profile.defaultEmail true, some user⟩ ∈ later →
        spec later (.commit .request [.insertOAuthAccount ⟨id, YANDEX, profile.id, user.id⟩]))
    (adds : ∀ later (user : NewUser) roleId id, trace <:+ later → user.isSuperuser = false →
      user.email = profile.defaultEmail → user.roleId = some roleId → SawDefaultRole later roleId →
        spec later (.commit .request
          [.insertUser user, .insertOAuthAccount ⟨id, YANDEX, profile.id, user.id⟩])) :
    (resolveUser app profile).Along spec (ResolveEnds app profile trace) trace := by
  refine ⟨silent _ _ rfl, fun linked => along_accept (fun _ => ?_) fun unfit => .unstored _
    (List.suffix_cons _ _) (App.storesProfile_of_id (by simp [App.storesKey, unfit]))⟩
  cases linked with
  | some user => exact .found user
  | none =>
    refine ⟨silent _ _ rfl, fun found => ?_⟩
    cases found with
    | some user =>
      simp only [done_bind]
      apply Along.bind (attachOauthAccount_along [] user YANDEX profile.id silent
        fun id => links _ user id (List.suffix_append [_, _, _] trace) (by simp))
      · exact fun refreshed later attached => .linked user refreshed later attached
      · exact fun error later attached => .unlinked user later error attached
    | none =>
      simp only [done_bind]
      apply Along.bind (getOrCreateDefaultRole_along (fun _ => silent _ _ rfl) (fun _ => silent _ _ rfl)
        creates)
      · rintro role later ⟨grown, saw⟩
        have grown : trace <:+ later := (List.suffix_append [_, _] trace).trans grown
        refine ⟨silent _ _ rfl, fun password => ⟨silent _ _ rfl, fun salt => ⟨silent _ _ rfl, fun id =>
          along_accept (fun _ => ⟨silent _ _ rfl, fun reply => ?_⟩) fun unfit => ?_⟩⟩⟩
        rotate_left
        · refine .unstored _ (grown.trans (List.suffix_append [_, _, _] later)) ?_
          simpa [App.storesProfile, Bool.and_assoc] using fun _ => unfit
        cases reply with
        | error fault =>
          exact .refused _ role.id _ fault (grown.trans (List.suffix_append [_, _, _] later)) rfl
            (saw.mono (List.suffix_append [_, _, _] later))
        | ok _ =>
          simp only [attempt_ok, done_bind]
          have longer (writes : List Write) : trace <:+ ⟨.flush writes, .ok ()⟩ :: ⟨.uuid4, id⟩ ::
              ⟨.salt, salt⟩ :: ⟨.uuid4, password⟩ :: later :=
            grown.trans (List.suffix_append [_, _, _, _] later)
          apply Along.bind (attachOauthAccount_along _ _ YANDEX profile.id silent
            fun linkId => adds _ _ role.id linkId ((longer _).trans (List.suffix_cons _ _)) rfl rfl rfl
              (saw.mono (List.suffix_append [_, _, _, _, _] later)))
          · intro created last attached
            refine ⟨silent _ _ rfl, fun found => ?_⟩
            cases found with
            | none => exact .vanished _ _ last created (longer _) attached
            | some stored => exact .added _ _ last created stored (longer _) attached
          · exact fun error last attached => .failed _ _ last error (longer _) attached
      · rintro error later ⟨grown, absent, fault, rfl⟩
        exact .unassigned later fault ((List.suffix_append [_, _] trace).trans grown) absent

/-- How the resolution ends, whatever it is answered. -/
theorem resolveUser_ends (profile : YandexIdUserData) :
    (resolveUser app profile).Along (fun _ _ => True) (ResolveEnds app profile trace) trace :=
  resolveUser_along profile (fun _ _ _ => trivial) (fun _ _ _ => trivial) (fun _ _ _ _ _ => trivial)
    fun _ _ _ _ _ _ _ _ _ => trivial

end Provider

end AuthApi
