import AuthApi.Model.PasswordRoutes
import AuthApi.Run.Commits

/-! # Device ids

What the two dependencies make of a `device_id` cookie. The first one reads any UUID, the second one
admits version 4 only, so a cookie with another UUID ends the request. The cookie that a login sets
is read back as the id it was made of.
-/

namespace AuthApi

open Interleaving Interleaving.Program

section Device

variable {Token : Type} (app : App Token) (request : HttpRequest)

/-- `get_device_info` with the dependencies it needs. -/
def deviceInfoDependency : Action DeviceInfo := do
  let deviceId ← getOrCreateDeviceId request
  match getDeviceInfo app deviceId (getRequestMeta app request) with
  | .error error => throw error
  | .ok deviceInfo => return deviceInfo

/-- The UUID a request sends as its device id, in any spelling. -/
def HttpRequest.deviceUuid? : Option UUID := (request.cookie? "device_id").bind UUID.parse

/-- A request is served under the id it sent if that is admitted, else under one it has drawn. -/
def ServedUnder (trace : Trace Reply) (id : UUID4) : Prop :=
  match request.deviceUuid?.bind UUID.toUUID4 with
  | some known => id = known
  | none => ⟨.uuid4, id⟩ ∈ trace

/-- A request that sends the text of the id as its cookie gets the id again, without a draw. -/
def SentBack (id : UUID4) : Prop :=
  ∀ next : HttpRequest, next.cookie? "device_id" = some id.val.str →
    (deviceInfoDependency app next).Along (fun _ _ => False)
      (fun _ outcome => ∃ deviceInfo, outcome = .ok deviceInfo ∧ deviceInfo.deviceId = id) []

/-- Every `device_id` cookie of a response is the text of the id the request was served under. -/
def SetsDeviceId (trace : Trace Reply) (outcome : Except Exn (HttpResponse Token)) : Prop :=
  ∀ response, outcome = .ok response → ∀ cookie ∈ response.cookies, cookie.key = "device_id" →
    ∃ id, cookie.value = .text id.val.str ∧ ServedUnder request trace id ∧ SentBack app id

/-- The dependencies yield a device, and the routes that log in send its id to be sent back. -/
structure DeviceKept : Prop where
  resolved : (deviceInfoDependency app request).Along (fun _ call => call = .uuid4)
    (fun trace outcome => ∃ deviceInfo, outcome = .ok deviceInfo ∧
      ServedUnder request trace deviceInfo.deviceId) []
  login : ∀ loginData, (issueTokens app request loginData).Along (fun _ _ => True)
    (SetsDeviceId app request) []
  callback : (confirmLoginYandex app request).Along (fun _ _ => True) (SetsDeviceId app request) []

variable {app request}

/-- The first dependency returns the UUID of the cookie or draws one. -/
theorem getOrCreateDeviceId_eq : getOrCreateDeviceId request =
    match request.deviceUuid? with
    | some id => .done id
    | none => .call .uuid4 fun id => .done id.val := by
  unfold getOrCreateDeviceId HttpRequest.deviceUuid?
  cases request.cookie? "device_id" with
  | none => rfl
  | some rawDeviceId =>
    by_cases empty : rawDeviceId = ""
    · subst empty
      have unread : UUID.parse "" = none := by decide
      simp only [if_true, Option.bind_some, unread]
      rfl
    · simp only [if_neg empty, Option.bind_some]
      cases UUID.parse rawDeviceId <;> rfl

theorem ServedUnder.mono {trace later : Trace Reply} {id : UUID4} (served : ServedUnder request trace id)
    (grown : trace <:+ later) : ServedUnder request later id := by
  unfold ServedUnder at *
  split at served
  · exact served
  · exact grown.subset served

/-- Whatever the first dependency returns, the second admits only the id the request is served
under. -/
theorem getOrCreateDeviceId_served {spec : Trace Reply → Call → Prop} {trace : Trace Reply}
    (draws : spec trace .uuid4) :
    (getOrCreateDeviceId request).Along spec
      (fun later outcome => ∃ deviceId, outcome = .ok deviceId ∧
        ∀ id, deviceId.toUUID4 = some id → ServedUnder request later id) trace := by
  rw [getOrCreateDeviceId_eq]
  cases sent : request.deviceUuid? with
  | some uuid =>
    refine ⟨uuid, rfl, fun id admitted => ?_⟩
    simp [ServedUnder, sent, admitted]
  | none =>
    refine ⟨draws, fun drawn => ⟨drawn.val, rfl, fun id admitted => ?_⟩⟩
    rw [UUID4.toUUID4_val, Option.some.injEq] at admitted
    simp [ServedUnder, sent, admitted]

theorem getDeviceInfo_eq_ok {deviceId : UUID} {requestMeta : RequestMeta} {deviceInfo : DeviceInfo}
    (made : getDeviceInfo app deviceId requestMeta = .ok deviceInfo) :
    deviceId.toUUID4 = some deviceInfo.deviceId := by
  unfold getDeviceInfo at made
  split at made
  · next id admitted =>
    cases made
    exact admitted
  · cases made

/-- The text of an id is read back as the id. -/
theorem sentBack (id : UUID4) : SentBack app id := by
  intro next cookie
  have sent : next.deviceUuid? = some id.val := by
    rw [HttpRequest.deviceUuid?, cookie, Option.bind_some, UUID.parse_str]
  unfold deviceInfoDependency
  rw [getOrCreateDeviceId_eq, sent]
  simp only [bind_eq, done_bind, getDeviceInfo, UUID4.toUUID4_val]
  exact ⟨_, rfl, rfl⟩

theorem SetsDeviceId.raised {trace : Trace Reply} (error : Exn) :
    SetsDeviceId app request trace (.error error) := by
  intro response same
  cases same

theorem SetsDeviceId.mono {trace later : Trace Reply} {outcome : Except Exn (HttpResponse Token)}
    (sets : SetsDeviceId app request trace outcome) (grown : trace <:+ later) :
    SetsDeviceId app request later outcome := by
  intro response same cookie among named
  obtain ⟨id, value, served, back⟩ := sets response same cookie among named
  exact ⟨id, value, served.mono grown, back⟩

/-- The middleware adds no cookie to a response, and an error has none. -/
theorem SetsDeviceId.sent {trace : Trace Reply} {outcome : Except Exn (HttpResponse Token)}
    (sets : SetsDeviceId app request trace outcome) (requestId : String) :
    SetsDeviceId app request trace (.ok (app.sent requestId outcome)) := by
  rintro _ ⟨⟩ cookie among named
  cases outcome with
  | ok response => exact sets response rfl cookie (response.withRequestId_cookies_subset _ _ among) named
  | error error =>
    rw [App.sent_error_cookies] at among
    cases among

/-- After the dependencies a route knows the device it serves. -/
theorem deviceRoute_along {http : HttpRequest} {requestMeta : RequestMeta} {spec : Trace Reply → Call → Prop}
    {post : Trace Reply → Except Exn (HttpResponse Token) → Prop}
    {serve : DeviceInfo → Action (HttpResponse Token)} {trace : Trace Reply}
    (draws : spec trace .uuid4) (closes : ∀ later, spec later .close) (fails : ∀ later error, post later (.error error))
    (serves : ∀ deviceInfo later, ServedUnder http later deviceInfo.deviceId →
      (serve deviceInfo).Along spec (fun last outcome => post (⟨.close, ()⟩ :: last) outcome) later) :
    (do
      let deviceId ← getOrCreateDeviceId http
      match getDeviceInfo app deviceId requestMeta with
      | .error error => throw error
      | .ok deviceInfo => withSession (serve deviceInfo) : Action (HttpResponse Token)).Along spec post trace := by
  apply Along.bind (getOrCreateDeviceId_served draws)
  · rintro _ later ⟨deviceId, ⟨⟩, served⟩
    split
    · exact fails _ _
    · next deviceInfo made =>
      exact along_withSession closes (serves deviceInfo later (served _ (getDeviceInfo_eq_ok made)))
  · rintro error later ⟨_, ⟨⟩, _⟩

/-- After the dependencies a route may do anything, as long as its response names the device. -/
theorem deviceRoute_sets {http : HttpRequest} {requestMeta : RequestMeta}
    {serve : DeviceInfo → Action (HttpResponse Token)} {trace : Trace Reply}
    (serves : ∀ deviceInfo later, ServedUnder http later deviceInfo.deviceId →
      (serve deviceInfo).Along (fun _ _ => True) (SetsDeviceId app http) later) :
    (do
      let deviceId ← getOrCreateDeviceId http
      match getDeviceInfo app deviceId requestMeta with
      | .error error => throw error
      | .ok deviceInfo => withSession (serve deviceInfo) : Action (HttpResponse Token)).Along
      (fun _ _ => True) (SetsDeviceId app http) trace := by
  apply deviceRoute_along trivial (fun _ => trivial) fun _ error => SetsDeviceId.raised error
  intro deviceInfo later served
  apply (serves deviceInfo later served).mono (fun _ _ _ => trivial)
  exact fun _ _ sets => sets.mono (List.suffix_cons _ _)

/-- A login that ends in a response whose `device_id` cookie names the device. -/
theorem login_sets {trace : Trace Reply} {deviceInfo : DeviceInfo} {login : Action (TokenData Token)}
    {response : TokenData Token → HttpResponse Token}
    (served : ServedUnder request trace deviceInfo.deviceId)
    (named : ∀ tokens, ∀ cookie ∈ (response tokens).cookies, cookie.key = "device_id" →
      cookie.value = .text deviceInfo.deviceId.val.str) :
    (do return response (← login)).Along (fun _ _ => True) (SetsDeviceId app request) trace := by
  apply Along.bind along_any.extends
  · rintro tokens later ⟨_, grown⟩ _ ⟨⟩ cookie among same
    exact ⟨deviceInfo.deviceId, named tokens cookie among same, served.mono grown, sentBack _⟩
  · exact fun error _ _ => SetsDeviceId.raised error

theorem tokensIssued_named (tokens : TokenData Token) (deviceInfo : DeviceInfo) :
    ∀ cookie ∈ (tokensIssued app tokens deviceInfo).cookies, cookie.key = "device_id" →
      cookie.value = .text deviceInfo.deviceId.val.str := by
  simp [tokensIssued]

theorem loginConfirmed_named (tokens : TokenData Token) (deviceInfo : DeviceInfo) :
    ∀ cookie ∈ (loginConfirmed app tokens deviceInfo).cookies, cookie.key = "device_id" →
      cookie.value = .text deviceInfo.deviceId.val.str := by
  simp [loginConfirmed]

theorem issueTokens_sets (http : HttpRequest) (loginData : Option UserLoginData) :
    (issueTokens app http loginData).Along (fun _ _ => True) (SetsDeviceId app http) [] := by
  apply along_requestIdMiddleware (q := SetsDeviceId app http) (fun _ => trivial)
  · intro drawn _
    apply Along.bind along_any
    · intro _ later _
      apply deviceRoute_sets
      intro deviceInfo later served
      cases loginData with
      | none => exact SetsDeviceId.raised _
      | some data => exact login_sets served fun tokens => tokensIssued_named tokens deviceInfo
    · exact fun error _ _ => SetsDeviceId.raised error
  · exact fun later outcome requestId sets => sets.sent requestId

theorem confirmLoginYandex_sets (http : HttpRequest) :
    (confirmLoginYandex app http).Along (fun _ _ => True) (SetsDeviceId app http) [] := by
  apply along_requestIdMiddleware (q := SetsDeviceId app http) (fun _ => trivial)
  · intro drawn _
    apply Along.bind along_any
    · intro _ later _
      simp only
      split
      · exact SetsDeviceId.raised _
      · apply deviceRoute_sets
        intro deviceInfo later served
        split
        · exact login_sets served fun tokens => loginConfirmed_named tokens deviceInfo
        · exact SetsDeviceId.raised _
    · exact fun error _ _ => SetsDeviceId.raised error
  · exact fun later outcome requestId sets => sets.sent requestId

/-- A UUID that the request sends is admitted only if it is of version 4. -/
theorem version_of_resolved {post : Trace Reply → DeviceInfo → Prop}
    {spec : Trace Reply → Call → Prop} (resolved : (deviceInfoDependency app request).Along spec
      (fun trace outcome => ∃ deviceInfo, outcome = .ok deviceInfo ∧ post trace deviceInfo) [])
    {uuid : UUID} (sent : request.deviceUuid? = some uuid) : uuid.version = some 4 := by
  unfold deviceInfoDependency at resolved
  rw [getOrCreateDeviceId_eq, sent] at resolved
  by_contra other
  simp only [bind_eq, done_bind, getDeviceInfo, UUID.toUUID4, other] at resolved
  obtain ⟨_, raised, _⟩ := resolved
  cases raised

/-- The dependencies admit a request, and its device id comes back, exactly when the UUID of its
cookie is of version 4 or it sends none that can be read. -/
theorem device_kept_iff (app : App Token) (request : HttpRequest) :
    DeviceKept app request ↔ ∀ uuid, request.deviceUuid? = some uuid → uuid.version = some 4 := by
  constructor
  · intro kept uuid sent
    exact version_of_resolved kept.resolved sent
  · intro admitted
    refine ⟨?_, issueTokens_sets request, confirmLoginYandex_sets request⟩
    unfold deviceInfoDependency
    rw [getOrCreateDeviceId_eq]
    cases sent : request.deviceUuid? with
    | some uuid =>
      obtain ⟨id, rfl⟩ : ∃ id : UUID4, uuid = id.val := ⟨⟨uuid, admitted uuid sent⟩, rfl⟩
      simp only [bind_eq, done_bind, getDeviceInfo, UUID4.toUUID4_val]
      exact ⟨_, rfl, by simp [ServedUnder, sent]⟩
    | none =>
      refine ⟨rfl, fun drawn => ?_⟩
      simp only [done_bind, getDeviceInfo, UUID4.toUUID4_val]
      exact ⟨_, rfl, by simp [ServedUnder, sent]⟩

end Device

/-- A request with a device id and nothing else. -/
private def withDevice (deviceId : String) : HttpRequest :=
  ⟨"POST", some "198.51.100.7", [], [("device_id", deviceId)], []⟩

/-- The UUID of version 1 in a cookie ends the request with an error nobody handles. -/
theorem device_id_versionOne :
    ¬ DeviceKept transparentApp (withDevice "6ba7b810-9dad-11d1-80b4-00c04fd430c8") := by
  intro kept
  have sent : (withDevice "6ba7b810-9dad-11d1-80b4-00c04fd430c8").deviceUuid? =
      some ⟨0x6ba7b8109dad11d180b400c04fd430c8⟩ := by decide
  exact absurd (version_of_resolved kept.resolved sent) (by decide)

end AuthApi
