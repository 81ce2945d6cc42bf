import AuthApi.Properties.DeviceIds
import AuthApi.Properties.LoginHistories
import AuthApi.Run.TokenOrigins

/-! # The trail of logins

The rows of `login_history` are kept as they were written, and each of them was written by a login: by a request that
proved its user with a password or a Yandex profile, with the address, the client and the device of that request.
-/

namespace AuthApi

open Interleaving Interleaving.Program

variable {Token : Type} {app : App Token}

/-- The client and the device of a login. -/
def Request.loginContext? : Request Token → Option (RequestMeta × Option DeviceInfo)
  | .loginUser _ requestMeta deviceInfo => some (requestMeta, deviceInfo)
  | .authorize _ _ requestMeta deviceInfo => some (requestMeta, some deviceInfo)
  | _ => none

/-- A request that writes a row of the history is a login, and the row is about it. -/
def RecordsItself (app : App Token) (request : Request Token) (trace : Trace Reply) (call : Call) : Prop :=
  call.records = true → ∃ id copy requestMeta deviceInfo,
    request.loginContext? = some (requestMeta, deviceInfo) ∧ request.EntitledTo app trace copy ∧
      call = .commit .request [.insertLoginHistory (buildLoginHistory id copy.id requestMeta deviceInfo)]

section Programs

variable {request : Request Token} {trace : Trace Reply} {copy user : UserObject}

theorem recordsItself_of_not {call : Call} (other : call.records = false) : RecordsItself app request trace call := by
  intro records
  rw [other] at records
  cases records

/-- The end of a login. -/
theorem issue_and_record_itself {requestMeta : RequestMeta} {deviceInfo : Option DeviceInfo}
    (context : request.loginContext? = some (requestMeta, deviceInfo)) (entitled : request.EntitledTo app trace copy)
    (same : user.id = copy.id) :
    (do
      let tokens ← issueTokenPair app user
      saveLoginHistory user.id requestMeta deviceInfo
      return tokens : Action (TokenData Token)).Along (RecordsItself app request) (fun _ _ => True) trace := by
  apply Along.bind (issueTokenPair_along (fun _ => recordsItself_of_not rfl) (fun _ => recordsItself_of_not rfl) user)
  · rintro tokens middle ⟨grown, _⟩
    have entitled := entitled.mono fun _ seen => grown.subset seen
    refine ⟨recordsItself_of_not rfl, fun id => ⟨fun _ => ?_, fun reply => ?_⟩⟩
    · exact ⟨id, copy, requestMeta, deviceInfo, context, entitled.mono fun _ => List.mem_cons_of_mem _, by rw [same]⟩
    · cases reply with
      | ok _ => trivial
      | error error => exact ⟨recordsItself_of_not rfl, fun _ => trivial⟩
  · exact fun _ _ _ => trivial

theorem Request.recordsItself (app : App Token) {request : Request Token}
    (direct : ∀ http, request ≠ .confirmLoginYandex http) :
    (request.program app).Along (RecordsItself app request) (fun _ _ => True) [] := by
  have session {body : Action (TokenData Token)} (along : body.Along (RecordsItself app request) (fun _ _ => True) []) :
      (withSession do return Outcome.tokens (← body)).Along (RecordsItself app request) (fun _ _ => True) [] :=
    along_withSession (fun _ => recordsItself_of_not rfl)
      (Along.bind along (fun _ _ _ => trivial) fun _ _ _ => trivial)
  by_cases login : request.isLogin = true
  · cases request with
    | loginUser data requestMeta deviceInfo =>
      exact session (loginUser_entitles (fun _ _ => recordsItself_of_not) (fun _ _ => trivial) data requestMeta
        deviceInfo
        fun _ _ _ _ entitled same => issue_and_record_itself rfl entitled same)
    | authorize code state requestMeta deviceInfo =>
      exact session (authorize_entitles (fun _ _ => recordsItself_of_not) (fun _ _ => trivial) code state requestMeta
        deviceInfo fun _ _ _ _ entitled same => issue_and_record_itself rfl entitled same)
    | _ => cases login
  · have other : request.isLogin = false := by simpa using login
    exact (Request.unrecording other direct).mono (fun _ _ => recordsItself_of_not) fun _ _ ends => ends

end Programs

/-- The rows that a call adds name the device the request is served under. -/
def NamesDevice (http : HttpRequest) (trace : Trace Reply) (call : Call) : Prop :=
  ∀ session writes entry, call = .commit session writes → Write.insertLoginHistory entry ∈ writes →
    ∃ id : UUID4, entry.deviceId = some id.val.str ∧ ServedUnder http trace id

/-- The request is one that may log a user in. -/
def ApiRequest.LogsIn (request : ApiRequest Token) : Prop :=
  (∃ http data, request = .issueTokens http (.data data)) ∨ ∃ http, request = .confirmLoginYandex http

section Devices

variable {http : HttpRequest} {trace : Trace Reply} {user : UserObject}

theorem namesDevice_of_not {call : Call} (other : call.records = false) : NamesDevice http trace call := by
  rintro session writes entry rfl member
  have quiet : writes.any Write.isHistory = false := other
  exact absurd rfl (List.any_eq_false.mp quiet _ member)

/-- The row of a login names the device of the login. -/
theorem issue_and_record_names {requestMeta : RequestMeta} {deviceInfo : DeviceInfo}
    (served : ServedUnder http trace deviceInfo.deviceId) :
    (do
      let tokens ← issueTokenPair app user
      saveLoginHistory user.id requestMeta (some deviceInfo)
      return tokens : Action (TokenData Token)).Along (NamesDevice http) (fun _ _ => True) trace := by
  apply Along.bind (issueTokenPair_along (fun _ => namesDevice_of_not rfl) (fun _ => namesDevice_of_not rfl) user)
  · rintro tokens middle ⟨grown, _⟩
    refine ⟨namesDevice_of_not rfl, fun id => ⟨?_, fun reply => ?_⟩⟩
    · rintro session writes entry ⟨⟩ member
      cases List.mem_singleton.mp member
      exact ⟨deviceInfo.deviceId, rfl, served.mono (grown.trans (List.suffix_cons _ _))⟩
    · cases reply with
      | ok _ => trivial
      | error error => exact ⟨namesDevice_of_not rfl, fun _ => trivial⟩
  · exact fun _ _ _ => trivial

/-- What a route makes of a login adds no row. -/
theorem login_names {login : Action (TokenData Token)} {handler : Exn → Action (TokenData Token)}
    {response : TokenData Token → HttpResponse Token} {post : Trace Reply → Except Exn (HttpResponse Token) → Prop}
    (holds : ∀ later outcome, post later outcome)
    (raises : ∀ error later, (handler error).Along (NamesDevice http) (fun _ _ => True) later)
    (along : login.Along (NamesDevice http) (fun _ _ => True) trace) :
    (do
      let tokens ← try login catch error => handler error
      return response tokens : Action (HttpResponse Token)).Along (NamesDevice http) post trace :=
  Along.bind (Along.handle along (fun _ _ _ => trivial) fun error later _ => raises error later)
    (fun _ _ _ => holds _ _) fun _ _ _ => holds _ _

theorem issueTokens_names (http : HttpRequest) (data : UserLoginData) :
    (issueTokens app http (some data)).Along (NamesDevice http) (fun _ _ => True) [] := by
  apply along_requestIdMiddleware (q := fun _ _ => True) (fun _ => namesDevice_of_not rfl)
  · intro drawn _
    apply Along.bind (rateLimitRouteByIp_along http _ fun _ _ => namesDevice_of_not rfl)
    · intro _ later _
      apply deviceRoute_along (namesDevice_of_not rfl) (fun _ => namesDevice_of_not rfl) fun _ _ => trivial
      intro deviceInfo last served
      apply login_names fun _ _ => trivial
      · intro error _
        cases error <;> trivial
      · apply loginUser_entitles (fun _ _ => namesDevice_of_not) fun _ _ => trivial
        exact fun _ _ _ grown _ _ => issue_and_record_names (served.mono grown)
    · exact fun _ _ _ => trivial
  · exact fun _ _ _ _ => trivial

theorem confirmLoginYandex_names (http : HttpRequest) :
    (confirmLoginYandex app http).Along (NamesDevice http) (fun _ _ => True) [] := by
  apply along_requestIdMiddleware (q := fun _ _ => True) (fun _ => namesDevice_of_not rfl)
  · intro drawn _
    apply Along.bind (rateLimitRouteByIp_along http _ fun _ _ => namesDevice_of_not rfl)
    · intro _ later _
      simp only
      split
      · trivial
      · apply deviceRoute_along (namesDevice_of_not rfl) (fun _ => namesDevice_of_not rfl) fun _ _ => trivial
        intro deviceInfo last served
        split
        · apply login_names fun _ _ => trivial
          · exact fun _ _ => trivial
          · apply authorize_entitles (fun _ _ => namesDevice_of_not) fun _ _ => trivial
            exact fun _ _ _ grown _ _ => issue_and_record_names (served.mono grown)
        · trivial
    · exact fun _ _ _ => trivial
  · exact fun _ _ _ _ => trivial

/-- Every request that logs a user in names its device. -/
theorem ApiRequest.LogsIn.names {request : ApiRequest Token} (login : request.LogsIn) :
    (request.program app).Along (NamesDevice request.http) (fun _ _ => True) [] := by
  obtain ⟨http, data, rfl⟩ | ⟨http, rfl⟩ := login
  · exact Along.bind (issueTokens_names http data) (fun _ _ _ => trivial) fun _ _ _ => trivial
  · exact Along.bind (confirmLoginYandex_names http) (fun _ _ _ => trivial) fun _ _ _ => trivial

end Devices

section Runs

variable {condition : Condition Tid Reply World} {world : World} {requests : Tid → ApiRequest Token}
  {config : ApiConfig Token} {older past : List ServiceEvent} {event : ServiceEvent}

/-- The routes ask no request that is a route of its own. -/
theorem ApiRequest.Asks.direct {request : ApiRequest Token} {asked : Request Token}
    (asks : request.Asks app (.request asked)) (http : HttpRequest) : asked ≠ .confirmLoginYandex http := by
  cases asks <;> rintro ⟨⟩

/-- The row was written by a login of its user: the request has shown the credential of the user, and the row names its
address, its client, and the device of its cookie or else one that it has drawn. -/
structure RecordsLogin (app : App Token) (request : ApiRequest Token) (trace : Trace Reply) (now : Time)
    (row : LoginHistory) : Prop where
  login : request.LogsIn
  entry : ∃ id copy deviceInfo, request.EntitledTo app trace copy ∧
    getDeviceInfo app deviceInfo.deviceId.val (getRequestMeta app request.http) = .ok deviceInfo ∧
    ServedUnder request.http trace deviceInfo.deviceId ∧
    row = (buildLoginHistory id copy.id (getRequestMeta app request.http) (some deviceInfo)).row now

/-- A call of a request, by what its services are known by, and with the device of a login. -/
def ApiRequest.Records (app : App Token) (request : ApiRequest Token) (trace : Trace Reply) (call : Call) : Prop :=
  request.Issues app (ServiceObeys app (RecordsItself app)) trace call ∧
    (request.LogsIn → NamesDevice request.http trace call)

theorem ApiRequest.records (request : ApiRequest Token) :
    (request.program app).Along (request.Records app) (fun _ _ => True) [] := by
  have issues := request.along fun service asks =>
    service.obeys fun asked same => Request.recordsItself app (same ▸ asks).direct
  exact (issues.and (along_forall fun login => login.names)).mono (fun _ _ issued => issued) fun _ _ _ => trivial

/-- A login asks for itself with its client and its device. -/
theorem ApiRequest.Asks.loginContext {request : ApiRequest Token} {asked : Request Token}
    (asks : request.Asks app (.request asked)) {requestMeta : RequestMeta} {deviceInfo : Option DeviceInfo}
    (context : asked.loginContext? = some (requestMeta, deviceInfo)) :
    request.LogsIn ∧ requestMeta = getRequestMeta app request.http ∧
      ∃ device, deviceInfo = some device ∧ ApiRequest.HasDevice app request.http device := by
  cases asks with
  | issueTokens http data device has =>
    obtain ⟨rfl, rfl⟩ := Prod.mk.inj (Option.some.inj context)
    exact ⟨.inl ⟨http, data, rfl⟩, rfl, device, rfl, has⟩
  | confirmLoginYandex http code state device has granted stated presented =>
    obtain ⟨rfl, rfl⟩ := Prod.mk.inj (Option.some.inj context)
    exact ⟨.inr ⟨http, rfl⟩, rfl, device, rfl, has⟩
  | _ => cases context

/-- An event leaves the history as it is, or appends the row of its own login. -/
theorem login_history_step
    (lawful : LawfulEvent answers condition (fun tid => (requests tid).Records app) world older event) :
    event.after.db.loginHistory = event.before.db.loginHistory ∨
      ∃ row, event.after.db.loginHistory = event.before.db.loginHistory ++ [row] ∧
        RecordsLogin app (requests event.thread) (traceOf older event.thread) event.after.clock row := by
  have appended := (history_step lawful).1
  have issued : LawfulEvent answers condition (fun tid => (requests tid).Issues app
      (ServiceObeys app (RecordsItself app))) world older event := { lawful with specified := lawful.specified.1 }
  have names := lawful.specified.2
  obtain none | ⟨request, shown, asks, shows, _, records⟩ := api_obeys issued
  · left
    rw [appended, recorded, none]
    simp
  obtain ⟨thread, call, reply, before, after⟩ := event
  by_cases attempted : call.records = true
  · obtain ⟨id, copy, requestMeta, deviceInfo, context, entitled, rfl⟩ := records attempted
    obtain ⟨login, sent, device, rfl, deviceId, made⟩ := asks.loginContext context
    cases reply with
    | error error =>
      left
      rw [appended]
      simp [recorded, committed, committedBy]
    | ok _ =>
      right
      obtain ⟨known, same, served⟩ := names login _ _ _ rfl (List.mem_singleton_self _)
      have own : device.deviceId = known := Subtype.ext (UUID.str_injective (Option.some.inj same))
      have read : deviceId = device.deviceId.val := UUID.eq_val_of_toUUID4 (getDeviceInfo_eq_ok made)
      refine ⟨_, ?_, login, id, copy, device, asks.entitled entitled shows, read ▸ made, own ▸ served, rfl⟩
      rw [appended, ← sent]
      simp [recorded, committed, committedBy, Write.historyRow?]
  · left
    have none : recorded ⟨thread, call, reply, before, after⟩ = [] := by
      by_contra adds
      exact attempted (records_of_recorded adds)
    rw [appended, none, List.append_nil]

/-- The history of any moment is the initial one and the rows that logins have appended, each in one event of its
own. -/
theorem history_of_logins
    (lawful : Lawful answers condition (fun tid => (requests tid).Records app) world past) :
    ∃ rows, (stateAfter world past).db.loginHistory = world.db.loginHistory ++ rows ∧
      ∀ row ∈ rows, ∃ newer event older, past = newer ++ event :: older ∧
        RecordsLogin app (requests event.thread) (traceOf older event.thread) event.after.clock row := by
  induction past with
  | nil => exact ⟨[], by simp [stateAfter], List.forall_mem_nil _⟩
  | cons event older ih =>
    obtain ⟨rows, before, written⟩ := ih lawful.2
    rw [← lawful.1.follows] at before
    have earlier : ∀ row ∈ rows, ∃ newer other back, event :: older = newer ++ other :: back ∧
        RecordsLogin app (requests other.thread) (traceOf back other.thread) other.after.clock row := by
      intro row member
      obtain ⟨newer, other, back, rfl, records⟩ := written row member
      exact ⟨event :: newer, other, back, rfl, records⟩
    obtain same | ⟨row, appended, records⟩ := login_history_step lawful.1
    · exact ⟨rows, same.trans before, earlier⟩
    · refine ⟨rows ++ [row], ?_, ?_⟩
      · rw [← List.append_assoc, ← before]
        exact appended
      · intro other member
        obtain member | member := List.mem_append.mp member
        · exact earlier other member
        · obtain rfl := List.mem_singleton.mp member
          exact ⟨[], event, older, rfl, records⟩

/-- The history only grows, whatever happens to users, roles and sessions, and every row it has gained was appended by a
login that proved its user. -/
theorem login_history_is_trail (run : Reaches answers condition (receivedAll app world requests) config)
    (suffix : older <:+ config.past) :
    (stateAfter world older).db.loginHistory <+: config.now.db.loginHistory ∧
    ∃ rows, config.now.db.loginHistory = world.db.loginHistory ++ rows ∧
      ∀ row ∈ rows, ∃ newer event older, config.past = newer ++ event :: older ∧
        RecordsLogin app (requests event.thread) (traceOf older event.thread) event.after.clock row := by
  have course := api_course _ _ run fun tid => (requests tid).records
  rw [course.now_eq]
  exact ⟨history_kept course.lawful suffix, history_of_logins course.lawful⟩

/-- A login by password leaves one row. -/
theorem login_history_is_trail_password : ∃ (config : ApiConfig Claims) (row : LoginHistory),
    config.now.db.loginHistory = [row] ∧ ∃ trace now, RecordsLogin transparentApp
      (.issueTokens ⟨"POST", none, [], [], []⟩ (.data ⟨"admin@example.com", "password"⟩)) trace now row := by
  have played : ((receivedAll transparentApp bootstrappedWorld fun _ =>
      .issueTokens ⟨"POST", none, [], [], []⟩ (.data ⟨"admin@example.com", "password"⟩)).playAll World.answer
        unrestricted [move 0, move 0, move 0, move 0, move 0, move 0 3, move 0, move 0 4, move 0 5, move 0]).any
      (fun config => config.now.db.loginHistory.length = 1) = true := by
    decide +kernel
  obtain ⟨config, run, recorded⟩ := Config.playAll_exists played
  obtain ⟨row, only⟩ := List.length_eq_one_iff.mp (of_decide_eq_true recorded)
  obtain ⟨_, rows, grown, written⟩ := login_history_is_trail run (List.suffix_refl _)
  have empty : bootstrappedWorld.db.loginHistory = [] := rfl
  rw [empty, List.nil_append, only] at grown
  obtain ⟨newer, event, older, _, records⟩ := written row (grown ▸ List.mem_singleton_self row)
  exact ⟨config, row, only, _, _, records⟩

end Runs

end AuthApi
