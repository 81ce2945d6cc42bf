import AuthApi.Run.ApiServices
import AuthApi.Run.Rows
import AuthApi.Run.SharedCalls

/-! # Histories of the API

What is known of the services is known of the requests that ask them, so the history of an API run is as lawful
as one of the services: what a request commits was allowed to its service, by what the service had seen.
-/

namespace AuthApi

open Interleaving Interleaving.Program Dependencies

variable {Token : Type} {app : App Token}

/-- The exchanges of a service among those of its request. -/
abbrev Shows (app : App Token) (trace shown : Trace Reply) : Prop :=
  Omits (fun exchange => exchange.request.IsHidden app) trace shown

/-- The gate has accepted the access token as the user of the loaded row. -/
def AuthenticatesAs (app : App Token) (trace : Trace Reply) (accessToken : Token) (loaded : UserObject) : Prop :=
  ∃ time payload, ⟨.now, time⟩ ∈ trace ∧ app.acceptsAt accessToken time payload ∧
    ⟨.getUser payload.sub, some loaded⟩ ∈ trace ∧ payload.tv = loaded.tokenVersion

section Gate

variable {trace later : Trace Reply} {accessToken : Token} {loaded : UserObject}

theorem AuthenticatesAs.mono (opens : AuthenticatesAs app trace accessToken loaded)
    (grown : ∀ exchange ∈ trace, exchange ∈ later) : AuthenticatesAs app later accessToken loaded := by
  obtain ⟨time, payload, read, accepted, found, version⟩ := opens
  exact ⟨time, payload, grown _ read, accepted, grown _ found, version⟩

/-- Behind the gate, its user has been accepted. -/
theorem getTokenUser_authenticates (accessToken : Token) {spec : Trace Reply → Call → Prop}
    (now : ∀ trace, spec trace .now) (reads : ∀ trace id, spec trace (.getUser id)) :
    (getTokenUser app accessToken).Along spec
      (fun later outcome => ∀ user, outcome = .ok user → AuthenticatesAs app later accessToken user) trace := by
  apply (getTokenUser_along now accessToken fun _ _ _ => reads _ _).mono fun _ _ issued => issued
  rintro _ outcome ends user rfl
  obtain ⟨time, payload, accepted, version, rfl⟩ := ends
  exact ⟨time, payload, by simp, accepted, by simp, version⟩

end Gate

/-- How a request is answered, by what is known of the end of its service. -/
inductive ApiRequest.Answered (app : App Token) (request : ApiRequest Token)
    (known : Service Token → Trace Reply → Except Exn (ServiceResult Token) → Prop) (trace : Trace Reply) :
    ApiResponse Token → Prop
  | turnedAway (requestId : String) (has : HasRequestId app request.http requestId) (error : Exn)
      (away : request.TurnedAway app error) (silent : ∀ exchange ∈ trace, exchange.request.IsHidden app) :
      Answered app request known trace (sent app requestId (.error error))
  | replied (requestId : String) (has : HasRequestId app request.http requestId) (service : Service Token)
      (asks : request.Asks app service) (shown : Trace Reply) (shows : Shows app trace shown)
      (image : Except Exn (ServiceResult Token)) (ends : known service shown image)
      (routed : Except Exn (ApiResponse Token)) (replies : request.Replies app service image routed) :
      Answered app request known trace (sent app requestId routed)

/-- A call of a request is hidden, or its service makes it. -/
def ApiRequest.Issues (app : App Token) (request : ApiRequest Token)
    (spec : Service Token → Trace Reply → Call → Prop) (trace : Trace Reply) (call : Call) : Prop :=
  call.IsHidden app ∨
    ∃ service shown, request.Asks app service ∧ Shows app trace shown ∧ spec service shown call

/-- What the services are known by is known of every request. -/
theorem ApiRequest.along (request : ApiRequest Token) {spec : Service Token → Trace Reply → Call → Prop}
    {known : Service Token → Trace Reply → Except Exn (ServiceResult Token) → Prop}
    (services : ∀ service, request.Asks app service →
      (service.program app).Along (spec service) (known service) []) :
    (request.program app).Along (request.Issues app spec)
      (fun trace outcome => ∃ response, outcome = .ok response ∧ request.Answered app known trace response)
      [] := by
  have hiddenSoFar : ∀ exchange ∈ ([] : Trace Reply), exchange.request.IsHidden app := List.forall_mem_nil _
  apply ((request.opens app).along services hiddenSoFar).mono
  · rintro trace call (isHidden | ⟨service, shown, asks, shows, specified⟩)
    · exact .inl isHidden
    · exact .inr ⟨service, shown, asks, shows, specified⟩
  · rintro trace outcome (⟨⟨requestId, error, has, rfl, away⟩, silent⟩ |
      ⟨service, shown, image, asks, shows, ends, requestId, routed, has, rfl, replies⟩)
    · exact ⟨_, rfl, .turnedAway requestId has error away silent⟩
    · exact ⟨_, rfl, .replied requestId has service asks shown shows image ends routed replies⟩

/-- The calls a service may issue, as far as others can notice them. -/
def ServiceAllowed (app : App Token) : Service Token → Trace Reply → Call → Prop
  | .request request => Allowed app request
  | .buildLoginRedirect state => fun trace call => call.isSilent = true ∨
      ∃ codeVerifier rest, trace = ⟨.tokenUrlsafe 64, codeVerifier⟩ :: rest ∧
        call = .redisSetex (YandexIdService.stateCacheKey state) app.yandexidSettings.confirmationCodeTtl
          (.codeVerifier codeVerifier)
  | _ => fun _ call => call.isSilent = true

section Services

variable {spec : Trace Reply → Call → Prop} {trace : Trace Reply}

/-- A session that only closes. -/
theorem idle_along {α : Type} (value : α) (closes : ∀ trace, spec trace .close) :
    (withSession (.done value) : Action α).Along spec (fun _ _ => True) trace := by
  apply along_withSession closes
  exact (along_done value).mpr trivial

theorem gate_along (accessToken : Token) (now : ∀ trace, spec trace .now) (closes : ∀ trace, spec trace .close) :
    ((Service.gate accessToken).program app).Along spec (fun _ _ => True) trace := by
  have gate := @ensureSuperuser_along _ app trace spec now accessToken
  exact Along.bind gate (fun _ _ _ => idle_along _ closes) fun _ _ _ => trivial

/-- A login is prepared in a session of its own, which stores one verifier under the state. -/
theorem loginRedirect_along (state : UUID) (silent : ∀ trace call, call.isSilent = true → spec trace call)
    (stores : ∀ codeVerifier, spec (⟨.tokenUrlsafe 64, codeVerifier⟩ :: trace)
      (.redisSetex (YandexIdService.stateCacheKey state) app.yandexidSettings.confirmationCodeTtl
        (.codeVerifier codeVerifier))) :
    ((Service.buildLoginRedirect state).program app).Along spec (fun _ _ => True) trace := by
  apply along_withSession fun later => silent later .close rfl
  apply Along.bind (q := fun _ _ => True)
  · refine ⟨silent _ _ rfl, fun codeVerifier => ?_⟩
    simp only [done_bind]
    cases YandexIdService.buildLoginParams app state codeVerifier with
    | error error => trivial
    | ok loginParams =>
      refine ⟨stores codeVerifier, fun reply => ?_⟩
      cases reply <;> trivial
  · exact fun _ _ _ => trivial
  · exact fun _ _ _ => trivial

end Services

theorem Service.allowed (app : App Token) (service : Service Token) :
    (service.program app).Along (ServiceAllowed app service) (fun _ _ => True) [] := by
  cases service with
  | idle => exact idle_along _ fun _ => rfl
  | gate accessToken => exact gate_along accessToken (fun _ => rfl) fun _ => rfl
  | request request => exact Along.bind (request.allowed app) (fun _ _ _ => trivial) fun _ _ _ => trivial
  | buildLoginRedirect state =>
    exact loginRedirect_along state (fun _ _ => .inl) fun codeVerifier => .inr ⟨codeVerifier, [], rfl, rfl⟩

/-- The services issue the calls on shared things that the requests issue. -/
theorem AdmitsShared.service {spec : Call → Prop} (admits : AdmitsShared app spec) (service : Service Token) :
    (service.program app).Along (fun _ => spec) (fun _ _ => True) [] := by
  cases service with
  | idle => exact idle_along _ fun _ => admits.silent _ rfl
  | gate accessToken => exact gate_along accessToken (fun _ => admits.silent _ rfl) fun _ => admits.silent _ rfl
  | request request =>
    exact Along.bind (Request.shared_calls admits request) (fun _ _ _ => trivial) fun _ _ _ => trivial
  | buildLoginRedirect state =>
    exact loginRedirect_along state (fun _ _ => admits.of_silent) fun _ => admits.issues _ _ _

/-- Every request issues admitted calls only. -/
theorem AdmitsShared.apiRequest {spec : Call → Prop} (admits : AdmitsShared app spec) (request : ApiRequest Token) :
    (request.program app).Along (fun _ => spec) (fun _ _ => True) [] := by
  apply (request.along fun service _ => admits.service service).mono
  · rintro trace call ((rfl | ⟨identity, windowMs, rfl⟩) | ⟨service, shown, asks, shows, specified⟩)
    · exact admits.silent _ rfl
    · exact admits.counts identity windowMs
    · exact specified
  · exact fun _ _ _ => trivial

section Runs

variable {condition : Condition Tid Reply World} {world : World} {requests : Tid → ApiRequest Token}
  {config : ApiConfig Token} {older past : List ServiceEvent} {event : ServiceEvent}

/-- The histories that runs of the API have. -/
abbrev ApiLawful (app : App Token) (condition : Condition Tid Reply World) (world : World)
    (requests : Tid → ApiRequest Token) : List ServiceEvent → Prop :=
  Lawful answers condition (fun tid => (requests tid).Issues app (ServiceAllowed app)) world

/-- Per-request facts, added to what is known of every run of the API. -/
theorem api_course (specs : Tid → Trace Reply → Call → Prop)
    (posts : Tid → Trace Reply → Except Exn (ApiResponse Token) → Prop)
    (run : Reaches answers condition (receivedAll app world requests) config)
    (along : ∀ tid, ((requests tid).program app).Along (specs tid) (posts tid) []) :
    Course answers condition specs posts world config :=
  run.course (.initial along)

theorem api_lawful (run : Reaches answers condition (receivedAll app world requests) config) :
    ApiLawful app condition world requests config.past :=
  (api_course _ _ run fun tid => (requests tid).along fun service _ => service.allowed app).lawful

/-- What a request commits, one of its services has issued, by what that service had seen. -/
theorem api_commits_by {spec : Service Token → Trace Reply → Call → Prop}
    (refines : ∀ service trace call, spec service trace call → ServiceAllowed app service trace call)
    (lawful : LawfulEvent answers condition (fun tid => (requests tid).Issues app spec) world older event) :
    committed event = [] ∨ ∃ request shown, (requests event.thread).Asks app (.request request) ∧
      Shows app (traceOf older event.thread) shown ∧ spec (.request request) shown event.request := by
  obtain ⟨thread, call, reply, before, after⟩ := event
  obtain (rfl | ⟨identity, windowMs, rfl⟩) | ⟨service, shown, asks, shows, issued⟩ := lawful.specified
  · exact .inl rfl
  · exact .inl rfl
  · have quiet {call : Call} {reply : Reply call} (silent : call.isSilent = true) :
        committedBy call reply = [] := by
      cases call with
      | commit session writes => cases silent
      | _ => rfl
    have allowed := refines service shown call issued
    cases service with
    | idle => exact .inl (quiet allowed)
    | gate accessToken => exact .inl (quiet allowed)
    | request request => exact .inr ⟨request, shown, asks, shows, issued⟩
    | buildLoginRedirect state =>
      obtain silent | ⟨codeVerifier, rest, _, rfl⟩ := allowed
      · exact .inl (quiet silent)
      · exact .inl rfl

/-- What the services may do, those of a request as a specification of the requests says. -/
def ServiceObeys (app : App Token) (spec : Request Token → Trace Reply → Call → Prop) (service : Service Token)
    (trace : Trace Reply) (call : Call) : Prop :=
  ServiceAllowed app service trace call ∧ ∀ request, service = .request request → spec request trace call

theorem Service.obeys {spec : Request Token → Trace Reply → Call → Prop} (service : Service Token)
    (along : ∀ request, service = .request request → (request.program app).Along (spec request) (fun _ _ => True) []) :
    (service.program app).Along (ServiceObeys app spec service) (fun _ _ => True) [] := by
  have requests : (service.program app).Along
      (fun trace call => ∀ request, service = .request request → spec request trace call) (fun _ _ => True) [] := by
    cases service with
    | request request =>
      have obeys : (request.program app).Along
          (fun trace call => ∀ other, Service.request request = .request other → spec other trace call)
          (fun _ _ => True) [] := by
        apply (along request rfl).mono
        · rintro trace call obeys _ ⟨⟩
          exact obeys
        · exact fun _ _ _ => trivial
      exact Along.bind obeys (fun _ _ _ => trivial) fun _ _ _ => trivial
    | _ =>
      apply along_any.mono
      · rintro _ _ _ _ ⟨⟩
      · exact fun _ _ _ => trivial
  exact ((service.allowed app).and requests).mono (fun _ _ issued => issued) fun _ _ _ => trivial

/-- An event that writes comes from a request of a service, which obeys its specification. -/
theorem api_obeys {spec : Request Token → Trace Reply → Call → Prop}
    (lawful : LawfulEvent answers condition (fun tid => (requests tid).Issues app (ServiceObeys app spec)) world older
      event) :
    committed event = [] ∨ ∃ request shown, (requests event.thread).Asks app (.request request) ∧
      Shows app (traceOf older event.thread) shown ∧ Allowed app request shown event.request ∧
      spec request shown event.request := by
  obtain none | ⟨request, shown, asks, shows, allowed, obeys⟩ := api_commits_by (fun _ _ _ => And.left) lawful
  · exact .inl none
  · exact .inr ⟨request, shown, asks, shows, allowed, obeys request rfl⟩

/-- An event with the trace of its service for its past is lawful among the events of the services. -/
theorem service_event {tid : Tid} {call : Call} {reply : Reply call} {before after : World}
    (answered : answers tid call before reply after) {request : Request Token} {shown : Trace Reply}
    (allowed : Allowed app request shown call) :
    ∃ earlier : List ServiceEvent, traceOf earlier tid = shown ∧
      LawfulEvent answers unrestricted (fun _ => Allowed app request) before earlier
        ⟨tid, call, reply, before, after⟩ := by
  refine ⟨shown.map fun exchange => ⟨tid, exchange.request, exchange.reply, before, before⟩, ?_, ?_⟩
  · simp only [traceOf, List.filter_map, List.map_map]
    rw [List.filter_eq_self.mpr (by simp)]
    exact List.map_id _
  · refine ⟨?_, answered, trivial, ?_⟩
    · cases shown <;> rfl
    · have same : traceOf (shown.map fun exchange =>
          (⟨tid, exchange.request, exchange.reply, before, before⟩ : ServiceEvent)) tid = shown := by
        simp only [traceOf, List.filter_map, List.map_map]
        rw [List.filter_eq_self.mpr (by simp)]
        exact List.map_id _
      change Allowed app request (traceOf _ tid) call
      rw [same]
      exact allowed

end Runs

end AuthApi
