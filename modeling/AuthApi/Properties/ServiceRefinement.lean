import AuthApi.Run.ApiServices

/-! # The API refines its services

Beside every run of the API there is a run of the services alone, over the same tables and the same keys but for
the counters of the limiter. What a request was answered is what its route makes of the end of its service, or an
error that kept it from the services.
-/

namespace AuthApi

open Interleaving Interleaving.Program Dependencies

variable {Token : Type} {app : App Token}

/-- How a request that has been answered stands to the run of the services. -/
inductive ApiRequest.Settled (app : App Token) (request : ApiRequest Token) (service : Service Token)
    (remaining : Action (ServiceResult Token)) : ApiResponse Token → Prop
  | turnedAway (requestId : String) (has : HasRequestId app request.http requestId) (error : Exn)
      (away : request.TurnedAway app error) (begun : remaining = service.program app) :
      Settled app request service remaining (sent app requestId (.error error))
  | replied (requestId : String) (has : HasRequestId app request.http requestId) (asks : request.Asks app service)
      (image : Except Exn (ServiceResult Token)) (finished : remaining.outcome? = some image)
      (routed : Except Exn (ApiResponse Token)) (replies : request.Replies app service image routed) :
      Settled app request service remaining (sent app requestId routed)

theorem outcome?_withSession {α : Type} (body : Action α) : (withSession body).outcome? = none := by
  rw [withSession_eq_finish]
  cases body <;> rfl

/-- No service ends without a call. -/
theorem ApiRequest.Asks.begins {request : ApiRequest Token} {service : Service Token}
    (asks : request.Asks app service) : (service.program app).outcome? = none := by
  have wrapped {α β : Type} (body : Action α) (f : α → β) :
      ((withSession body).bind fun value => .done (f value)).outcome? = none := by
    rw [withSession_map]
    exact outcome?_withSession _
  cases asks with
  | idle => exact outcome?_withSession _
  | gate => rfl
  | oauthLogin => exact outcome?_withSession _
  | role => rfl
  | _ => exact wrapped _ _

/-- Every run of the API has a run of the services beside it, which makes the same calls in the same order except
the draws of ids and the counting of requests, leaves the same store, and ends as the responses say. -/
theorem api_refines_services {world : World} {requests : Tid → ApiRequest Token} {config : ApiConfig Token}
    (run : Reaches answers unrestricted (receivedAll app world requests) config) :
    ∃ (services : Tid → Service Token) (shadow : Config Tid Reply World Exn (ServiceResult Token)),
      Reaches answers unrestricted (launched app world services) shadow ∧
        SameStore config.now shadow.now ∧
        Omits (fun move => Call.IsHidden app move.2.request) (config.past.map Event.move)
          (shadow.past.map Event.move) ∧
        ∀ tid, (∀ error, config.threads tid ≠ .raise error) ∧
          ∀ response, config.threads tid = .done response →
            (requests tid).Settled app (services tid) (shadow.threads tid) response := by
  obtain ⟨services, shadow, beside⟩ := run.shadowed (store_simulates app) (SameStore.refl world)
    fun tid => (requests tid).opens app
  refine ⟨services, shadow, beside.run, beside.related, beside.moves, fun tid => ?_⟩
  -- a request that has ended before its service began was turned away
  have ended {remaining : Action (ApiResponse Token)} (status : config.threads tid = remaining)
      {outcome : Except Exn (ApiResponse Token)} (finished : remaining.outcome? = some outcome) :
      ∃ response, outcome = .ok response ∧
        (requests tid).Settled app (services tid) (shadow.threads tid) response := by
    have follows := beside.follows tid
    rw [status, eq_ended finished] at follows
    generalize last : ended outcome = final at follows
    cases follows with
    | waiting silent opens =>
      cases opens with
      | @early other isEarly =>
        have same := congrArg outcome? last
        simp only [outcome?_ended, Option.some.injEq] at same
        obtain ⟨requestId, error, has, rfl, away⟩ := isEarly
        exact ⟨_, same, .turnedAway requestId has error away (beside.run.unmoved silent)⟩
      | hide isHidden rest => cases outcome <;> cases last
      | opens service asks refines =>
        obtain ⟨image, finished, _⟩ := refines.finished (last ▸ outcome?_ended outcome)
        rw [asks.begins] at finished
        cases finished
    | opened asks refines =>
      obtain ⟨image, served, requestId, routed, has, rfl, replies⟩ :=
        refines.finished (last ▸ outcome?_ended outcome)
      exact ⟨_, rfl, .replied requestId has asks image served routed replies⟩
  constructor
  · intro error raised
    obtain ⟨response, same, _⟩ := ended raised rfl
    cases same
  · intro response done
    obtain ⟨_, same, settled⟩ := ended done rfl
    cases same
    exact settled

/-- A registration with an email that is taken, beside the service that refuses it. -/
theorem api_refines_services_taken : ∃ (config : ApiConfig Claims) (response : ApiResponse Claims)
    (services : Tid → Service Claims) (shadow : Config Tid Reply World Exn (ServiceResult Claims)),
    config.threads 0 = .done response ∧ response.status = 400 ∧
      Reaches answers unrestricted (launched transparentApp bootstrappedWorld services) shadow ∧
      ApiRequest.Settled transparentApp (.createUser ⟨"POST", none, [], [], []⟩ (.data ⟨"admin@example.com", "pw"⟩))
        (services 0) (shadow.threads 0) response := by
  have played : ((receivedAll transparentApp bootstrappedWorld fun _ =>
      .createUser ⟨"POST", none, [], [], []⟩ (.data ⟨"admin@example.com", "pw"⟩)).playAll World.answer unrestricted
      [move 0, move 0, move 0, move 0]).any
      (fun config => (config.threads 0).value?.any fun response => response.status = 400) = true := by
    decide
  obtain ⟨config, run, checked⟩ := Config.playAll_exists played
  obtain ⟨response, returned, refused⟩ := (Option.any_eq_true _ _).mp checked
  obtain ⟨services, shadow, beside, _, _, settled⟩ := api_refines_services run
  have done := value?_eq_some.mp returned
  exact ⟨config, response, services, shadow, done, of_decide_eq_true refused, beside, (settled 0).2 response done⟩

end AuthApi
