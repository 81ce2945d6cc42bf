import AuthApi.Run.Acknowledged

/-! # Acknowledged requests

A client that is answered with a success knows what has happened: the session of its request has committed the writes
that its route is about, each once, and nothing else.
-/

namespace AuthApi

open Interleaving Interleaving.Program

variable {Token : Type} {app : App Token}

/-- The response acknowledges what a service of the request has returned and committed. -/
structure ApiRequest.Acknowledged (app : App Token) (request : ApiRequest Token) (trace : Trace Reply)
    (response : ApiResponse Token) (requestId : String) (service : Service Token) (result : ServiceResult Token)
    (answer : ApiResponse Token) : Prop where
  asks : request.Asks app service
  wrote : service.Wrote app trace result (written trace)
  answers : request.answer app service result = .ok answer
  sends : response = ApiRequest.sent app requestId (.ok answer)

theorem ApiRequest.acknowledges (request : ApiRequest Token) :
    (request.program app).Along (fun _ _ => True) (fun trace outcome => ∃ response, outcome = .ok response ∧
      (response.status ∈ [200, 302] → ∃ requestId service result answer,
        request.Acknowledged app trace response requestId service result answer)) [] := by
  have services (service : Service Token) (asks : request.Asks app service) : (service.program app).Along
      (fun _ _ => True) (fun trace outcome => ServiceEnds app request service trace outcome ∧
        (service.asksNothing = false → service.Returns app trace outcome)) [] := by
    apply (asks.ends.and (along_ends fun something => asks.returns something)).mono
    · exact fun _ _ _ => trivial
    · exact fun _ _ ends => ends
  apply (request.along services).mono fun _ _ _ => trivial
  rintro trace _ ⟨response, rfl, answered⟩
  refine ⟨response, rfl, fun success => ?_⟩
  cases answered with
  | turnedAway requestId has error away silent =>
    have routed := away.routed fun exchange member => ownWrites_of_hidden (silent exchange member)
    exact absurd success routed.failure
  | replied requestId has service asks shown shows image ends routed replies =>
    obtain ⟨ends, returns⟩ := ends
    cases routed with
    | error error => exact absurd success (replies.routed ends shows).failure
    | ok answer =>
      generalize routed_eq : (Except.ok answer : Except Exn (ApiResponse Token)) = routed at replies
      cases replies with
      | answered something result =>
        have wrote := (returns something result rfl).mono fun _ seen => shows.sublist.subset seen
        rw [← shows.written] at wrote
        exact ⟨requestId, service, result, answer, asks, wrote, routed_eq.symm, by rw [routed_eq]⟩
      | _ => cases routed_eq

end AuthApi
