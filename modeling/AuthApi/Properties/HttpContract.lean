import AuthApi.Run.ApiEnds
import Mathlib.Data.Set.Basic

/-! # The contract of the HTTP API

What a client may rely on in every response, whatever the interleaving: a route answers with its own statuses or a
bare 500, sets cookies only when it succeeds, challenges where it refuses to authenticate, and returns one request id.
-/

namespace AuthApi

open Interleaving Interleaving.Program Dependencies

variable {Token : Type} {app : App Token}

/-- What a client may rely on. -/
structure ApiRequest.KeepsContract (app : App Token) (request : ApiRequest Token) (response : ApiResponse Token) :
    Prop where
  status : response.status = 500 ∨ response.status ∈ request.statuses
  cookies : response.cookies ≠ [] → response.status ∈ [200, 302]
  challenge : response.status = 401 → app.settings.requestIdHeader.toLower ≠ "www-authenticate" →
    ("WWW-Authenticate", "Bearer") ∈ response.headers
  requestId : response.status ≠ 500 → ∃ requestId, HasRequestId app request.http requestId ∧
    (response.headers.filter fun header => header.1.toLower = app.settings.requestIdHeader.toLower) =
      [(app.settings.requestIdHeader.toLower, requestId)]
  bare : response.status = 500 →
    response = { status := 500, headers := [], body := .internalServerError }

/-- A lower letter is no capital. -/
theorem char_toLower_toLower (c : Char) : c.toLower.toLower = c.toLower := by
  unfold Char.toLower
  split
  · next capital =>
    apply dif_neg
    intro again
    have low := UInt32.le_iff_toNat_le.mp capital.1
    have high := UInt32.le_iff_toNat_le.mp capital.2
    have above := UInt32.le_iff_toNat_le.mp again.2
    simp only [UInt32.toNat_add, UInt32.toNat_sub] at low high above
    grind
  · rfl

theorem toLower_toLower (text : String) : text.toLower.toLower = text.toLower := by
  change (text.map Char.toLower).map Char.toLower = text.map Char.toLower
  apply String.toList_inj.mp
  simp only [String.toList_map, List.map_map]
  exact List.map_congr_left fun c _ => char_toLower_toLower c

/-- The middleware leaves one header of its name. -/
theorem withRequestId_headers (response : HttpResponse Token) (headerName requestId : String) :
    ((response.withRequestId headerName requestId).headers.filter
      fun header => header.1.toLower = headerName.toLower) = [(headerName.toLower, requestId)] := by
  simp [HttpResponse.withRequestId, List.filter_append, List.filter_filter, toLower_toLower]

/-- The middleware keeps the headers of other names. -/
theorem mem_withRequestId {response : HttpResponse Token} {headerName requestId : String} {header : String × String}
    (member : header ∈ response.headers) (other : header.1.toLower ≠ headerName.toLower) :
    header ∈ (response.withRequestId headerName requestId).headers := by
  apply List.mem_append_left
  simpa using ⟨member, other⟩

theorem ApiRequest.Routed.keepsContract {request : ApiRequest Token} {trace : Trace Reply}
    {routed : Except Exn (ApiResponse Token)} (ends : request.Routed trace routed) {requestId : String}
    (has : HasRequestId app request.http requestId) : request.KeepsContract app (sent app requestId routed) := by
  cases routed with
  | ok response =>
    obtain ⟨success, listed⟩ := ends
    have notFailed : response.status ≠ 401 ∧ response.status ≠ 500 := by
      simp only [List.mem_cons, List.not_mem_nil, or_false] at success
      omega
    exact {
      status := .inr listed
      cookies _ := success
      challenge same := absurd same notFailed.1
      requestId _ := ⟨requestId, has, withRequestId_headers _ _ _⟩
      bare same := absurd same notFailed.2 }
  | error error =>
    obtain ⟨_, ⟨exception, rfl, answers⟩ | ⟨params, rfl, listed⟩⟩ | breaks := ends
    · have failure := answers.failure
      simp only [List.mem_cons, List.not_mem_nil, or_false, not_or] at failure
      have lower : "WWW-Authenticate".toLower = "www-authenticate" :=
        String.toList_inj.mp (String.toList_map.trans (by decide))
      exact {
        status := .inr answers.status
        cookies set := absurd (List.subset_nil.mp (HttpResponse.withRequestId_cookies_subset _ _ _)) set
        challenge same other := mem_withRequestId (answers.challenge same) fun overwritten =>
          other (overwritten.symm.trans lower)
        requestId _ := ⟨requestId, has, withRequestId_headers _ _ _⟩
        bare same := absurd same failure.2.2 }
    · have status : (sent app requestId (.error (.requestValidationError params))).status = 422 := rfl
      exact {
        status := .inr listed
        cookies set := absurd (List.subset_nil.mp (HttpResponse.withRequestId_cookies_subset _ _ _)) set
        challenge same := by simp [status] at same
        requestId _ := ⟨requestId, has, withRequestId_headers _ _ _⟩
        bare same := by simp [status] at same }
    · have bare : sent app requestId (.error error) =
          ({ status := 500, headers := [], body := .internalServerError } : ApiResponse Token) := by
        simp only [sent, breaks, if_true]
      rw [bare]
      exact {
        status := .inl rfl
        cookies set := absurd rfl set
        challenge same := by simp at same
        requestId other := absurd rfl other
        bare _ := rfl }

/-- Every response of every run keeps the contract of its route. -/
theorem responses_keep_contract {world : World} {requests : Tid → ApiRequest Token} {config : ApiConfig Token}
    (run : Reaches answers unrestricted (receivedAll app world requests) config) (tid : Tid) :
    (∀ error, config.threads tid ≠ .raise error) ∧
      ∀ response, config.threads tid = .done response → (requests tid).KeepsContract app response := by
  have course := api_course _ _ run fun tid => (requests tid).along fun service asks => asks.ends
  constructor
  · intro error raised
    obtain ⟨response, same, _⟩ := course.raised raised
    cases same
  · intro response done
    obtain ⟨_, same, answered⟩ := course.done done
    cases same
    obtain ⟨requestId, routed, has, rfl, ends⟩ := answered.routed
    exact ends.keepsContract has

/-- A renewal without a cookie is refused with a challenge. -/
theorem responses_keep_contract_refused : ∃ (request : ApiRequest Claims) (response : ApiResponse Claims),
    response.status = 401 ∧ request.KeepsContract transparentApp response := by
  have played : ((receivedAll transparentApp bootstrappedWorld fun _ =>
      .refreshTokens ⟨"POST", none, [], [], []⟩ none).playAll World.answer unrestricted [move 0, move 0]).any
      (fun config => (config.threads 0).value?.any fun response => response.status = 401) = true := by
    decide
  obtain ⟨config, run, checked⟩ := Config.playAll_exists played
  obtain ⟨response, done, refused⟩ := (Option.any_eq_true _ _).mp checked
  have contract := (responses_keep_contract run 0).2 response (value?_eq_some.mp done)
  exact ⟨_, response, of_decide_eq_true refused, contract⟩

end AuthApi
