import AuthApi.Model.YandexIdService
import AuthApi.Properties.RedisKeyspace

/-! # The texts behind the values of Redis

The model keeps verifiers, marks and counters apart by their type, where the service tells them apart by parsing a
text. In every run the two agree, so the types add nothing that the code does not have.
-/

namespace AuthApi

open Interleaving Encoding YandexIdService

/-- The callback reads the value that `GETDEL` returned, and nothing else. -/
theorem consumeCachedState_eq (state : UUID) : consumeCachedState state =
    (do
      let payload ←
        try redisGetdel (stateCacheKey state)
        catch error =>
          match error with
          | .redisError _ =>
            throw (.yandexIdProviderError "Failed to validate Yandex authorization state")
          | other => throw other
      match readCachedValue payload with
      | .ok codeVerifier => return codeVerifier
      | .error error => throw error) := by
  unfold consumeCachedState
  congr 1
  funext payload
  rcases payload with _ | value
  · rfl
  · cases value <;> rfl

/-- A verifier is read back from its text. -/
theorem modelValidateJson_payload (codeVerifier : String) :
    YandexIdCodeVerifier.modelValidateJson (RedisValue.codeVerifier codeVerifier).payload = some codeVerifier := by
  simp [YandexIdCodeVerifier.modelValidateJson, RedisValue.payload, loads_dumps]

/-- In every run, what a callback takes out of Redis is nothing, which it refuses as a state that is unknown or has
expired, or a verifier, which it reads from the stored text as it was drawn. -/
theorem cached_states_read_back {Token : Type} {app : App Token} {condition : Condition Tid Reply World} {world : World}
    {requests : Tid → ApiRequest Token} {config : ApiConfig Token}
    (lives : 0 < app.yandexidSettings.confirmationCodeTtl) (kept : world.redis.WellKept app.rateLimitSettings)
    (run : Reaches answers condition (receivedAll app world requests) config) {event : ServiceEvent}
    (member : event ∈ config.past) {key : String} {value : Option RedisValue}
    (taken : event.exchange = ⟨.redisGetdel key, .ok value⟩) :
    readCachedState (value.map RedisValue.payload) = readCachedValue value ∧
      (value = none ∧ readCachedState (value.map RedisValue.payload) =
          .error (.yandexIdStateError "Yandex authorization state is invalid or expired") ∨
        ∃ codeVerifier, value = some (.codeVerifier codeVerifier) ∧
          readCachedState (value.map RedisValue.payload) = .ok codeVerifier) := by
  have typed := (keepsWell_of_reaches lives kept run).2 event member
  obtain ⟨thread, call, reply, before, after⟩ := event
  cases taken
  obtain ⟨_, typed⟩ := typed
  cases value with
  | none => exact ⟨rfl, .inl ⟨rfl, rfl⟩⟩
  | some value =>
    obtain ⟨codeVerifier, rfl⟩ := typed value rfl
    have read : readCachedState ((some (RedisValue.codeVerifier codeVerifier)).map RedisValue.payload) =
        .ok codeVerifier := by
      simp [readCachedState, modelValidateJson_payload]
    exact ⟨read, .inr ⟨codeVerifier, rfl, read⟩⟩

/-- A login, and the callback that returns from it. -/
private def roundTrip : Tid → ApiRequest Claims
  | 0 => .oauthLogin ⟨"GET", none, [], [], []⟩
  | _ =>
    let state := (numbered 11).val.str
    .confirmLoginYandex ⟨"GET", none, [], [("state", state)], [("code", "code"), ("state", state)]⟩

/-- The exchange takes this verifier out of Redis. -/
private def takesVerifier (codeVerifier : String) : Exchange Reply → Bool
  | ⟨.redisGetdel _, .ok (some (.codeVerifier stored))⟩ => stored = codeVerifier
  | _ => false

private theorem exchange_of_takesVerifier {codeVerifier : String} {exchange : Exchange Reply}
    (taken : takesVerifier codeVerifier exchange = true) :
    ∃ key, exchange = ⟨.redisGetdel key, .ok (some (.codeVerifier codeVerifier))⟩ := by
  unfold takesVerifier at taken
  split at taken
  · next key stored =>
    obtain rfl := of_decide_eq_true taken
    exact ⟨key, rfl⟩
  · cases taken

/-- The callback reads the verifier that the login before it has drawn. -/
theorem cached_states_read_back_callback :
    readCachedState (some (RedisValue.codeVerifier "drawn \"here\"").payload) = .ok "drawn \"here\"" := by
  have played : ((receivedAll transparentApp bootstrappedWorld roundTrip).playAll World.answer unrestricted
      [move 0, move 0, move 0 11, (0, { text := "drawn \"here\"" }), move 0, move 0, move 1, move 1, move 1,
        move 1]).any (fun config => config.past.any fun event =>
          takesVerifier "drawn \"here\"" event.exchange) = true := by
    decide +kernel
  obtain ⟨config, run, found⟩ := Config.playAll_exists played
  obtain ⟨event, member, taken⟩ := List.any_eq_true.mp found
  have empty : bootstrappedWorld.redis.WellKept transparentApp.rateLimitSettings := List.forall_mem_nil _
  obtain ⟨key, exchanged⟩ := exchange_of_takesVerifier taken
  obtain ⟨_, ⟨impossible, _⟩ | ⟨codeVerifier, same, read⟩⟩ :=
    cached_states_read_back (by decide) empty run member exchanged
  · cases impossible
  · cases same
    exact read

end AuthApi
