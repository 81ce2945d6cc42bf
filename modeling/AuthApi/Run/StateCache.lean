import AuthApi.Run.Keyspace

/-! # Issued and consumed states

An OAuth state is a Redis entry that one login request stores and one callback deletes. States are
drawn afresh, so the entry of a state is stored once; consuming it deletes it, so it is consumed
once, and only before its deadline.
-/

namespace AuthApi

open Interleaving YandexIdService

/-- The exchange took the code verifier of the state out of Redis. -/
def consumes (state : UUID) : Exchange Reply → Bool
  | ⟨.redisGetdel key, .ok (some _)⟩ => key = stateCacheKey state
  | _ => false

/-- The UUID drawn in an exchange. -/
def drawnId? : Exchange Reply → Option UUID4
  | ⟨.uuid4, id⟩ => some id
  | _ => none

/-- The code verifier drawn in an exchange. -/
def drawnVerifier? : Exchange Reply → Option String
  | ⟨.tokenUrlsafe _, text⟩ => some text
  | _ => none

/-- No UUID is drawn twice, and a drawn code verifier is not empty. -/
def freshDraws : Condition Tid Reply World := fun past event =>
  (∀ id ∈ drawnId? event.exchange, ∀ other ∈ past, drawnId? other.exchange ≠ some id) ∧
    ∀ text ∈ drawnVerifier? event.exchange, text ≠ ""

instance (past : List ServiceEvent) (event : ServiceEvent) : Decidable (freshDraws past event) :=
  inferInstanceAs (Decidable (_ ∧ _))

/-- A UUID is drawn at one position of the history. -/
theorem drawn_once {specs : Tid → Trace Reply → Call → Prop} {world : World}
    {past older rest : List ServiceEvent} {event other : ServiceEvent}
    (lawful : Lawful answers freshDraws specs world past) {id : UUID4}
    (first : event :: older <:+ past) (drawn : drawnId? event.exchange = some id)
    (second : other :: rest <:+ past) (again : drawnId? other.exchange = some id) :
    event :: older = other :: rest := by
  refine eq_of_unique (p := fun event _ => drawnId? event.exchange = some id) ?_ first drawn second again
  intro event older other rest suffix drawn within again
  have fresh := (lawful.suffix suffix).1.admitted.1 id drawn
  exact fresh other (within.subset List.mem_cons_self) again

section Steps

variable {Token : Type} {app : App Token} {condition : Condition Tid Reply World} {world : World}
  {requests : Tid → Request Token} {older past : List ServiceEvent} {event : ServiceEvent}

/-- The event stores the state with a code verifier, by a login request that drew both. -/
structure IssuesState (app : App Token) (requests : Tid → Request Token) (older : List ServiceEvent)
    (event : ServiceEvent) (state : UUID) (verifier : String) : Prop where
  request : event.request = .redisSetex (stateCacheKey state)
    app.yandexidSettings.confirmationCodeTtl (.codeVerifier verifier)
  login : ∃ http, requests event.thread = .oauthLogin http
  drawn : ∃ id : UUID4, id.val = state ∧ ∃ rest, traceOf older event.thread =
    ⟨.tokenUrlsafe 64, verifier⟩ :: ⟨.uuid4, id⟩ :: rest

/-- Whoever stores something under the key of a state issues it. -/
theorem issues_of_setex
    (lawful : LawfulEvent answers condition (fun tid => Allowed app (requests tid)) world older event)
    {state : UUID} {ttl : ℤ} {value : RedisValue}
    (stores : event.request = .redisSetex (stateCacheKey state) ttl value) :
    ∃ verifier, ttl = app.yandexidSettings.confirmationCodeTtl ∧ value = .codeVerifier verifier ∧
      IssuesState app requests older event state verifier := by
  have specified := lawful.specified
  rw [stores] at specified
  generalize same : stateCacheKey state = key at stores specified
  cases specified with
  | revoke token claims now _ presented verified seen positive outlives =>
    exact absurd same.symm (blacklistKey_ne_stateCacheKey _ _)
  | issueState http drawn verifier rest requested shape =>
    have owner : drawn.val = state := stateCacheKey_injective same.symm
    subst owner
    exact ⟨verifier, rfl, rfl, stores, ⟨http, requested⟩, drawn, rfl, rest, shape⟩

/-- The entry an issued state gets. -/
def stateEntry (app : App Token) (event : ServiceEvent) (verifier : String) : RedisEntry :=
  ⟨.codeVerifier verifier, some (event.after.clock.milliseconds +
    app.yandexidSettings.confirmationCodeTtl.toNat * 1000)⟩

/-- What an event does to the entry of a state: nothing, or it deletes or stores it. -/
theorem state_step
    (lawful : LawfulEvent answers condition (fun tid => Allowed app (requests tid)) world older event)
    (state : UUID) :
    (consumes state event.exchange = false ∧ ∀ now,
      event.after.redis.entryAt now (stateCacheKey state) =
        event.before.redis.entryAt now (stateCacheKey state)) ∨
    (∀ now, event.after.redis.entryAt now (stateCacheKey state) = none) ∨
    ∃ verifier, IssuesState app requests older event state verifier ∧
      event.after.redis = event.before.redis.put (stateCacheKey state) (stateEntry app event verifier) := by
  by_cases touched : event.request.redisKey? = some (stateCacheKey state)
  · obtain ⟨thread, request, reply, before, after⟩ := event
    have answered := lawful.answered
    have specified := lawful.specified
    cases request with
    | redisGet key => exact .inl ⟨rfl, fun now => by rw [(answers_redisGet answered).1]⟩
    | redisSetex key ttl value =>
      have same : key = stateCacheKey state := Option.some.inj touched
      subst same
      obtain ⟨verifier, rfl, rfl, issues⟩ := issues_of_setex lawful rfl
      obtain ⟨kept, _⟩ | ⟨_, stored⟩ := answers_redisSetex answered
      · exact .inl ⟨rfl, fun now => by rw [kept]⟩
      · exact .inr (.inr ⟨verifier, issues, stored⟩)
    | redisGetdel key =>
      have same : key = stateCacheKey state := Option.some.inj touched
      subst same
      obtain ⟨kept, failed⟩ | ⟨deleted, _⟩ := answers_redisGetdel answered
      · refine .inl ⟨?_, fun now => by rw [kept]⟩
        cases reply with
        | error error => rfl
        | ok value => exact absurd rfl (failed value)
      · exact .inr (.inl fun now => by rw [deleted, Redis.entryAt_delete_self])
    | redisIncrWithTtl key windowMs =>
      have same : key = stateCacheKey state := Option.some.inj touched
      cases specified with
      | count identity _ =>
        have clash := underscore_mem_rateLimitKey app.rateLimitSettings identity
        rw [same] at clash
        exact absurd clash (underscore_not_mem_stateCacheKey state)
    | _ => cases touched
  · refine .inl ⟨?_, (event_effect lawful).redis _ touched⟩
    obtain ⟨thread, request, reply, before, after⟩ := event
    cases request with
    | redisGetdel key =>
      cases reply with
      | error error => rfl
      | ok value =>
        cases value with
        | none => rfl
        | some value =>
          exact decide_eq_false fun same => touched (congrArg some same)
    | _ => rfl

/-- A state that was not in Redis at the start was issued, and not consumed since. -/
theorem entry_issued (lawful : ServiceLawful app condition world requests past) {state : UUID}
    (absent : ∀ now, world.redis.entryAt now (stateCacheKey state) = none) {now : ℕ}
    {entry : RedisEntry}
    (found : (stateAfter world past).redis.entryAt now (stateCacheKey state) = some entry) :
    ∃ newer issue older verifier, past = newer ++ issue :: older ∧
      IssuesState app requests older issue state verifier ∧ entry = stateEntry app issue verifier ∧
      entry.live now = true ∧ ∀ event ∈ newer, consumes state event.exchange = false := by
  induction past with
  | nil =>
    rw [stateAfter, absent] at found
    cases found
  | cons event past ih =>
    obtain ⟨idle, kept⟩ | deleted | ⟨verifier, issues, stored⟩ := state_step lawful.1 state
    · rw [stateAfter, kept, lawful.1.follows] at found
      obtain ⟨newer, issue, older, verifier, rfl, issues, same, live, silent⟩ := ih lawful.2 found
      refine ⟨event :: newer, issue, older, verifier, rfl, issues, same, live, ?_⟩
      rintro other (_ | ⟨_, member⟩)
      · exact idle
      · exact silent other member
    · rw [stateAfter, deleted] at found
      cases found
    · rw [stateAfter, stored, Redis.entryAt_put_self] at found
      split at found
      · next live =>
        cases found
        exact ⟨[], event, past, verifier, rfl, issues, rfl, live, by simp⟩
      · cases found

/-- A consumed state had a live entry before, holding the verifier that was returned. -/
theorem entry_of_consumes
    (lawful : LawfulEvent answers condition (fun tid => Allowed app (requests tid)) world older event)
    {state : UUID} (taken : consumes state event.exchange = true) :
    ∃ entry, (stateAfter world older).redis.entryAt event.after.clock.milliseconds
        (stateCacheKey state) = some entry ∧
      event.exchange = ⟨.redisGetdel (stateCacheKey state), .ok (some entry.value)⟩ := by
  obtain ⟨thread, request, reply, before, after⟩ := event
  obtain ⟨follows, answered, _, _⟩ := lawful
  cases request with
  | redisGetdel key =>
    cases reply with
    | error error => cases taken
    | ok found =>
      cases found with
      | none => cases taken
      | some value =>
        have same : key = stateCacheKey state := of_decide_eq_true taken
        subst same
        obtain ⟨_, failed⟩ | ⟨_, returned⟩ := answers_redisGetdel answered
        · exact absurd rfl (failed (some value))
        · have read := returned _ rfl
          obtain ⟨entry, found, rfl⟩ := Option.map_eq_some_iff.mp read.symm
          exact ⟨entry, follows ▸ found, rfl⟩
  | _ => cases taken

end Steps

end AuthApi
