import AuthApi.Run.Histories

/-! # The keyspace along a run

The service writes three families of keys: the blacklist, the OAuth states and the counters of the
limiter. They never overlap, so what one family promises is kept by the commands on the others.
-/

namespace AuthApi

open Interleaving AuthService YandexIdService

theorem blacklistKey_injective : Function.Injective blacklistKey := by
  intro first second same
  have texts := congrArg String.toList same
  simp only [blacklistKey, String.toList_append, List.append_cancel_left_eq] at texts
  exact String.toList_inj.mp texts

theorem stateCacheKey_injective : Function.Injective stateCacheKey := by
  intro first second same
  have texts := congrArg String.toList same
  simp only [stateCacheKey, String.toList_append, List.append_cancel_left_eq] at texts
  exact UUID.str_injective (String.toList_inj.mp texts)

theorem blacklistKey_ne_stateCacheKey (jti : String) (state : UUID) :
    blacklistKey jti ≠ stateCacheKey state := by
  intro same
  have texts := congrArg (fun text => text.toList.head?) same
  simp [blacklistKey, stateCacheKey, String.toList_append] at texts

/-- The name of the rule sets the counters apart. -/
theorem underscore_mem_rateLimitKey (settings : RateLimitSettings) (identity : String) :
    '_' ∈ (rateLimitKey settings (ipPerRouteRule settings) identity).toList := by
  simp [rateLimitKey, ipPerRouteRule, String.toList_append]

theorem underscore_not_mem_blacklistKey (jti : UUID4) :
    '_' ∉ (blacklistKey jti.val.str).toList := by
  simp [blacklistKey, String.toList_append, UUID.underscore_not_mem_str]

theorem underscore_not_mem_stateCacheKey (state : UUID) : '_' ∉ (stateCacheKey state).toList := by
  simp [stateCacheKey, YANDEX, String.toList_append, UUID.underscore_not_mem_str]

section Commands

variable {tid : Tid} {before after : World} {key : String}

theorem answers_redisGet {reply : Except RedisError (Option RedisValue)}
    (answered : answers tid (.redisGet key) before reply after) :
    after.redis = before.redis ∧
      ∀ value, reply = .ok value → value = before.redis.get after.clock.milliseconds key := by
  obtain ⟨choice, answered⟩ := answered
  obtain ⟨same, failed⟩ | ⟨value, redis, read, same, clock, returned⟩ :=
    World.redisCommand_cases (Option.some.inj answered)
  · exact ⟨same, fun value ok => absurd ok (failed value)⟩
  · cases read
    exact ⟨same, fun value ok => by rw [returned value ok, clock]; rfl⟩

/-- `SETEX` stores the entry, or fails; it may have stored the entry although it fails. -/
theorem answers_redisSetex {ttl : ℤ} {value : RedisValue} {reply : Except RedisError Unit}
    (answered : answers tid (.redisSetex key ttl value) before reply after) :
    after.redis = before.redis ∧ reply ≠ .ok () ∨
      0 < ttl ∧ after.redis = before.redis.put key
        ⟨value, some (after.clock.milliseconds + ttl.toNat * 1000)⟩ := by
  obtain ⟨choice, answered⟩ := answered
  obtain ⟨same, failed⟩ | ⟨_, redis, stored, same, clock, _⟩ :=
    World.redisCommand_cases (Option.some.inj answered)
  · exact .inl ⟨same, failed ()⟩
  · obtain ⟨_, set, ⟨⟩⟩ := Option.map_eq_some_iff.mp stored
    unfold Redis.setex at set
    split at set
    · next positive =>
      cases set
      exact .inr ⟨positive, by rw [same, clock]; rfl⟩
    · cases set

/-- `GETDEL` returns what the key showed and deletes it, or fails; it may have deleted the key
although it fails. -/
theorem answers_redisGetdel {reply : Except RedisError (Option RedisValue)}
    (answered : answers tid (.redisGetdel key) before reply after) :
    after.redis = before.redis ∧ (∀ value, reply ≠ .ok value) ∨
      after.redis = before.redis.delete key ∧
        ∀ value, reply = .ok value → value = before.redis.get after.clock.milliseconds key := by
  obtain ⟨choice, answered⟩ := answered
  obtain ⟨same, failed⟩ | ⟨value, redis, read, same, clock, returned⟩ :=
    World.redisCommand_cases (Option.some.inj answered)
  · exact .inl ⟨same, failed⟩
  · cases read
    exact .inr ⟨same, fun value ok => by rw [returned value ok, clock]; rfl⟩

end Commands

section Steps

variable {Token : Type} {app : App Token} {condition : Condition Tid Reply World} {world : World}
  {requests : Tid → Request Token} {older past : List ServiceEvent} {event : ServiceEvent}

/-- The event stores a blacklist entry for a token id, by a request that presents such a token. -/
structure RevokesBy (app : App Token) (request : Request Token) (trace : Trace Reply)
    (before : World) (jti : UUID4) (after : World) : Prop where
  stored : ∃ token claims now ttl, request.revokes? = some token ∧
    app.jwt.verify token = some claims ∧ claims.jti = jti ∧ ⟨.now, now⟩ ∈ trace ∧
    claims.exp - Time.seconds now ≤ ttl ∧ after.redis = before.redis.put (blacklistKey jti.val.str)
      ⟨.text "true", some (after.clock.milliseconds + ttl.toNat * 1000)⟩

/-- A `SETEX` of a blacklist key is a revocation, or it fails without effect. -/
theorem blacklist_setex {request : Request Token} {trace : Trace Reply} {tid : Tid}
    {before after : World} {key : String} {ttl : ℤ} {value : RedisValue}
    {reply : Except RedisError Unit} {jti : UUID4} (same : key = blacklistKey jti.val.str)
    (stores : Stores app request trace (.redisSetex key ttl value))
    (answered : answers tid (.redisSetex key ttl value) before reply after) :
    after.redis = before.redis ∧ reply ≠ .ok () ∨ RevokesBy app request trace before jti after := by
  cases stores with
  | revoke token claims now _ presented verified seen positive outlives =>
    refine (answers_redisSetex answered).imp_right fun ⟨_, stored⟩ => ?_
    have owner : claims.jti = jti := Subtype.ext (UUID.str_injective (blacklistKey_injective same))
    subst owner
    exact ⟨token, claims, now, ttl, presented, verified, rfl, seen, outlives, stored⟩
  | issueState http state codeVerifier rest requested drawn =>
    exact absurd same.symm (blacklistKey_ne_stateCacheKey _ _)

/-- Only revocations change what a blacklist key shows. -/
theorem blacklist_step
    (lawful : LawfulEvent answers condition (fun tid => Allowed app (requests tid)) world older
      event) (jti : UUID4) :
    (∀ now, event.after.redis.entryAt now (blacklistKey jti.val.str) =
      event.before.redis.entryAt now (blacklistKey jti.val.str)) ∨
    RevokesBy app (requests event.thread) (traceOf older event.thread) event.before jti
      event.after := by
  by_cases touched : event.request.redisKey? = some (blacklistKey jti.val.str)
  · obtain ⟨thread, request, reply, before, after⟩ := event
    obtain ⟨_, answered, _, specified⟩ := lawful
    cases request with
    | redisGet key => exact .inl fun now => by rw [(answers_redisGet answered).1]
    | redisSetex key ttl value =>
      obtain ⟨kept, _⟩ | revokes :=
        blacklist_setex (Option.some.inj touched : key = _) specified answered
      · exact .inl fun now => by rw [kept]
      · exact .inr revokes
    | redisGetdel key =>
      have same : key = blacklistKey jti.val.str := Option.some.inj touched
      cases specified with
      | consumeState state callback =>
        exact absurd same.symm (blacklistKey_ne_stateCacheKey _ _)
    | redisIncrWithTtl key windowMs =>
      have same : key = blacklistKey jti.val.str := Option.some.inj touched
      cases specified with
      | count identity _ =>
        have clash := underscore_mem_rateLimitKey app.rateLimitSettings identity
        rw [same] at clash
        exact absurd clash (underscore_not_mem_blacklistKey jti)
    | _ => cases touched
  · exact .inl ((event_effect lawful).redis _ touched)

/-- The blacklist shows the token id at every moment up to the given second. -/
def Blacklisted (world : World) (jti : UUID4) (until_ : ℤ) : Prop :=
  ∀ now : ℕ, (now : ℤ) ≤ until_ * 1000 →
    (world.redis.entryAt now (blacklistKey jti.val.str)).isSome

theorem Time.seconds_le_milliseconds {early late : ℕ} (order : early ≤ late) :
    Time.seconds early * 1000 ≤ Time.milliseconds late := by
  unfold Time.seconds Time.milliseconds
  omega

/-- A revocation covers the life of the token, whatever time passed since it read the clock. -/
theorem blacklisted_of_revokes
    (lawful : ServiceLawful app condition world requests (event :: older)) {jti : UUID4} {exp : ℤ}
    (expires : ∀ token claims, (requests event.thread).revokes? = some token →
      app.jwt.verify token = some claims → claims.jti = jti → claims.exp = exp)
    (revokes : RevokesBy app (requests event.thread) (traceOf older event.thread) event.before jti
      event.after) : Blacklisted event.after jti exp := by
  obtain ⟨token, claims, now, ttl, presented, verified, owner, seen, outlives, stored⟩ := revokes
  have expires := expires token claims presented verified owner
  have clock : now ≤ event.after.clock := by
    refine le_trans (saw_now lawful.2 seen) ?_
    rw [← lawful.1.follows]
    exact (event_effect lawful.1).clock
  intro moment early
  have covered : moment ≤ event.after.clock.milliseconds + ttl.toNat * 1000 := by
    have floor := Time.seconds_le_milliseconds clock
    rw [expires] at outlives
    omega
  rw [stored, Redis.entryAt_put_self, if_pos (by simpa [RedisEntry.live] using covered)]
  rfl

/-- Once covered, the token stays covered. -/
theorem blacklisted_kept
    (lawful : ServiceLawful app condition world requests past) {jti : UUID4} {exp : ℤ}
    (unique : ∀ tid token claims, (requests tid).revokes? = some token →
      app.jwt.verify token = some claims → claims.jti = jti → claims.exp = exp)
    (suffix : older <:+ past) (covered : Blacklisted (stateAfter world older) jti exp) :
    Blacklisted (stateAfter world past) jti exp := by
  obtain ⟨newer, rfl⟩ := suffix
  induction newer with
  | nil => exact covered
  | cons event newer ih =>
    obtain same | revokes := blacklist_step lawful.1 jti
    · intro now early
      have before := ih lawful.2 now early
      rw [show stateAfter world (event :: newer ++ older) = event.after from rfl, same,
        show event.before = stateAfter world (newer ++ older) from lawful.1.follows]
      exact before
    · exact blacklisted_of_revokes lawful (unique event.thread) revokes

/-- The exchange wrote the blacklist entry of the token id. -/
def blacklists (jti : UUID4) : Exchange Reply → Bool
  | ⟨.redisSetex key _ _, .ok _⟩ => key = blacklistKey jti.val.str
  | _ => false

theorem revokes_of_blacklists
    (lawful : LawfulEvent answers condition (fun tid => Allowed app (requests tid)) world older
      event) {jti : UUID4} (wrote : blacklists jti event.exchange = true) :
    RevokesBy app (requests event.thread) (traceOf older event.thread) event.before jti
      event.after := by
  obtain ⟨thread, request, reply, before, after⟩ := event
  obtain ⟨_, answered, _, specified⟩ := lawful
  cases request with
  | redisSetex key ttl value =>
    cases reply with
    | ok _ =>
      exact (blacklist_setex (of_decide_eq_true wrote) specified answered).resolve_left
        fun failed => failed.2 rfl
    | error error => cases wrote
  | _ => cases wrote

/-- A look-up of a covered token id in time finds it. -/
theorem lookup_finds {tid : Tid} {before after : World} {jti : UUID4} {exp : ℤ}
    (covered : Blacklisted before jti exp) (timely : (after.clock : ℤ) ≤ exp * 1000000)
    {value : Option RedisValue}
    (answered : answers tid (.redisGet (blacklistKey jti.val.str)) before (.ok value) after) :
    value.isSome := by
  rw [(answers_redisGet answered).2 value rfl, Redis.get, Option.isSome_map]
  refine covered _ ?_
  unfold Time.milliseconds
  omega

end Steps

end AuthApi
