import AuthApi.Run.ApiHistories
import AuthApi.Run.Keyspace
import AuthApi.Run.RateLimit

/-! # The keyspace the service keeps in Redis

Three subsystems share one Redis. Each entry they leave behind has the type its readers expect and a deadline, so no
command ever meets a value of another type and nothing is kept forever.
-/

namespace AuthApi

open Interleaving Interleaving.Program Relational AuthService YandexIdService

/-- The entries of the service: a counter that has counted something, the mark of a revoked token, and the verifier of
a pending login. Every one of them expires. -/
inductive KeptEntry (settings : RateLimitSettings) : String × RedisEntry → Prop
  | counter (identity : String) (count : ℤ) (deadline : ℕ) (counted : 1 ≤ count) : KeptEntry settings
      (rateLimitKey settings (ipPerRouteRule settings) identity, ⟨.counter count, some deadline⟩)
  | revoked (jti : UUID4) (deadline : ℕ) :
      KeptEntry settings (blacklistKey jti.val.str, ⟨.text "true", some deadline⟩)
  | pending (state : UUID) (codeVerifier : String) (deadline : ℕ) :
      KeptEntry settings (stateCacheKey state, ⟨.codeVerifier codeVerifier, some deadline⟩)

/-- Redis holds entries of the service only. -/
def Redis.WellKept (settings : RateLimitSettings) (redis : Redis) : Prop :=
  ∀ entry ∈ redis, KeptEntry settings entry

/-- Redis did not refuse the command, and the value it returned is one its caller can read. -/
def WellTyped : (call : Call) → Reply call → Prop
  | .redisGet _, reply => reply ≠ .error .refused ∧ ∀ value, reply = .ok (some value) → value = .text "true"
  | .redisSetex _ _ _, reply => reply ≠ .error .refused
  | .redisGetdel _, reply => reply ≠ .error .refused ∧
      ∀ value, reply = .ok (some value) → ∃ codeVerifier, value = .codeVerifier codeVerifier
  | .redisIncrWithTtl _ _, reply => reply ≠ .error .refused ∧
      ∀ count ttl, reply = .ok (count, ttl) → 1 ≤ count ∧ 0 ≤ ttl
  | _, _ => True

section Entries

variable {settings : RateLimitSettings} {redis after : Redis} {key : String} {entry : RedisEntry} {now : ℕ}

theorem Redis.mem_of_entryAt (shown : redis.entryAt now key = some entry) :
    (key, entry) ∈ redis ∧ entry.live now = true := by
  obtain ⟨found, live⟩ := Option.filter_eq_some_iff.mp shown
  obtain ⟨⟨stored, same⟩, looked, rfl⟩ := Option.map_eq_some_iff.mp found
  obtain rfl : stored = key := lookup_key looked
  exact ⟨lookup_mem looked, live⟩

theorem Redis.WellKept.shown (kept : redis.WellKept settings) (shown : redis.entryAt now key = some entry) :
    KeptEntry settings (key, entry) :=
  kept _ (Redis.mem_of_entryAt shown).1

theorem Redis.WellKept.put (kept : redis.WellKept settings) (stored : KeptEntry settings (key, entry)) :
    (redis.put key entry).WellKept settings := by
  intro other member
  obtain rfl | member := List.mem_cons.mp member
  · exact stored
  · exact kept _ (List.mem_filter.mp member).1

theorem Redis.WellKept.delete (kept : redis.WellKept settings) : (redis.delete key).WellKept settings :=
  fun _ member => kept _ (List.mem_filter.mp member).1

/-- What a counter's key holds. -/
theorem KeptEntry.of_counter {identity : String}
    (kept : KeptEntry settings (rateLimitKey settings (ipPerRouteRule settings) identity, entry)) :
    ∃ (count : ℤ) (deadline : ℕ), 1 ≤ count ∧ entry = ⟨.counter count, some deadline⟩ := by
  have marked := underscore_mem_rateLimitKey settings identity
  generalize rateLimitKey settings (ipPerRouteRule settings) identity = key at kept marked
  cases kept with
  | counter other count deadline counted => exact ⟨count, deadline, counted, rfl⟩
  | revoked jti deadline => exact absurd marked (underscore_not_mem_blacklistKey jti)
  | pending state codeVerifier deadline => exact absurd marked (underscore_not_mem_stateCacheKey state)

/-- What the key of a token id holds. -/
theorem KeptEntry.of_blacklist {jti : UUID4} (kept : KeptEntry settings (blacklistKey jti.val.str, entry)) :
    entry.value = .text "true" := by
  have unmarked := underscore_not_mem_blacklistKey jti
  have distinct := blacklistKey_ne_stateCacheKey jti.val.str
  generalize blacklistKey jti.val.str = key at kept unmarked distinct
  cases kept with
  | counter identity count deadline counted => exact absurd (underscore_mem_rateLimitKey _ _) unmarked
  | revoked other deadline => rfl
  | pending state codeVerifier deadline => exact absurd rfl (distinct state)

/-- What the key of a login state holds. -/
theorem KeptEntry.of_state {state : UUID} (kept : KeptEntry settings (stateCacheKey state, entry)) :
    ∃ codeVerifier, entry.value = .codeVerifier codeVerifier := by
  have unmarked := underscore_not_mem_stateCacheKey state
  have distinct := fun jti => blacklistKey_ne_stateCacheKey jti state
  generalize stateCacheKey state = key at kept unmarked distinct
  cases kept with
  | counter identity count deadline counted => exact absurd (underscore_mem_rateLimitKey _ _) unmarked
  | revoked other deadline => exact absurd rfl (distinct _)
  | pending state codeVerifier deadline => exact ⟨codeVerifier, rfl⟩

/-- The script of the limiter runs on every key of a counter and leaves a counter that expires. -/
theorem Redis.WellKept.counted (kept : redis.WellKept settings) (identity : String) (windowMs : ℕ) :
    ∃ (count ttl : ℤ) (counted : Redis), redis.incrWithTtl now
        (rateLimitKey settings (ipPerRouteRule settings) identity) windowMs = some ((count, ttl), counted) ∧
      1 ≤ count ∧ 0 ≤ ttl ∧ counted.WellKept settings := by
  generalize key_eq : rateLimitKey settings (ipPerRouteRule settings) identity = key
  have counter (count : ℤ) (deadline : ℕ) (positive : 1 ≤ count) :
      KeptEntry settings (key, ⟨.counter count, some deadline⟩) := key_eq ▸ .counter identity count deadline positive
  cases shown : redis.entryAt now key with
  | none =>
    refine ⟨1, windowMs, (redis.put key ⟨.counter 1, none⟩).put key ⟨.counter 1, some (now + windowMs)⟩,
      ?_, le_refl 1, by omega, ?_⟩
    · simp [Redis.incrWithTtl, Redis.incr, shown, Redis.pexpire, Redis.pttl, RedisEntry.live]
    · intro other member
      obtain rfl | member := List.mem_cons.mp member
      · exact counter 1 _ (le_refl 1)
      · obtain ⟨member, other_key⟩ := List.mem_filter.mp member
        obtain rfl | member := List.mem_cons.mp member
        · simp at other_key
        · exact kept _ (List.mem_filter.mp member).1
  | some entry =>
    obtain ⟨_, live⟩ := Redis.mem_of_entryAt shown
    have present := kept.shown shown
    rw [← key_eq] at present
    obtain ⟨count, deadline, positive, rfl⟩ := present.of_counter
    have soon : now ≤ deadline := of_decide_eq_true live
    refine ⟨count + 1, deadline - now, redis.put key ⟨.counter (count + 1), some deadline⟩, ?_, by omega, by omega,
      kept.put (counter (count + 1) deadline (by omega))⟩
    have again : count + 1 ≠ 1 := by omega
    simp [Redis.incrWithTtl, Redis.incr, shown, again, Redis.pttl, RedisEntry.live, soon]

end Entries
section Commands

variable {Token : Type} {app : App Token} {tid : Tid} {before after : World} {key : String}

/-- Redis refuses what it cannot do, whatever becomes of the connection. -/
theorem World.redisCommand_refused {world : World} {α : Type} {fault : RedisFault} {result : Option (α × Redis)}
    (answered : world.redisCommand fault result = (.error .refused, after)) : result = none := by
  unfold World.redisCommand at answered
  split at answered <;> cases answered
  rfl

/-- Only Redis commands change Redis. -/
theorem answers_redis_eq {call : Call} {reply : Reply call} (other : call.redisKey? = none)
    (answered : answers tid call before reply after) : after.redis = before.redis := by
  obtain ⟨choice, answered⟩ := answered
  cases call with
  | flush writes => exact (World.flush_effect answered).2.2.2
  | commit session writes => exact (World.commit_effect answered).2.2.1
  | selectLoginHistory userId offset limit =>
    simp only [World.answer, World.respond] at answered
    split at answered
    · cases answered
      rfl
    · cases answered
  | redisGet key => cases other
  | redisSetex key ttl value => cases other
  | redisGetdel key => cases other
  | redisIncrWithTtl key windowMs => cases other
  | _ =>
    cases answered
    rfl

/-- A `GET` asks about a token id. -/
def Call.ReadsBlacklist : Call → Prop
  | .redisGet key => ∃ jti : UUID4, key = blacklistKey jti.val.str
  | _ => True

theorem admitsShared_readsBlacklist (app : App Token) : AdmitsShared app Call.ReadsBlacklist where
  silent call ordinary := by cases call <;> trivial
  inserts _ := trivial
  counts _ _ := trivial
  looksUp jti := ⟨jti, rfl⟩
  revokes _ _ := trivial
  issues _ _ _ := trivial
  consumes _ := trivial

/-- What a command of the service keeps and returns. -/
structure KeepsWell (settings : RateLimitSettings) (call : Call) (reply : Reply call) (after : World) : Prop where
  kept : after.redis.WellKept settings
  typed : WellTyped call reply

variable {settings : RateLimitSettings} (kept : before.redis.WellKept settings)
include kept

theorem keepsWell_redisGet {jti : UUID4} {reply : Except RedisError (Option RedisValue)}
    (answered : answers tid (.redisGet (blacklistKey jti.val.str)) before reply after) :
    KeepsWell settings (.redisGet (blacklistKey jti.val.str)) reply after := by
  obtain ⟨same, read⟩ := answers_redisGet answered
  refine ⟨same ▸ kept, ?_, ?_⟩
  · rintro rfl
    obtain ⟨choice, answered⟩ := answered
    cases World.redisCommand_refused (Option.some.inj answered)
  · rintro value rfl
    obtain ⟨entry, shown, rfl⟩ := Option.map_eq_some_iff.mp (read _ rfl).symm
    exact (kept.shown shown).of_blacklist

theorem keepsWell_redisSetex {ttl : ℤ} {value : RedisValue} {reply : Except RedisError Unit} (positive : 0 < ttl)
    (stored : ∀ deadline, KeptEntry settings (key, ⟨value, some deadline⟩))
    (answered : answers tid (.redisSetex key ttl value) before reply after) :
    KeepsWell settings (.redisSetex key ttl value) reply after := by
  constructor
  · obtain ⟨same, _⟩ | ⟨_, same⟩ := answers_redisSetex answered
    · exact same ▸ kept
    · rw [same]
      exact kept.put (stored _)
  · rintro rfl
    obtain ⟨choice, answered⟩ := answered
    have refused := World.redisCommand_refused (Option.some.inj answered)
    simp [Redis.setex, positive] at refused

theorem keepsWell_redisGetdel {state : UUID} {reply : Except RedisError (Option RedisValue)}
    (answered : answers tid (.redisGetdel (stateCacheKey state)) before reply after) :
    KeepsWell settings (.redisGetdel (stateCacheKey state)) reply after := by
  obtain ⟨same, failed⟩ | ⟨same, read⟩ := answers_redisGetdel answered
  · refine ⟨same ▸ kept, ?_, fun value ok => absurd ok (failed _)⟩
    rintro rfl
    obtain ⟨choice, answered⟩ := answered
    cases World.redisCommand_refused (Option.some.inj answered)
  · refine ⟨same ▸ kept.delete, ?_, ?_⟩
    · rintro rfl
      obtain ⟨choice, answered⟩ := answered
      cases World.redisCommand_refused (Option.some.inj answered)
    · rintro value rfl
      obtain ⟨entry, shown, rfl⟩ := Option.map_eq_some_iff.mp (read _ rfl).symm
      exact (kept.shown shown).of_state

theorem keepsWell_redisIncrWithTtl {identity : String} {windowMs : ℕ} {reply : Except RedisError (ℤ × ℤ)}
    (key_eq : key = rateLimitKey settings (ipPerRouteRule settings) identity)
    (answered : answers tid (.redisIncrWithTtl key windowMs) before reply after) :
    KeepsWell settings (.redisIncrWithTtl key windowMs) reply after := by
  subst key_eq
  have script (now : ℕ) := @Redis.WellKept.counted _ _ now kept identity windowMs
  have runs : reply ≠ .error .refused := by
    rintro rfl
    obtain ⟨choice, answered⟩ := answered
    have refused := World.redisCommand_refused (Option.some.inj answered)
    obtain ⟨count, ttl, counted, ran, _⟩ := script ((before.advance choice.delay).clock.milliseconds)
    cases refused.symm.trans ran
  obtain ⟨same, failed⟩ | ⟨value, ran, returned⟩ := answers_redisIncrWithTtl answered
  · exact ⟨same ▸ kept, runs, fun count ttl ok => absurd ok (failed _)⟩
  · obtain ⟨count, ttl, counted, same, positive, expires, kept⟩ := script after.clock.milliseconds
    obtain ⟨rfl, rfl⟩ := Prod.mk.inj (Option.some.inj (ran.symm.trans same))
    refine ⟨kept, runs, fun count ttl ok => ?_⟩
    obtain ⟨rfl, rfl⟩ := Prod.mk.inj (returned _ ok)
    exact ⟨positive, expires⟩

end Commands

section Runs

variable {Token : Type} {app : App Token} {condition : Condition Tid Reply World} {world : World}
  {requests : Tid → ApiRequest Token} {config : ApiConfig Token} {older : List ServiceEvent} {event : ServiceEvent}

/-- What a service stores, it stores with a deadline under a key of its own. -/
theorem service_keepsWell {service : Service Token} {shown : Trace Reply} {tid : Tid} {call : Call}
    {reply : Reply call} {before after : World} (lives : 0 < app.yandexidSettings.confirmationCodeTtl)
    (kept : before.redis.WellKept app.rateLimitSettings) (reads : call.ReadsBlacklist)
    (allowed : ServiceAllowed app service shown call) (answered : answers tid call before reply after)
    (unrelated : call.redisKey? = none → after.redis = before.redis) :
    KeepsWell app.rateLimitSettings call reply after := by
  cases call with
  | redisGet key =>
    obtain ⟨jti, rfl⟩ := reads
    exact keepsWell_redisGet kept answered
  | redisSetex key ttl value =>
    cases service with
    | idle => cases allowed
    | gate accessToken => cases allowed
    | request request =>
      cases allowed with
      | revoke token claims now _ presented verified seen positive outlives =>
        exact keepsWell_redisSetex kept positive (fun deadline => .revoked claims.jti deadline) answered
      | issueState http state codeVerifier rest requested drawn =>
        exact keepsWell_redisSetex kept lives (fun deadline => .pending state.val codeVerifier deadline) answered
    | buildLoginRedirect state =>
      obtain silent | ⟨codeVerifier, rest, _, same⟩ := allowed
      · cases silent
      · cases same
        exact keepsWell_redisSetex kept lives (fun deadline => .pending state codeVerifier deadline) answered
  | redisGetdel key =>
    cases service with
    | idle => cases allowed
    | gate accessToken => cases allowed
    | request request =>
      cases allowed with
      | consumeState state callback => exact keepsWell_redisGetdel kept answered
    | buildLoginRedirect state =>
      obtain silent | ⟨codeVerifier, rest, _, same⟩ := allowed
      · cases silent
      · cases same
  | redisIncrWithTtl key windowMs =>
    cases service with
    | idle => cases allowed
    | gate accessToken => cases allowed
    | request request =>
      cases allowed with
      | count identity _ => exact keepsWell_redisIncrWithTtl kept rfl answered
    | buildLoginRedirect state =>
      obtain silent | ⟨codeVerifier, rest, _, same⟩ := allowed
      · cases silent
      · cases same
  | _ => exact ⟨unrelated rfl ▸ kept, trivial⟩

theorem event_keepsWell (lives : 0 < app.yandexidSettings.confirmationCodeTtl)
    (lawful : LawfulEvent answers condition (fun tid trace call => (requests tid).Issues app (ServiceAllowed app)
      trace call ∧ call.ReadsBlacklist) world older event)
    (kept : event.before.redis.WellKept app.rateLimitSettings) :
    KeepsWell app.rateLimitSettings event.request event.reply event.after := by
  have unrelated (silent : event.request.redisKey? = none) : event.after.redis = event.before.redis :=
    answers_redis_eq silent lawful.answered
  obtain ⟨issues, reads⟩ := lawful.specified
  obtain isHidden | ⟨service, shown, asks, shows, allowed⟩ := issues
  · obtain ⟨thread, call, reply, before, after⟩ := event
    have answered := lawful.answered
    obtain rfl | ⟨identity, windowMs, rfl⟩ := isHidden
    · exact ⟨unrelated rfl ▸ kept, trivial⟩
    · exact keepsWell_redisIncrWithTtl kept rfl answered
  · exact service_keepsWell lives kept reads allowed lawful.answered unrelated

theorem keepsWell_of_reaches (lives : 0 < app.yandexidSettings.confirmationCodeTtl)
    (kept : world.redis.WellKept app.rateLimitSettings)
    (run : Reaches answers condition (receivedAll app world requests) config) :
    config.now.redis.WellKept app.rateLimitSettings ∧
      ∀ event ∈ config.past, WellTyped event.request event.reply := by
  have course := api_course _ _ run fun tid => ((requests tid).along fun service _ => service.allowed app).and
    ((admitsShared_readsBlacklist app).apiRequest (requests tid))
  have holds {past : List ServiceEvent} (suffix : past <:+ config.past) :
      (stateAfter world past).redis.WellKept app.rateLimitSettings := by
    apply (course.lawful.suffix suffix).invariant (p := fun state => state.redis.WellKept app.rateLimitSettings)
    · intro older event _ lawful holds
      have before := holds older (List.suffix_refl older)
      rw [← lawful.follows] at before
      exact (event_keepsWell lives lawful before).kept
    · exact kept
  constructor
  · rw [course.now_eq]
    exact holds (List.suffix_refl _)
  · intro event member
    obtain ⟨newer, older, split⟩ := List.append_of_mem member
    have lawful := course.lawful
    rw [split] at lawful
    have before := holds (split ▸ (List.suffix_cons event older).trans (List.suffix_append _ _))
    rw [← lawful.event.follows] at before
    exact (event_keepsWell lives lawful.event before).typed

/-- Whatever requests come and however they interleave, Redis holds counters, marks and verifiers only, each under a
key of its own kind and with a deadline, and no command of the service is refused or returns a value of another type. -/
theorem redis_well_kept (lives : 0 < app.yandexidSettings.confirmationCodeTtl)
    (kept : world.redis.WellKept app.rateLimitSettings)
    (run : Reaches answers condition (receivedAll app world requests) config) :
    config.now.redis.WellKept app.rateLimitSettings ∧
      ∀ event ∈ config.past, WellTyped event.request event.reply :=
  keepsWell_of_reaches lives kept run

/-- The start of a login stores a counter and a verifier. -/
theorem redis_well_kept_login : ∃ config : ApiConfig Claims, config.now.redis.length = 2 ∧
    config.now.redis.WellKept transparentApp.rateLimitSettings := by
  have played : ((receivedAll transparentApp bootstrappedWorld fun _ => .oauthLogin ⟨"GET", none, [], [], []⟩).playAll
      World.answer unrestricted [move 0, move 0, move 0 11, move 0, move 0, move 0]).any
      (fun config => config.now.redis.length = 2) = true := by
    decide +kernel
  obtain ⟨config, run, stored⟩ := Config.playAll_exists played
  have empty : bootstrappedWorld.redis.WellKept transparentApp.rateLimitSettings := List.forall_mem_nil _
  exact ⟨config, of_decide_eq_true stored, (redis_well_kept (by decide) empty run).1⟩

end Runs

end AuthApi
