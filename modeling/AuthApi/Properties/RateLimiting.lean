import AuthApi.Model.Requests
import AuthApi.Run.RateLimit

/-! # The fixed-window limiter

Runs of any number of `consume` calls for any identities, at any times and with any Redis failures.
The calls of one identity are counted in fixed windows; a call is allowed by its position in its
window, and no counter outlives its window.
-/

namespace AuthApi

open Interleaving Interleaving.Program RateLimiting

/-- A `consume` call for each number, none of which has started. -/
def consumers (settings : RateLimitSettings) (rule : RateLimitRule) (identities : Tid → String)
    (world : World) : Config Tid Reply World Exn RateLimitResult :=
  .start world fun tid => consume settings rule (identities tid)

/-- The call has returned a result that allows the request. -/
def isAllowed : Action RateLimitResult → Bool
  | .done result => result.allowed
  | _ => false

section Calls

variable (settings : RateLimitSettings) (rule : RateLimitRule)

/-- The one call of `consume`. -/
def consumeCall (identity : String) : Call :=
  .redisIncrWithTtl (rateLimitKey settings rule identity) rule.windowMs

/-- What `consume` makes of the reply to its script. -/
def RateLimitRule.outcome (rule : RateLimitRule) :
    Except RedisError (ℤ × ℤ) → Except Exn RateLimitResult
  | .ok (currentCount, ttlMs) => .ok (rule.verdict currentCount ttlMs)
  | .error _ => .error (.rateLimitStorageError "Rate limiter storage unavailable")

variable {settings rule}

theorem consume_along (closed : settings.failOpen = false) (identity : String) :
    (consume settings rule identity).Along
      (fun trace call => trace = [] ∧ call = consumeCall settings rule identity)
      (fun trace outcome => trace = [] ∨ ∃ reply, trace = [⟨consumeCall settings rule identity, reply⟩] ∧
        outcome = rule.outcome reply) [] := by
  refine ⟨⟨rfl, rfl⟩, fun reply => ?_⟩
  cases reply with
  | ok counted => exact .inr ⟨.ok counted, rfl, rfl⟩
  | error error =>
    simp only [done_bind, closed, Bool.false_eq_true, if_false]
    exact .inr ⟨.error error, rfl, rfl⟩

end Calls

/-- For a positive length the window is what the rule says. -/
theorem RateLimitRule.windowMs_eq {rule : RateLimitRule} (positive : 1 ≤ rule.windowSeconds) :
    rule.windowMs = rule.windowSeconds.toNat * 1000 := by
  unfold windowMs
  omega

/-- The reply to the call of an event's thread. -/
def Replied (settings : RateLimitSettings) (rule : RateLimitRule) (identities : Tid → String)
    (event : ServiceEvent) (reply : Except RedisError (ℤ × ℤ)) : Prop :=
  event.exchange = ⟨consumeCall settings rule (identities event.thread), reply⟩

/-- The times of the calls counted for an identity, newest first. -/
def callTimes (settings : RateLimitSettings) (rule : RateLimitRule) (identity : String)
    (past : List ServiceEvent) : List ℕ := countedAt (rateLimitKey settings rule identity) past

/-- What a run of the limiter keeps to. -/
structure FixedWindowKept (settings : RateLimitSettings) (rule : RateLimitRule)
    (identities : Tid → String) (config : Config Tid Reply World Exn RateLimitResult) : Prop where
  answered : ∀ event older, event :: older <:+ config.past → ∀ counted,
    Replied settings rule identities event (.ok counted) →
      ∃ result, config.threads event.thread = .done result ∧ (result.allowed = true ↔
        ((window rule.windowMs (callTimes settings rule (identities event.thread)
          (event :: older))).length : ℤ) ≤ rule.limit)
  failed : ∀ event ∈ config.past, ∀ error, Replied settings rule identities event (.error error) →
    ∃ detail, config.threads event.thread = .raise (.rateLimitStorageError detail)
  interval : ∀ identity (start : Time), ((config.past.countP fun event =>
    identities event.thread = identity && isAllowed (config.threads event.thread) &&
      (start ≤ event.after.clock &&
        event.after.clock < start + rule.windowSeconds.toNat * 1000000) : ℕ) : ℤ) ≤ 2 * rule.limit
  expires : ∀ identity entry, config.now.redis.entryAt config.now.clock.milliseconds
    (rateLimitKey settings rule identity) = some entry → ∃ deadline, entry.deadline = some deadline ∧
      deadline ≤ config.now.clock.milliseconds + rule.windowSeconds.toNat * 1000
  released : ∀ event older, event :: older <:+ config.past → ∀ counted,
    Replied settings rule identities event (.ok counted) →
      (∀ time ∈ callTimes settings rule (identities event.thread) older,
        time + rule.windowSeconds.toNat * 1000 < event.after.clock.milliseconds) →
      isAllowed (config.threads event.thread) = true

section Runs

variable {settings : RateLimitSettings} {rule : RateLimitRule} {identities : Tid → String}
  {condition : Condition Tid Reply World} {world : World}
  {config : Config Tid Reply World Exn RateLimitResult}

/-- The specification of a pool of `consume` calls. -/
private abbrev ConsumeCourse (settings : RateLimitSettings) (rule : RateLimitRule)
    (identities : Tid → String) (condition : Condition Tid Reply World) (world : World)
    (config : Config Tid Reply World Exn RateLimitResult) : Prop :=
  Course answers condition
    (fun tid trace call => trace = [] ∧ call = consumeCall settings rule (identities tid))
    (fun tid trace outcome => trace = [] ∨
      ∃ reply, trace = [⟨consumeCall settings rule (identities tid), reply⟩] ∧
        outcome = rule.outcome reply) world config

/-- Only the calls for an identity touch its counter. -/
private theorem consume_only (identity : String) (tid : Tid) (trace : Trace Reply) (call : Call)
    (issued : trace = [] ∧ call = consumeCall settings rule (identities tid))
    (touches : call.redisKey? = some (rateLimitKey settings rule identity)) :
    call = .redisIncrWithTtl (rateLimitKey settings rule identity) rule.windowMs := by
  obtain ⟨_, rfl⟩ := issued
  have same : rateLimitKey settings rule (identities tid) = rateLimitKey settings rule identity :=
    Option.some.inj touches
  rw [consumeCall, same]

/-- A call that has been answered has ended with what it makes of the reply. -/
private theorem answered_ends (course : ConsumeCourse settings rule identities condition world config)
    {event : ServiceEvent} (member : event ∈ config.past) :
    ∃ reply, Replied settings rule identities event reply ∧
      (config.threads event.thread).outcome? = some (rule.outcome reply) := by
  obtain ⟨reply, _, replied, ended, rfl⟩ := course.single member
  exact ⟨reply, replied, ended⟩

private theorem Replied.unique {event : ServiceEvent} {first second : Except RedisError (ℤ × ℤ)}
    (left : Replied settings rule identities event first)
    (right : Replied settings rule identities event second) : first = second := by
  have same := left.symm.trans right
  cases same
  rfl

/-- A call is allowed only if its reply left the count within the limit. -/
private theorem grants_of_allowed (course : ConsumeCourse settings rule identities condition world config)
    {event : ServiceEvent} (member : event ∈ config.past)
    (allowed : isAllowed (config.threads event.thread) = true) :
    grants (rateLimitKey settings rule (identities event.thread)) rule.limit event = true := by
  obtain ⟨reply, replied, ended⟩ := answered_ends course member
  cases reply with
  | ok counted =>
    rw [outcome?_eq_ok.mp ended] at allowed
    exact grants_iff.mpr ⟨rule.windowMs, counted.1, counted.2, of_decide_eq_true allowed, replied⟩
  | error error =>
    rw [outcome?_eq_error.mp ended] at allowed
    cases allowed

/-- Every run of `consume` calls with a closed limiter and without counters at the start allows the
first calls of each window, never more than twice the limit in an interval of its length, and leaves
no counter that outlives its window. -/
theorem fixed_window_kept (positive : 1 ≤ rule.limit) (long : 1 ≤ rule.windowSeconds)
    (closed : settings.failOpen = false)
    (fresh : ∀ identity now, world.redis.entryAt now (rateLimitKey settings rule identity) = none)
    (run : Reaches answers condition (consumers settings rule identities world) config) :
    FixedWindowKept settings rule identities config := by
  have course : ConsumeCourse settings rule identities condition world config :=
    run.course (.initial fun tid => consume_along closed (identities tid))
  have lawful := course.lawful
  have span := RateLimitRule.windowMs_eq long
  obtain ⟨limit, bound⟩ : ∃ limit : ℕ, rule.limit = limit := ⟨rule.limit.toNat, by omega⟩
  constructor
  · intro event older suffix counted replied
    obtain ⟨reply, same, ended⟩ := answered_ends course (suffix.subset List.mem_cons_self)
    obtain rfl := Replied.unique replied same
    refine ⟨_, outcome?_eq_ok.mp ended, ?_⟩
    have position := (reply_position (consume_only _) (fresh _) (lawful.suffix suffix) replied).2
    rw [callTimes, ← position]
    exact decide_eq_true_iff
  · intro event member error replied
    obtain ⟨reply, same, ended⟩ := answered_ends course member
    obtain rfl := Replied.unique replied same
    exact ⟨_, outcome?_eq_error.mp ended⟩
  · intro identity start
    have granted := interval_grants_le (consume_only identity) (fresh identity) lawful limit start
    rw [bound]
    refine Int.ofNat_le.mpr (le_trans (List.countP_mono_left ?_) granted)
    intro event member within
    simp only [Bool.and_eq_true, decide_eq_true_iff] at within ⊢
    obtain ⟨⟨rfl, allowed⟩, early, late⟩ := within
    refine ⟨bound ▸ grants_of_allowed course member allowed, early, ?_⟩
    rw [span, Nat.mul_assoc]
    exact late
  · intro identity entry shown
    have refines := counter_refines (consume_only identity) (fresh identity) lawful
    rw [course.now_eq, refines, Option.filter_eq_some_iff] at shown
    obtain ⟨opened, current, rfl⟩ := Option.map_eq_some_iff.mp shown.1
    refine ⟨opened + rule.windowMs, rfl, ?_⟩
    obtain ⟨event, counted, rfl⟩ := List.mem_map.mp (opened?_mem current)
    obtain ⟨newer, older, split⟩ := List.append_of_mem (List.mem_filter.mp counted).1
    have reached := clock_mono lawful (split ▸ List.suffix_append newer (event :: older))
    rw [← course.now_eq] at reached
    rw [span]
    exact Nat.add_le_add_right (Nat.div_le_div_right reached) _
  · intro event older suffix counted replied waited
    obtain ⟨reply, same, ended⟩ := answered_ends course (suffix.subset List.mem_cons_self)
    obtain rfl := Replied.unique replied same
    obtain ⟨counts, position⟩ :=
      reply_position (consume_only _) (fresh _) (lawful.suffix suffix) replied
    have alone : window rule.windowMs (countedAt
        (rateLimitKey settings rule (identities event.thread)) (event :: older)) =
          [event.after.clock.milliseconds] := by
      rw [countedAt_cons, if_pos counts]
      apply window_open
      intro opened current
      rw [span] at current ⊢
      exact waited opened (opened?_mem current)
    rw [outcome?_eq_ok.mp ended]
    apply decide_eq_true
    rw [position, alone, List.length_singleton]
    exact positive

end Runs

/-- At most two calls in each second. -/
private def strictRule : RateLimitRule := ⟨"strict", 2, 1⟩

/-- The second call is counted although its reply is lost; after a second the client is free again. -/
theorem fixed_window_kept_lostReply : ∃ config : Config Tid Reply World Exn RateLimitResult,
    FixedWindowKept {} strictRule (fun _ => "client") config ∧
      isAllowed (config.threads 0) = true ∧
      (config.threads 1).outcome? =
        some (.error (.rateLimitStorageError "Rate limiter storage unavailable")) ∧
      isAllowed (config.threads 2) = false ∧ isAllowed (config.threads 3) = true := by
  have played : ((consumers {} strictRule (fun _ => "client") bootstrappedWorld).playAll World.answer
      unrestricted [(0, {}), (1, { fault := .unanswered }), (2, { delay := 500000 }),
        (3, { delay := 501000 })]).any
      (fun config => decide (isAllowed (config.threads 0) = true ∧
        (config.threads 1).outcome? =
          some (.error (.rateLimitStorageError "Rate limiter storage unavailable")) ∧
        isAllowed (config.threads 2) = false ∧ isAllowed (config.threads 3) = true)) = true := by
    decide
  obtain ⟨config, run, checked⟩ := Config.playAll_exists played
  exact ⟨config, fixed_window_kept (by decide) (by decide) rfl (fun _ _ => rfl) run,
    of_decide_eq_true checked⟩

end AuthApi
