import AuthApi.Properties.RateLimiting
import Mathlib.Data.Rat.Floor

/-! # The `Retry-After` of a rejected request

Runs of any number of limiter checks under any rules. Waiting longer than the advertised seconds is
always enough, as long as the milliseconds fit a float. The seconds are also the least that the remaining
lifetime of the counter calls for, except in its last millisecond: a lifetime of zero is read as a
missing one, and the client is told to wait for a whole window.
-/

namespace AuthApi

open Interleaving Interleaving.Program RateLimiting

section Counter

variable {redis after : Redis} {key : String} {now later : ℕ} {windowMs : ℕ} {count ttl : ℤ}

/-- No entry the key shows stays forever. -/
def Redis.Expires (redis : Redis) (key : String) : Prop :=
  ∀ now entry, redis.entryAt now key = some entry → entry.deadline ≠ none

theorem Redis.expires_put {entry : RedisEntry} (set : entry.deadline ≠ none) :
    (redis.put key entry).Expires key := by
  intro now found shown
  rw [entryAt_put_self] at shown
  split at shown <;> cases shown
  exact set

/-- What the key shows has not expired. -/
theorem Redis.live_of_entryAt {entry : RedisEntry} (shown : redis.entryAt now key = some entry) :
    entry.live now = true := (Option.filter_eq_some_iff.mp shown).2

theorem Redis.expires_pexpire {entry : RedisEntry} (live : entry.live now = true) :
    ((redis.put key entry).pexpire now key windowMs).Expires key := by
  simp only [pexpire, entryAt_put_self, live, if_true]
  exact expires_put (Option.some_ne_none _)

/-- The script starts a deadline when it counts one, and keeps the deadline of any other count. -/
theorem incrWithTtl_cases (expires : redis.Expires key)
    (ran : redis.incrWithTtl now key windowMs = some ((count, ttl), after)) :
    (count = 1 ∧ after.Expires key) ∨
      ∃ value deadline, redis.entryAt now key = some ⟨.counter value, some deadline⟩ ∧
        now ≤ deadline ∧ ttl = (deadline : ℤ) - now ∧
        after = redis.put key ⟨.counter count, some deadline⟩ := by
  obtain ⟨⟨current, counted⟩, incremented, same⟩ := Option.map_eq_some_iff.mp ran
  cases same
  unfold Redis.incr at incremented
  split at incremented
  · cases incremented
    exact .inl ⟨rfl, Redis.expires_pexpire rfl⟩
  · next value deadline found =>
    have live := Redis.live_of_entryAt found
    cases incremented
    obtain ⟨moment, rfl⟩ := Option.ne_none_iff_exists'.mp (expires _ _ found)
    by_cases first : value + 1 = 1
    · left
      refine ⟨first, ?_⟩
      rw [if_pos first]
      exact Redis.expires_pexpire live
    · right
      rw [if_neg first]
      refine ⟨value, moment, found, of_decide_eq_true live, ?_, rfl⟩
      have shown : RedisEntry.live ⟨.counter (value + 1), some moment⟩ now = true := live
      simp [Redis.pttl, shown]
  · cases incremented

/-- The script leaves an expiring key expiring. -/
theorem incrWithTtl_expires (expires : redis.Expires key)
    (ran : redis.incrWithTtl now key windowMs = some ((count, ttl), after)) : after.Expires key := by
  rcases incrWithTtl_cases expires ran with ⟨_, kept⟩ | ⟨_, _, _, _, _, rfl⟩
  · exact kept
  · exact Redis.expires_put (Option.some_ne_none _)

/-- A key that shows nothing is counted as one. -/
theorem incrWithTtl_fresh (absent : redis.entryAt now key = none)
    (ran : redis.incrWithTtl now key windowMs = some ((count, ttl), after)) : count = 1 := by
  simp only [Redis.incrWithTtl, Redis.incr, absent, Option.map_some, Option.some.injEq,
    Prod.mk.injEq] at ran
  exact ran.1.1.symm

end Counter

section Events

variable {condition : Condition Tid Reply World} {specs : Tid → Trace Reply → Call → Prop}
  {world : World} {key : String} {older between past : List ServiceEvent} {event : ServiceEvent}

/-- The remaining lifetime of the counter that a check finds, in milliseconds. -/
def lifetimeMs (key : String) (event : ServiceEvent) : ℤ :=
  event.before.redis.pttl event.after.clock.milliseconds key

/-- What a key shows is left alone by the commands on other keys. -/
theorem entryAt_between (lawful : Lawful answers condition specs world (between ++ event :: older))
    (apart : ∀ other ∈ between, other.request.redisKey? ≠ some key) (now : ℕ) :
    (stateAfter world (between ++ event :: older)).redis.entryAt now key =
      event.after.redis.entryAt now key := by
  induction between with
  | nil => rfl
  | cons newest between ih =>
    obtain ⟨elsewhere, apart⟩ := List.forall_mem_cons.mp apart
    have follows : newest.before = stateAfter world (between ++ event :: older) := lawful.1.follows
    rw [← ih lawful.2 apart, ← follows]
    exact (event_effect lawful.1).redis key elsewhere now

/-- A key that only the script touches keeps expiring. -/
theorem expires_history
    (only : ∀ tid trace call, specs tid trace call → call.redisKey? = some key →
      ∃ windowMs, call = .redisIncrWithTtl key windowMs)
    (initially : world.redis.Expires key) (lawful : Lawful answers condition specs world past) :
    (stateAfter world past).redis.Expires key := by
  induction past with
  | nil => exact initially
  | cons event older ih =>
    have before := ih lawful.2
    rw [← lawful.1.follows] at before
    change event.after.redis.Expires key
    by_cases touched : event.request.redisKey? = some key
    · obtain ⟨windowMs, shape⟩ := only _ _ _ lawful.1.specified touched
      obtain ⟨thread, request, reply, first, last⟩ := event
      dsimp only at shape
      subst shape
      rcases answers_redisIncrWithTtl lawful.1.answered with ⟨same, _⟩ | ⟨⟨count, ttl⟩, ran, _⟩
      · exact same ▸ before
      · exact incrWithTtl_expires before ran
    · intro now entry shown
      rw [(event_effect lawful.1).redis key touched now] at shown
      exact before now entry shown

end Events

/-- A limiter check for each number, under a rule and for an identity of its own. -/
def checks (settings : RateLimitSettings) (rules : Tid → RateLimitRule) (identities : Tid → String)
    (world : World) : Config Tid Reply World Exn Unit :=
  .start world fun tid => enforceRateLimit settings (rules tid) (identities tid)

/-- The check has ended with a 429 that advertises so many seconds. -/
def ToldToWait (config : Config Tid Reply World Exn Unit) (tid : Tid) (retryAfter : ℕ) : Prop :=
  (config.threads tid).outcome? = some (.error
    (.httpException ⟨429, "Too many requests", [("Retry-After", toString retryAfter)]⟩))

instance (config : Config Tid Reply World Exn Unit) (tid : Tid) (retryAfter : ℕ) :
    Decidable (ToldToWait config tid retryAfter) := inferInstanceAs (Decidable (_ = _))

section Checks

variable (settings : RateLimitSettings) (rules : Tid → RateLimitRule) (identities : Tid → String)

/-- The key a check counts under. -/
def checkKey (tid : Tid) : String := rateLimitKey settings (rules tid) (identities tid)

/-- The next check of a client that waited longer, on the clock of Redis and with no other request
on its key in between, lets it through if Redis answers. -/
def WaitSuffices (config : Config Tid Reply World Exn Unit) (event : ServiceEvent)
    (older : List ServiceEvent) (retryAfter : ℕ) : Prop :=
  ∀ next between, next :: (between ++ event :: older) <:+ config.past →
    checkKey settings rules identities next.thread = checkKey settings rules identities event.thread →
    (∀ other ∈ between, checkKey settings rules identities other.thread ≠
      checkKey settings rules identities event.thread) →
    event.after.clock.milliseconds + retryAfter * 1000 < next.after.clock.milliseconds →
    (∀ key windowMs error, next.exchange ≠ ⟨.redisIncrWithTtl key windowMs, .error error⟩) →
    (config.threads next.thread).outcome? = some (.ok ())

/-- No more seconds than the remaining lifetime of the counter calls for, one at least. -/
def WaitTight (event : ServiceEvent) (retryAfter : ℕ) : Prop :=
  (retryAfter : ℤ) ≤ max 1
    ⌈(lifetimeMs (checkKey settings rules identities event.thread) event : ℚ) / 1000⌉

variable {settings rules identities}

/-- What an enabled check makes of the reply to its script. -/
def RateLimitRule.enforced (settings : RateLimitSettings) (rule : RateLimitRule) :
    Except RedisError (ℤ × ℤ) → Except Exn Unit
  | .ok (currentCount, ttlMs) =>
      if (rule.verdict currentCount ttlMs).allowed then .ok ()
      else .error (.httpException
        (rateLimitHttpException (rule.verdict currentCount ttlMs).retryAfterSeconds))
  | .error _ =>
      if settings.failOpen then .ok ()
      else .error (.httpException ⟨503, "Rate limiter is temporarily unavailable", []⟩)

theorem enforceRateLimit_along (settings : RateLimitSettings) (rule : RateLimitRule)
    (identity : String) :
    (enforceRateLimit settings rule identity).Along
      (fun trace call => trace = [] ∧ call = consumeCall settings rule identity)
      (fun trace outcome => trace = [] ∨ ∃ reply,
        trace = [⟨consumeCall settings rule identity, reply⟩] ∧
          outcome = rule.enforced settings reply) [] := by
  unfold enforceRateLimit
  split
  · refine ⟨⟨rfl, rfl⟩, fun reply => ?_⟩
    cases reply with
    | ok counted =>
      obtain ⟨currentCount, ttlMs⟩ := counted
      simp only [done_bind, pure_eq, done_handle, throw_eq]
      split
      · next allowed =>
        exact .inr ⟨.ok (currentCount, ttlMs), rfl, by simp [RateLimitRule.enforced, allowed]⟩
      · next refused =>
        exact .inr ⟨.ok (currentCount, ttlMs), rfl, by simp [RateLimitRule.enforced, refused]⟩
    | error error =>
      simp only [done_bind, pure_eq, throw_eq]
      split
      · next opens => exact .inr ⟨.error error, rfl, by simp [RateLimitRule.enforced, opens]⟩
      · next closed => exact .inr ⟨.error error, rfl, by simp [RateLimitRule.enforced, closed]⟩
  · exact .inl rfl

/-- The header of a rejection is the clamped number of seconds. -/
theorem enforced_toldToWait {rule : RateLimitRule} {reply : Except RedisError (ℤ × ℤ)}
    {retryAfter : ℕ}
    (rejected : rule.enforced settings reply = .error
      (.httpException ⟨429, "Too many requests", [("Retry-After", toString retryAfter)]⟩)) :
    ∃ currentCount ttlMs, reply = .ok (currentCount, ttlMs) ∧ rule.limit < currentCount ∧
      (retryAfter : ℤ) =
        max 1 (if 0 < ttlMs then (ceilQuotient ttlMs.toNat 1000 : ℤ) else rule.windowSeconds) := by
  unfold RateLimitRule.enforced at rejected
  split at rejected
  · next currentCount ttlMs =>
    split at rejected
    · cases rejected
    · next refused =>
      refine ⟨currentCount, ttlMs, rfl, by simpa [RateLimitRule.verdict] using refused, ?_⟩
      obtain ⟨seconds, positive⟩ := Int.eq_ofNat_of_zero_le
        (show 0 ≤ max 1 (rule.verdict currentCount ttlMs).retryAfterSeconds by omega)
      simp only [rateLimitHttpException, positive, Except.error.injEq, Exn.httpException.injEq,
        HttpException.mk.injEq, List.cons.injEq, Prod.mk.injEq, true_and, and_true] at rejected
      have digits : Nat.toDigits 10 seconds = Nat.toDigits 10 retryAfter := String.ofList_injective rejected
      have same : seconds = retryAfter := by
        rw [← Nat.ofDigitChars_ten_toDigits (n := seconds), digits, Nat.ofDigitChars_ten_toDigits]
      rw [← same, ← positive]
      rfl
  · split at rejected <;> cases rejected

end Checks

section Runs

variable {settings : RateLimitSettings} {rules : Tid → RateLimitRule} {identities : Tid → String}
  {condition : Condition Tid Reply World} {world : World} {config : Config Tid Reply World Exn Unit}

/-- The specification of a pool of checks. -/
private abbrev CheckCourse (settings : RateLimitSettings) (rules : Tid → RateLimitRule)
    (identities : Tid → String) (condition : Condition Tid Reply World) (world : World)
    (config : Config Tid Reply World Exn Unit) : Prop :=
  Course answers condition
    (fun tid trace call => trace = [] ∧ call = consumeCall settings (rules tid) (identities tid))
    (fun tid trace outcome => trace = [] ∨
      ∃ reply, trace = [⟨consumeCall settings (rules tid) (identities tid), reply⟩] ∧
        outcome = (rules tid).enforced settings reply) world config

private theorem checks_course
    (run : Reaches answers condition (checks settings rules identities world) config) :
    CheckCourse settings rules identities condition world config :=
  run.course (.initial fun tid => enforceRateLimit_along settings (rules tid) (identities tid))

/-- What a rejected check found and left under its key. -/
structure RejectedAt (settings : RateLimitSettings) (rules : Tid → RateLimitRule)
    (identities : Tid → String) (event : ServiceEvent) (retryAfter deadline : ℕ) : Prop where
  live : event.after.clock.milliseconds ≤ deadline
  lifetime : lifetimeMs (checkKey settings rules identities event.thread) event =
    (deadline : ℤ) - event.after.clock.milliseconds
  left : ∀ now, deadline < now → event.after.redis.entryAt now
    (checkKey settings rules identities event.thread) = none
  advertised : (retryAfter : ℤ) =
    max 1 (if event.after.clock.milliseconds < deadline
      then (ceilQuotient (deadline - event.after.clock.milliseconds) 1000 : ℤ)
      else (rules event.thread).windowSeconds)

/-- The check of an event has made its one call and ended with what it makes of the reply. -/
private theorem check_ends (course : CheckCourse settings rules identities condition world config)
    {event : ServiceEvent} (member : event ∈ config.past) :
    ∃ reply, event.exchange = ⟨consumeCall settings (rules event.thread) (identities event.thread), reply⟩ ∧
      (config.threads event.thread).outcome? = some ((rules event.thread).enforced settings reply) := by
  obtain ⟨reply, _, replied, ended, rfl⟩ := course.single member
  exact ⟨reply, replied, ended⟩

/-- Every key of a check keeps expiring. -/
private theorem checks_expire (course : CheckCourse settings rules identities condition world config)
    (expires : ∀ tid, world.redis.Expires (checkKey settings rules identities tid)) (tid : Tid)
    {older : List ServiceEvent} (suffix : older <:+ config.past) :
    (stateAfter world older).redis.Expires (checkKey settings rules identities tid) := by
  apply expires_history ?_ (expires tid) (course.lawful.suffix suffix)
  intro other trace call issued touches
  obtain ⟨_, rfl⟩ := issued
  have same : checkKey settings rules identities other = checkKey settings rules identities tid :=
    Option.some.inj touches
  exact ⟨_, by rw [← same]; rfl⟩

/-- An answered check has run the script in the state before it. -/
private theorem script_ran (course : CheckCourse settings rules identities condition world config)
    {event : ServiceEvent} {older : List ServiceEvent} (suffix : event :: older <:+ config.past)
    {counted : ℤ × ℤ}
    (replied : event.exchange =
      ⟨consumeCall settings (rules event.thread) (identities event.thread), .ok counted⟩) :
    ∃ windowMs, event.before.redis.incrWithTtl event.after.clock.milliseconds
      (checkKey settings rules identities event.thread) windowMs = some (counted, event.after.redis) := by
  have lawful := (course.lawful.suffix suffix).1
  obtain ⟨thread, request, reply, before, after⟩ := event
  obtain rfl : request = consumeCall settings (rules thread) (identities thread) :=
    congrArg Exchange.request replied
  cases replied
  rcases answers_redisIncrWithTtl lawful.answered with ⟨_, failed⟩ | ⟨value, ran, returned⟩
  · exact absurd rfl (failed counted)
  · rw [returned counted rfl]
    exact ⟨_, ran⟩

theorem rejected_at (limits : ∀ tid, 1 ≤ (rules tid).limit)
    (expires : ∀ tid, world.redis.Expires (checkKey settings rules identities tid))
    (run : Reaches answers condition (checks settings rules identities world) config)
    {event : ServiceEvent} {older : List ServiceEvent} (suffix : event :: older <:+ config.past)
    {retryAfter : ℕ} (rejected : ToldToWait config event.thread retryAfter) :
    ∃ deadline, RejectedAt settings rules identities event retryAfter deadline := by
  have course := checks_course run
  obtain ⟨reply, replied, ended⟩ := check_ends course (suffix.subset List.mem_cons_self)
  obtain ⟨count, ttl, rfl, beyond, advertised⟩ :=
    enforced_toldToWait (Option.some.inj (ended.symm.trans rejected))
  obtain ⟨windowMs, ran⟩ := script_ran course suffix replied
  have before := checks_expire course expires event.thread ((List.suffix_cons _ _).trans suffix)
  rw [← (course.lawful.suffix suffix).1.follows] at before
  have limit := limits event.thread
  rcases incrWithTtl_cases before ran with ⟨first, _⟩ | ⟨value, deadline, found, live, rfl, kept⟩
  · omega
  · refine ⟨deadline, live, ?_, ?_, ?_⟩
    · simp only [lifetimeMs, Redis.pttl, found]
    · intro now late
      rw [kept, Redis.entryAt_put_self]
      simp [RedisEntry.live, late]
    · have remaining : ((deadline : ℤ) - event.after.clock.milliseconds).toNat =
        deadline - event.after.clock.milliseconds := by omega
      rw [advertised, remaining]
      congr 1
      split <;> split <;> first | rfl | omega

/-- The rounding of the float quotient does not show in its ceiling. -/
def CeilsExactly (ttlMs : ℤ) : Prop := ceilQuotient ttlMs.toNat 1000 = (ttlMs.toNat + 999) / 1000

/-- For half a million years it does not. -/
private theorem ceilsExactly_of_lt {ttlMs : ℤ} (short : ttlMs < 2 ^ 44 * 1000) : CeilsExactly ttlMs :=
  ceilQuotient_eq (k := 44) (by decide) (by decide) (by omega) (by decide)

/-- Of a counter whose seconds to live are less than `2 ^ 44`, or are rounded up exactly, the advertised
seconds are enough and no more than its lifetime calls for exactly when that is not zero or the window is
one second long. -/
theorem retry_after_exact (limits : ∀ tid, 1 ≤ (rules tid).limit)
    (windows : ∀ tid, 1 ≤ (rules tid).windowSeconds)
    (expires : ∀ tid, world.redis.Expires (checkKey settings rules identities tid))
    (run : Reaches answers condition (checks settings rules identities world) config)
    {event : ServiceEvent} {older : List ServiceEvent} (suffix : event :: older <:+ config.past)
    {retryAfter : ℕ} (rejected : ToldToWait config event.thread retryAfter) :
    lifetimeMs (checkKey settings rules identities event.thread) event < 2 ^ 44 * 1000 ∨
        CeilsExactly (lifetimeMs (checkKey settings rules identities event.thread) event) →
      (WaitSuffices settings rules identities config event older retryAfter ∧
          WaitTight settings rules identities event retryAfter ↔
        lifetimeMs (checkKey settings rules identities event.thread) event ≠ 0 ∨
          (rules event.thread).windowSeconds = 1) := by
  intro exact_ceiling
  have ceils := exact_ceiling.elim ceilsExactly_of_lt id
  obtain ⟨deadline, at_rejection⟩ := rejected_at limits expires run suffix rejected
  have live := at_rejection.live
  have window := windows event.thread
  have advertised := at_rejection.advertised
  have lifetime := at_rejection.lifetime
  rw [lifetime, CeilsExactly] at ceils
  have remaining : ((deadline : ℤ) - event.after.clock.milliseconds).toNat =
      deadline - event.after.clock.milliseconds := by omega
  rw [remaining] at ceils
  rw [ceils] at advertised
  have enough : deadline ≤ event.after.clock.milliseconds + retryAfter * 1000 := by
    split at advertised <;> omega
  have suffices_wait : WaitSuffices settings rules identities config event older retryAfter := by
    intro next between later same apart waited answered
    have course := checks_course run
    obtain ⟨reply, replied, ended⟩ := check_ends course (later.subset List.mem_cons_self)
    cases reply with
    | error error => exact absurd replied (answered _ _ _)
    | ok counted =>
      obtain ⟨windowMs, ran⟩ := script_ran course later replied
      have lawful := course.lawful.suffix later
      have elsewhere : ∀ other ∈ between, other.request.redisKey? ≠
          some (checkKey settings rules identities event.thread) := by
        intro other member touches
        obtain ⟨newer, rest, split⟩ := List.append_of_mem member
        obtain ⟨reply, replied, _⟩ := check_ends course
          (later.subset (List.mem_cons_of_mem _ (List.mem_append_left _ member)))
        have request : other.request = consumeCall settings (rules other.thread)
          (identities other.thread) := congrArg Exchange.request replied
        rw [request] at touches
        exact apart other member (Option.some.inj touches)
      have shown := entryAt_between lawful.2 elsewhere next.after.clock.milliseconds
      have follows : next.before = stateAfter world (between ++ event :: older) := lawful.1.follows
      rw [← follows, at_rejection.left _ (by omega), ← same] at shown
      have first := incrWithTtl_fresh shown ran
      have limit := limits next.thread
      have allowed : counted.1 ≤ (rules next.thread).limit := by omega
      rw [ended]
      simp [RateLimitRule.enforced, RateLimitRule.verdict, allowed]
  have ceiling : ⌈(lifetimeMs (checkKey settings rules identities event.thread) event : ℚ) / 1000⌉ =
      ((deadline : ℤ) - event.after.clock.milliseconds + 999) / 1000 := by
    have divided := Rat.ceil_intCast_div_natCast ((deadline : ℤ) - event.after.clock.milliseconds) 1000
    rw [lifetime]
    push_cast at divided ⊢
    omega
  rw [and_iff_right suffices_wait, WaitTight, ceiling, lifetime]
  split at advertised <;> omega

end Runs

/-- One request a minute. -/
private def minuteRule : RateLimitRule := ⟨"minute", 1, 60⟩

/-- Three checks of one client. -/
private def threeChecks : Config Tid Reply World Exn Unit :=
  checks {} (fun _ => minuteRule) (fun _ => "client") bootstrappedWorld

/-- The newest check was told to wait, and its counter had so long to live. -/
private def toldAt (retryAfter : ℕ) (lifetime : ℤ) (config : Config Tid Reply World Exn Unit) : Bool :=
  match config.past with
  | [] => false
  | event :: _ => ToldToWait config event.thread retryAfter &&
      lifetimeMs (checkKey {} (fun _ => minuteRule) (fun _ => "client") event.thread) event = lifetime

private theorem toldAt_event {retryAfter : ℕ} {lifetime : ℤ}
    {config : Config Tid Reply World Exn Unit} (told : toldAt retryAfter lifetime config = true) :
    ∃ event older, config.past = event :: older ∧ ToldToWait config event.thread retryAfter ∧
      lifetimeMs (checkKey {} (fun _ => minuteRule) (fun _ => "client") event.thread) event =
        lifetime := by
  unfold toldAt at told
  split at told
  · cases told
  · next event older shape =>
    rw [Bool.and_eq_true, decide_eq_true_iff, decide_eq_true_iff] at told
    exact ⟨event, older, shape, told.1, told.2⟩

/-- A check 58.5 seconds before the end of the window is told to wait 59 seconds. -/
theorem retry_after_exact_rejected : ∃ config : Config Tid Reply World Exn Unit,
    ∃ event older, config.past = event :: older ∧ ToldToWait config event.thread 59 ∧
      WaitSuffices {} (fun _ => minuteRule) (fun _ => "client") config event older 59 ∧
      WaitTight {} (fun _ => minuteRule) (fun _ => "client") event 59 := by
  have played : (threeChecks.playAll World.answer unrestricted
      [(0, {}), (1, { delay := 1500000 })]).any (toldAt 59 58500) = true := by decide
  obtain ⟨config, run, told⟩ := Config.playAll_exists played
  obtain ⟨event, older, shape, rejected, lifetime⟩ := toldAt_event told
  refine ⟨config, event, older, shape, rejected, ?_⟩
  apply (retry_after_exact (fun _ => by decide) (fun _ => by decide) (fun _ _ _ shown => by cases shown)
    run (shape ▸ List.suffix_refl _) rejected (.inl (by rw [lifetime]; decide))).mpr
  left
  rw [lifetime]
  decide

/-- At the deadline of the counter a client is told to wait a minute more. -/
theorem retry_after_lastMillisecond : ∃ config : Config Tid Reply World Exn Unit,
    Reaches answers unrestricted (checks {} (fun _ => minuteRule) (fun _ => "client") bootstrappedWorld)
      config ∧
    ∃ event older, config.past = event :: older ∧ ToldToWait config event.thread 60 ∧
      ¬ WaitTight {} (fun _ => minuteRule) (fun _ => "client") event 60 := by
  have played : (threeChecks.playAll World.answer unrestricted
      [(0, {}), (1, { delay := 60000000 })]).any (toldAt 60 0) = true := by decide
  obtain ⟨config, run, told⟩ := Config.playAll_exists played
  obtain ⟨event, older, shape, rejected, lifetime⟩ := toldAt_event told
  refine ⟨config, run, event, older, shape, rejected, ?_⟩
  simp [WaitTight, lifetime]

end AuthApi
