import AuthApi.RateLimiting.FixedWindow
import AuthApi.Run.Histories

/-! # The counters of the limiter

A counter in Redis refines a fixed window: it holds the number of calls of the current window and
expires when the window ends. This is so in every history whose commands on the key are the
limiter's, whatever else the requests do.
-/

namespace AuthApi

open Interleaving Interleaving.Program RateLimiting

/-- The window the limiter's script is called with. -/
def RateLimitRule.windowMs (rule : RateLimitRule) : ℕ := (max 1 (rule.windowSeconds * 1000)).toNat

section Counter

variable {span now : ℕ} {key : String} {times : List ℕ} {redis : Redis}

/-- What Redis holds for the calls counted so far. -/
def windowEntry (span : ℕ) (times : List ℕ) : Option RedisEntry :=
  (opened? span times).map fun opened => ⟨.counter (window span times).length, some (opened + span)⟩

/-- The key shows the counter of these calls until it expires. -/
def Refines (span : ℕ) (key : String) (times : List ℕ) (redis : Redis) : Prop :=
  ∀ now, redis.entryAt now key = (windowEntry span times).filter fun entry => entry.live now

theorem Refines.entry_join (refines : Refines span key times redis) {opened : ℕ}
    (current : opened? span times = some opened) (inside : now ≤ opened + span) :
    redis.entryAt now key = some ⟨.counter (window span times).length, some (opened + span)⟩ := by
  rw [refines now, windowEntry, current]
  simp [RedisEntry.live, inside]

theorem Refines.entry_open (refines : Refines span key times redis)
    (outside : ∀ opened, opened? span times = some opened → opened + span < now) :
    redis.entryAt now key = none := by
  rw [refines now, windowEntry]
  cases current : opened? span times with
  | none => rfl
  | some opened =>
    have late := outside opened current
    simp [RedisEntry.live, late]

theorem refines_put {entry : RedisEntry} (same : windowEntry span times = some entry) :
    Refines span key times (redis.put key entry) := by
  intro now
  rw [Redis.entryAt_put_self, same]
  rfl

/-- One execution of the script counts one call and returns its position in the window. -/
theorem incrWithTtl_refines (refines : Refines span key times redis) (now : ℕ) :
    ∃ ttl after, redis.incrWithTtl now key span =
        some ((((window span (now :: times)).length : ℤ), ttl), after) ∧
      Refines span key (now :: times) after ∧ after ≠ redis := by
  rcases window_cases span now times with ⟨opened, current, inside⟩ | outside
  · have shown := refines.entry_join current inside
    have counted : ((window span times).length : ℤ) + 1 ≠ 1 := by
      have some : window span times ≠ [] := by
        intro empty
        simp [opened?, empty] at current
      have positive := List.length_pos_iff.mpr some
      omega
    refine ⟨(redis.put key
        ⟨.counter ((window span times).length + 1), some (opened + span)⟩).pttl now key,
      redis.put key ⟨.counter ((window span times).length + 1), some (opened + span)⟩, ?_, ?_, ?_⟩
    · simp [Redis.incrWithTtl, Redis.incr, shown, counted, window_join current inside]
    · apply refines_put
      simp [windowEntry, opened?_join current inside, window_join current inside]
    · intro same
      rw [← same, Redis.entryAt_put_self] at shown
      simp [RedisEntry.live, inside] at shown
  · have absent := refines.entry_open outside
    have stored : (redis.put key ⟨.counter 1, none⟩).entryAt now key = some ⟨.counter 1, none⟩ := by
      simp [RedisEntry.live]
    refine ⟨((redis.put key ⟨.counter 1, none⟩).put key ⟨.counter 1, some (now + span)⟩).pttl now key,
      (redis.put key ⟨.counter 1, none⟩).put key ⟨.counter 1, some (now + span)⟩, ?_, ?_, ?_⟩
    · simp [Redis.incrWithTtl, Redis.incr, Redis.pexpire, absent, stored, window_open outside]
    · apply refines_put
      simp [windowEntry, opened?_open outside, window_open outside]
    · intro same
      rw [← same, Redis.entryAt_put_self] at absent
      simp [RedisEntry.live] at absent

end Counter

section Events

/-- The call was counted under the key: the script ran, whether or not its reply arrived. -/
def counts (key : String) (event : ServiceEvent) : Bool :=
  match event.request with
  | .redisIncrWithTtl other _ => other = key && event.after.redis ≠ event.before.redis
  | _ => false

/-- The times of the calls counted under a key, newest first. -/
def countedAt (key : String) (past : List ServiceEvent) : List ℕ :=
  (past.filter (counts key)).map fun event => event.after.clock.milliseconds

/-- The reply to the call leaves its count within the limit. -/
def withinLimit (key : String) (limit : ℤ) : Exchange Reply → Bool
  | ⟨.redisIncrWithTtl other _, .ok (count, _)⟩ => other = key && count ≤ limit
  | _ => false

def grants (key : String) (limit : ℤ) (event : ServiceEvent) : Bool :=
  withinLimit key limit event.exchange

variable {condition : Condition Tid Reply World} {specs : Tid → Trace Reply → Call → Prop}
  {world : World} {key : String} {span : ℕ} {older past : List ServiceEvent} {event : ServiceEvent}

theorem countedAt_cons (event : ServiceEvent) (older : List ServiceEvent) :
    countedAt key (event :: older) = if counts key event
      then event.after.clock.milliseconds :: countedAt key older else countedAt key older := by
  simp only [countedAt, List.filter_cons]
  split <;> rfl

/-- The script fails without effect, or it runs and then its reply may still be lost. -/
theorem answers_redisIncrWithTtl {tid : Tid} {before after : World} {windowMs : ℕ}
    {reply : Except RedisError (ℤ × ℤ)}
    (answered : answers tid (.redisIncrWithTtl key windowMs) before reply after) :
    (after.redis = before.redis ∧ ∀ value, reply ≠ .ok value) ∨
      ∃ value, before.redis.incrWithTtl after.clock.milliseconds key windowMs =
          some (value, after.redis) ∧ ∀ returned, reply = .ok returned → returned = value := by
  obtain ⟨choice, answered⟩ := answered
  obtain ⟨same, failed⟩ | ⟨value, redis, counted, same, clock, returned⟩ :=
    World.redisCommand_cases (Option.some.inj answered)
  · exact .inl ⟨same, failed⟩
  · right
    refine ⟨value, ?_, returned⟩
    rw [clock, same]
    exact counted

/-- The same, for a key that refines a window. -/
theorem count_cases {tid : Tid} {before after : World} {times : List ℕ}
    {reply : Except RedisError (ℤ × ℤ)}
    (answered : answers tid (.redisIncrWithTtl key span) before reply after)
    (refines : Refines span key times before.redis) :
    (after.redis = before.redis ∧ ∀ value, reply ≠ .ok value) ∨
      after.redis ≠ before.redis ∧
        Refines span key (after.clock.milliseconds :: times) after.redis ∧
        ∀ count ttl, reply = .ok (count, ttl) →
          count = (window span (after.clock.milliseconds :: times)).length := by
  rcases answers_redisIncrWithTtl answered with lost | ⟨value, ran, returned⟩
  · exact .inl lost
  · right
    obtain ⟨ttl, redis, counted, next, differs⟩ := incrWithTtl_refines refines after.clock.milliseconds
    rw [counted] at ran
    obtain ⟨rfl, rfl⟩ := Prod.mk.inj (Option.some.inj ran)
    refine ⟨differs, next, ?_⟩
    intro count ttl same
    exact congrArg Prod.fst (returned _ same)

/-- A call is granted by a reply within the limit. -/
theorem withinLimit_iff {limit : ℤ} {exchange : Exchange Reply} :
    withinLimit key limit exchange = true ↔
      ∃ (windowMs : ℕ) (count ttl : ℤ), count ≤ limit ∧
        exchange = ⟨.redisIncrWithTtl key windowMs, .ok (count, ttl)⟩ := by
  constructor
  · intro within
    unfold withinLimit at within
    split at within
    · next other windowMs count ttl =>
      rw [Bool.and_eq_true, decide_eq_true_iff, decide_eq_true_iff] at within
      obtain ⟨rfl, bound⟩ := within
      exact ⟨windowMs, count, ttl, bound, rfl⟩
    · cases within
  · rintro ⟨windowMs, count, ttl, bound, rfl⟩
    simpa [withinLimit] using bound

theorem grants_iff {limit : ℤ} : grants key limit event = true ↔
    ∃ (windowMs : ℕ) (count ttl : ℤ), count ≤ limit ∧
      event.exchange = ⟨.redisIncrWithTtl key windowMs, .ok (count, ttl)⟩ := withinLimit_iff

/-- A span after a time is at most as many milliseconds later. -/
theorem Time.milliseconds_le_add {start time span : ℕ} (late : time < start + span * 1000) :
    Time.milliseconds time ≤ Time.milliseconds start + span := by
  simp only [Time.milliseconds]
  omega

section Shared

variable (only : ∀ tid trace call, specs tid trace call → call.redisKey? = some key →
    call = .redisIncrWithTtl key span)
  (fresh : ∀ now, world.redis.entryAt now key = none)

include only

theorem refines_step (lawful : LawfulEvent answers condition specs world older event)
    (refines : Refines span key (countedAt key older) event.before.redis) :
    Refines span key (countedAt key (event :: older)) event.after.redis := by
  by_cases touched : event.request.redisKey? = some key
  · have shape := only _ _ _ lawful.specified touched
    obtain ⟨thread, request, reply, before, after⟩ := event
    dsimp only at shape
    subst shape
    rw [countedAt_cons]
    rcases count_cases lawful.answered refines with ⟨same, _⟩ | ⟨differs, next, _⟩
    · rw [if_neg (by simpa [counts] using same)]
      intro now
      rw [same]
      exact refines now
    · rw [if_pos (by simpa [counts] using differs)]
      exact next
  · have uncounted : counts key event = false := by
      obtain ⟨thread, request, reply, before, after⟩ := event
      cases request with
      | redisIncrWithTtl other windowMs =>
        have distinct : other ≠ key := fun same => touched (congrArg some same)
        simp [counts, distinct]
      | _ => rfl
    intro now
    rw [countedAt_cons, uncounted, if_neg Bool.false_ne_true, ← refines now]
    exact (event_effect lawful).redis key touched now

include fresh

/-- In every state the key shows the counter of the calls counted so far. -/
theorem counter_refines (lawful : Lawful answers condition specs world past) :
    Refines span key (countedAt key past) (stateAfter world past).redis := by
  induction past with
  | nil => exact fresh
  | cons event older ih =>
    apply refines_step only lawful.1
    rw [lawful.1.follows]
    exact ih lawful.2

/-- A reply that arrives tells the position of the call in its window. -/
theorem reply_position (lawful : Lawful answers condition specs world (event :: older)) {count ttl : ℤ}
    {windowMs : ℕ} (replied : event.exchange = ⟨.redisIncrWithTtl key windowMs, .ok (count, ttl)⟩) :
    counts key event = true ∧ count = (window span (countedAt key (event :: older))).length := by
  have shape : event.request = .redisIncrWithTtl key span := by
    have requested : event.request = .redisIncrWithTtl key windowMs := congrArg Exchange.request replied
    apply only _ _ _ lawful.1.specified
    rw [requested]
    rfl
  have refines := counter_refines only fresh lawful.2
  rw [← lawful.1.follows] at refines
  obtain ⟨thread, request, reply, before, after⟩ := event
  dsimp only at shape
  subst shape
  obtain ⟨rfl, rfl⟩ : windowMs = span ∧ reply = .ok (count, ttl) := by
    unfold Event.exchange at replied
    cases replied
    exact ⟨rfl, rfl⟩
  rw [countedAt_cons]
  rcases count_cases lawful.1.answered refines with ⟨_, failed⟩ | ⟨differs, _, position⟩
  · exact absurd rfl (failed _)
  · have counted : counts key ⟨thread, .redisIncrWithTtl key windowMs, .ok (count, ttl), before, after⟩ =
        true := by simp [counts, differs]
    exact ⟨counted, by rw [if_pos counted]; exact position count ttl rfl⟩

omit only fresh in
theorem countedAt_sorted (lawful : Lawful answers condition specs world past) :
    (countedAt key past).Pairwise fun newer older => older ≤ newer := by
  induction past with
  | nil => exact .nil
  | cons event older ih =>
    rw [countedAt_cons]
    split
    · apply List.pairwise_cons.mpr
      refine ⟨?_, ih lawful.2⟩
      intro time member
      obtain ⟨earlier, counted, rfl⟩ := List.mem_map.mp member
      obtain ⟨newer, rest, rfl⟩ := List.append_of_mem (List.mem_filter.mp counted).1
      apply Nat.div_le_div_right
      have reached := clock_mono lawful ((List.suffix_append newer (earlier :: rest)).trans
        (List.suffix_cons event _))
      exact reached
    · exact ih lawful.2

/-- Every call whose reply was within the limit was among the first of its window. -/
theorem countP_grants_le (lawful : Lawful answers condition specs world past) (limit : ℕ) (p : ℕ → Bool) :
    (past.countP fun event => grants key limit event && p event.after.clock.milliseconds) ≤
      (granted span limit (countedAt key past)).countP p := by
  induction past with
  | nil => simp
  | cons event older ih =>
    have earlier := ih lawful.2
    rw [List.countP_cons]
    cases within : grants key limit event with
    | true =>
      obtain ⟨windowMs, count, ttl, bound, replied⟩ := grants_iff.mp within
      obtain ⟨counted, position⟩ := reply_position only fresh lawful replied
      rw [countedAt_cons, if_pos counted] at position ⊢
      have first : (window span
          (event.after.clock.milliseconds :: countedAt key older)).length ≤ limit := by omega
      rw [granted, if_pos first, List.countP_cons, Bool.true_and]
      omega
    | false =>
      rw [Bool.false_and, if_neg Bool.false_ne_true, countedAt_cons]
      split
      · rw [granted]
        split
        · rw [List.countP_cons]
          omega
        · exact earlier
      · exact earlier

/-- A window lets through no more calls than the limit. -/
theorem window_grants_le (lawful : Lawful answers condition specs world past) (limit : ℕ) {opened : ℕ}
    (current : opened? span (countedAt key past) = some opened) :
    (past.countP fun event => grants key limit event && opened ≤ event.after.clock.milliseconds) ≤
      limit := by
  have granted := countP_grants_le only fresh lawful limit fun time => opened ≤ time
  have bound : (RateLimiting.granted span limit (countedAt key past)).countP _ ≤ _ :=
    countP_granted_window current
  omega

/-- An interval of the length of a window lets through no more calls than twice the limit. -/
theorem interval_grants_le (lawful : Lawful answers condition specs world past) (limit : ℕ)
    (start : Time) :
    (past.countP fun event => grants key limit event &&
      (start ≤ event.after.clock && event.after.clock < start + span * 1000)) ≤ 2 * limit := by
  have granted := countP_grants_le only fresh lawful limit
    fun time => start.milliseconds ≤ time && time ≤ start.milliseconds + span
  have sorted : (countedAt key past).Pairwise fun newer older => older ≤ newer :=
    countedAt_sorted lawful
  have bound : (RateLimiting.granted span limit (countedAt key past)).countP _ ≤ _ :=
    countP_granted_le start.milliseconds sorted
  refine le_trans (List.countP_mono_left ?_) (granted.trans bound)
  intro event _ within
  simp only [Bool.and_eq_true, decide_eq_true_iff] at within ⊢
  obtain ⟨passed, early, late⟩ := within
  refine ⟨passed, ?_, ?_⟩
  · exact Nat.div_le_div_right early
  · exact Time.milliseconds_le_add late

end Shared

end Events

section Routes

variable {Token : Type} (app : App Token)

/-- The key of an identity under the rule of the routes. -/
def identityKey (identity : String) : String :=
  rateLimitKey app.rateLimitSettings (ipPerRouteRule app.rateLimitSettings) identity

/-- The key a request is counted under. -/
def limiterKey (request : HttpRequest) (routePath : String) : String :=
  identityKey app (getClientIp app.settings request ++ ":" ++ (request.method ++ ":" ++ routePath))

/-- While the limiter fails open, Redis answers. -/
def answersWhenOpen : Condition Tid Reply World := fun _ event =>
  app.rateLimitSettings.failOpen = true →
    ∀ key windowMs error, event.exchange ≠ ⟨.redisIncrWithTtl key windowMs, .error error⟩

/-- The script of the limiter under a key. -/
def App.limiterCall (app : App Token) (key : String) : Call :=
  .redisIncrWithTtl key (ipPerRouteRule app.rateLimitSettings).windowMs

/-- A reply that lets a request through: within the limit, or missing while the limiter fails open. -/
def App.letsThrough (app : App Token) : Except RedisError (ℤ × ℤ) → Prop
  | .ok (count, _) => count ≤ app.rateLimitSettings.ipLimit
  | .error _ => app.rateLimitSettings.failOpen = true

variable {app}

/-- An enabled limiter counts the request once and lets it go on or ends it. -/
theorem rateLimitRouteByIp_ends {spec : Trace Reply → Call → Prop} {trace : Trace Reply}
    (request : HttpRequest) (routePath : String)
    (counts : spec trace (app.limiterCall (limiterKey app request routePath))) :
    (rateLimitRouteByIp app request routePath).Along spec
      (fun later outcome =>
        (app.rateLimitSettings.enabled = false ∧ later = trace) ∨
          ∃ reply, later = ⟨app.limiterCall (limiterKey app request routePath), reply⟩ :: trace ∧
            (outcome = .ok () → app.letsThrough reply)) trace := by
  unfold rateLimitRouteByIp enforceRateLimit
  split
  · refine Along.bind (q := fun later outcome =>
        ∃ reply, later = ⟨app.limiterCall (limiterKey app request routePath), reply⟩ :: trace ∧
          ∀ result, outcome = .ok result → result.allowed = true → app.letsThrough reply)
      (Along.handle (q := fun later outcome =>
        ∃ reply, later = ⟨app.limiterCall (limiterKey app request routePath), reply⟩ :: trace ∧
          ∀ result, outcome = .ok result → result.allowed = true → app.letsThrough reply)
        ⟨counts, fun reply => ?_⟩ ?_ ?_) ?_ ?_
    · cases reply with
      | ok counted =>
        obtain ⟨count, ttl⟩ := counted
        refine ⟨.ok (count, ttl), rfl, ?_⟩
        rintro _ ⟨⟩ allowed
        have within : count ≤ app.rateLimitSettings.ipLimit := of_decide_eq_true allowed
        exact within
      | error error =>
        simp only [done_bind]
        split
        · next opens => exact ⟨.error error, rfl, fun _ _ _ => opens⟩
        · exact ⟨.error error, rfl, nofun⟩
    · rintro result later ⟨reply, rfl, allows⟩
      exact ⟨reply, rfl, allows⟩
    · rintro error later ⟨reply, rfl, _⟩
      cases error <;> exact ⟨reply, rfl, nofun⟩
    · rintro result later ⟨reply, rfl, allows⟩
      split
      · next allowed => exact .inr ⟨reply, rfl, fun _ => allows result rfl allowed⟩
      · exact .inr ⟨reply, rfl, nofun⟩
    · rintro error later ⟨reply, rfl, _⟩
      exact .inr ⟨reply, rfl, nofun⟩
  · next off => exact .inl ⟨by simpa using off, rfl⟩

end Routes

end AuthApi
