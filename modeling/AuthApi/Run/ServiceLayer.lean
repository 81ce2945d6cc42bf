import AuthApi.Interleaving.Alone
import AuthApi.Interleaving.Refinement
import AuthApi.Model.Services
import AuthApi.Run.Keyspace

/-! # The world without the counters

What the services cannot see of an HTTP request: its draws of ids and its counters. Two worlds that differ in the
counters, and in the time that has passed meanwhile, answer every call of a service alike.
-/

namespace AuthApi

open Interleaving Interleaving.Program Relational

/-- The keys of the blacklist and of the login states; the name of the rule sets the counters apart. -/
def IsServiceKey (key : String) : Prop := '_' ∉ key.toList

/-- The calls that an HTTP request makes besides those of its service. -/
def Call.IsHidden {Token : Type} (app : App Token) (call : Call) : Prop :=
  call = .uuid4 ∨ ∃ identity windowMs, call = .redisIncrWithTtl
    (rateLimitKey app.rateLimitSettings (ipPerRouteRule app.rateLimitSettings) identity) windowMs

/-- The calls a service can make. -/
def Call.IsShared : Call → Prop
  | .redisGet key => IsServiceKey key
  | .redisSetex key _ _ => IsServiceKey key
  | .redisGetdel key => IsServiceKey key
  | .redisIncrWithTtl _ _ => False
  | _ => True

/-- Two keyspaces show the same under the keys of the services. -/
def SameEntries (redis other : Redis) : Prop :=
  ∀ key, IsServiceKey key → ∀ now, redis.entryAt now key = other.entryAt now key

/-- The second world is the first one without its counters, at an earlier time. -/
structure SameStore (world image : World) : Prop where
  clock : image.clock ≤ world.clock
  db : image.db = world.db
  flushed : image.flushed = world.flushed
  defaults : image.defaults = world.defaults
  entries : SameEntries world.redis image.redis

theorem SameStore.refl (world : World) : SameStore world world :=
  ⟨le_rfl, rfl, rfl, rfl, fun _ _ _ => rfl⟩

section Entries

variable {redis other : Redis} {key : String} {entry : RedisEntry} (same : SameEntries redis other)
include same

theorem SameEntries.put : SameEntries (redis.put key entry) (other.put key entry) := by
  intro shown service now
  by_cases equal : shown = key
  · subst equal
    rw [Redis.entryAt_put_self, Redis.entryAt_put_self]
  · rw [Redis.entryAt_put_of_ne equal, Redis.entryAt_put_of_ne equal]
    exact same shown service now

theorem SameEntries.delete : SameEntries (redis.delete key) (other.delete key) := by
  intro shown service now
  by_cases equal : shown = key
  · subst equal
    rw [Redis.entryAt_delete_self, Redis.entryAt_delete_self]
  · rw [Redis.entryAt_delete_of_ne equal, Redis.entryAt_delete_of_ne equal]
    exact same shown service now

theorem SameEntries.get (service : IsServiceKey key) (now : ℕ) : redis.get now key = other.get now key := by
  rw [Redis.get, Redis.get, same key service now]

end Entries

namespace World

variable {world after : World} {tid : Tid} {choice : Choice}

/-- A command that leaves both keyspaces alike is answered alike under every fault. -/
theorem redisCommand_alike {α : Type} {other : Redis} (fault : RedisFault) {result image : Option (α × Redis)}
    (same : SameEntries world.redis other) (agrees : Agrees SameEntries result image)
    {reply : Except RedisError α} (answered : world.redisCommand fault result = (reply, after)) :
    ∃ redis, ({ world with redis := other } : World).redisCommand fault image =
        (reply, { after with redis := redis }) ∧ SameEntries after.redis redis := by
  cases result with
  | none =>
    cases image with
    | none => cases fault <;> cases answered <;> exact ⟨other, rfl, same⟩
    | some shown => exact agrees.elim
  | some found =>
    cases image with
    | none => exact agrees.elim
    | some shown =>
      obtain ⟨value, redis⟩ := found
      obtain ⟨_, redis'⟩ := shown
      obtain ⟨rfl, kept⟩ := agrees
      cases fault <;> cases answered
      · exact ⟨redis', rfl, kept⟩
      · exact ⟨other, rfl, same⟩
      · exact ⟨redis', rfl, kept⟩

/-- A call of a service does not depend on the counters. -/
theorem respond_alike {call : Call} {reply : Reply call} {other : Redis} (shared : call.IsShared)
    (same : SameEntries world.redis other) (answered : world.respond tid choice call = some (reply, after)) :
    ∃ redis', ({ world with redis := other } : World).respond tid choice call =
        some (reply, { after with redis := redis' }) ∧ SameEntries after.redis redis' := by
  cases call with
  | flush writes =>
    simp only [respond, flush] at answered ⊢
    split at answered
    · cases answered
    · next free =>
      split at answered <;> cases answered <;> exact ⟨other, if_neg free, same⟩
  | commit session writes =>
    simp only [respond, commit] at answered ⊢
    split at answered
    · cases answered
    · next free =>
      split at answered <;> cases answered <;> exact ⟨other, if_neg free, same⟩
  | selectLoginHistory userId offset limit =>
    simp only [respond] at answered ⊢
    split at answered
    · next ordered =>
      cases answered
      exact ⟨other, if_pos ordered, same⟩
    · cases answered
  | redisGet key =>
    have agrees : Agrees SameEntries (some (world.redis.get world.clock.milliseconds key, world.redis))
        (some (other.get world.clock.milliseconds key, other)) := ⟨same.get shared _, same⟩
    obtain ⟨redis, replied, kept⟩ := redisCommand_alike choice.fault same agrees (Option.some.inj answered)
    exact ⟨redis, congrArg some replied, kept⟩
  | redisSetex key ttl value =>
    have agrees : Agrees SameEntries
        ((world.redis.setex world.clock.milliseconds key ttl value).map fun redis => ((), redis))
        ((other.setex world.clock.milliseconds key ttl value).map fun redis => ((), redis)) := by
      unfold Redis.setex
      split
      · exact ⟨rfl, same.put⟩
      · exact trivial
    obtain ⟨redis, replied, kept⟩ := redisCommand_alike choice.fault same agrees (Option.some.inj answered)
    exact ⟨redis, congrArg some replied, kept⟩
  | redisGetdel key =>
    have agrees : Agrees SameEntries (some (world.redis.getdel world.clock.milliseconds key))
        (some (other.getdel world.clock.milliseconds key)) := ⟨same.get shared _, same.delete⟩
    obtain ⟨redis, replied, kept⟩ := redisCommand_alike choice.fault same agrees (Option.some.inj answered)
    exact ⟨redis, congrArg some replied, kept⟩
  | redisIncrWithTtl key windowMs => exact shared.elim
  | _ =>
    cases answered
    exact ⟨other, rfl, same⟩

end World

/-- The counters are invisible to the services, and the services work on the same store without them. -/
theorem store_simulates {Token : Type} (app : App Token) :
    Simulates (Call.IsHidden app) Call.IsShared answers answers SameStore where
  hides := by
    rintro tid request before reply after image (rfl | ⟨identity, windowMs, rfl⟩) same answered
    · have effect := answers_effect answered
      obtain ⟨choice, answered⟩ := answered
      cases answered
      exact ⟨same.clock.trans effect.clock, same.db, same.flushed, same.defaults, same.entries⟩
    · have effect := answers_effect answered
      obtain ⟨choice, answered⟩ := answered
      have flushed : after.flushed = before.flushed := by
        simp only [World.answer, World.respond, World.redisCommand, Option.some.injEq] at answered
        split at answered <;> cases answered <;> rfl
      refine ⟨same.clock.trans effect.clock, ?_, same.flushed.trans flushed.symm,
        same.defaults.trans effect.defaults.symm, fun key service now => ?_⟩
      · exact same.db.trans (Except.ok.inj effect.db)
      · rw [effect.redis key (fun named => ?_) now]
        · exact same.entries key service now
        · cases named
          exact service (underscore_mem_rateLimitKey _ _)
  shares := by
    rintro tid request before reply after image shared same ⟨choice, answered⟩
    -- the image waits until its clock shows the time at which the call is answered
    have caughtUp : ({ before.advance choice.delay with redis := image.redis } : World) =
        image.advance (before.clock + choice.delay - image.clock) := by
      have later := same.clock
      simp only [World.advance, same.db, same.flushed, same.defaults]
      congr 1
      exact (Nat.add_sub_cancel' (later.trans (Nat.le_add_right _ _))).symm
    obtain ⟨redis', replied, kept⟩ := World.respond_alike shared
      (show SameEntries (before.advance choice.delay).redis image.redis from same.entries) answered
    refine ⟨{ after with redis := redis' }, ⟨{ choice with delay := before.clock + choice.delay - image.clock }, ?_⟩,
      le_rfl, rfl, rfl, rfl, kept⟩
    rw [World.answer, ← caughtUp]
    rw [← replied]
    cases request <;> rfl

end AuthApi
