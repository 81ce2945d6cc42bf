import AuthApi.Interleaving.Trace
import AuthApi.Model.Requests

/-! # What one answered call can do

Facts about a single event, read off `World.answer` once: time passes, the tables change by the
statements of a successful commit only, a SELECT returns committed rows, and a Redis command touches
its own key.
-/

namespace AuthApi

open Interleaving Relational

/-- The statements a call committed; empty for every other answer. -/
def committedBy : (call : Call) → Reply call → List Write
  | .commit _ writes, .ok _ => writes
  | _, _ => []

/-- The key a Redis command is about. -/
def Call.redisKey? : Call → Option String
  | .redisGet key => some key
  | .redisSetex key _ _ => some key
  | .redisGetdel key => some key
  | .redisIncrWithTtl key _ => some key
  | _ => none

/-- The call neither commits nor asks Redis or the provider. -/
def Call.isSilent : Call → Bool
  | .commit _ _ => false
  | .redisGet _ => false
  | .redisSetex _ _ _ => false
  | .redisGetdel _ => false
  | .redisIncrWithTtl _ _ => false
  | .httpPost _ _ _ => false
  | .httpGet _ _ _ => false
  | _ => true

/-- All an answer changes. -/
structure Effect (tid : Tid) (before : World) (call : Call) (reply : Reply call) (after : World) :
    Prop where
  clock : before.clock ≤ after.clock
  defaults : after.defaults = before.defaults
  db : before.db.writeAll (before.defaults tid) after.clock (committedBy call reply) = .ok after.db
  redis : ∀ key, call.redisKey? ≠ some key →
    ∀ now, after.redis.entryAt now key = before.redis.entryAt now key

namespace World

variable {world after : World} {tid : Tid} {choice : Choice}

theorem flush_effect {writes : List Write} {reply : Except DbError Unit}
    (answered : world.flush tid writes = some (reply, after)) :
    after.clock = world.clock ∧ after.defaults = world.defaults ∧ after.db = world.db ∧
      after.redis = world.redis := by
  unfold flush at answered
  split at answered
  · cases answered
  · split at answered <;> cases answered <;> exact ⟨rfl, rfl, rfl, rfl⟩

theorem commit_effect {session : Session} {writes : List Write} {reply : Except DbError Unit}
    (answered : world.commit tid session writes = some (reply, after)) :
    after.clock = world.clock ∧ after.defaults = world.defaults ∧ after.redis = world.redis ∧
      world.db.writeAll (world.defaults tid) world.clock
        (committedBy (.commit session writes) reply) = .ok after.db := by
  unfold commit at answered
  split at answered
  · cases answered
  · split at answered
    · next db written =>
      cases answered
      exact ⟨rfl, rfl, rfl, written⟩
    · cases answered
      exact ⟨rfl, rfl, rfl, rfl⟩

/-- A Redis command leaves the rest of the world, and every key its own result leaves. -/
theorem redisCommand_effect {α : Type} {fault : RedisFault} {result : Option (α × Redis)}
    {reply : Except RedisError α} {k : String}
    (answered : world.redisCommand fault result = (reply, after))
    (frame : ∀ value redis, result = some (value, redis) →
      ∀ now, redis.entryAt now k = world.redis.entryAt now k) :
    after.clock = world.clock ∧ after.defaults = world.defaults ∧ after.db = world.db ∧
      ∀ now, after.redis.entryAt now k = world.redis.entryAt now k := by
  unfold redisCommand at answered
  split at answered <;> cases answered
  · exact ⟨rfl, rfl, rfl, fun _ => rfl⟩
  · exact ⟨rfl, rfl, rfl, fun _ => rfl⟩
  · exact ⟨rfl, rfl, rfl, frame _ _ rfl⟩
  · exact ⟨rfl, rfl, rfl, frame _ _ rfl⟩

/-- A Redis command fails without effect, or it takes effect and then may still fail. -/
theorem redisCommand_cases {α : Type} {fault : RedisFault} {result : Option (α × Redis)}
    {reply : Except RedisError α} (answered : world.redisCommand fault result = (reply, after)) :
    (after.redis = world.redis ∧ ∀ value, reply ≠ .ok value) ∨
      ∃ value redis, result = some (value, redis) ∧ after.redis = redis ∧
        after.clock = world.clock ∧ ∀ returned, reply = .ok returned → returned = value := by
  unfold redisCommand at answered
  split at answered <;> cases answered
  · exact .inl ⟨rfl, nofun⟩
  · exact .inl ⟨rfl, nofun⟩
  · exact .inr ⟨_, _, rfl, rfl, rfl, by rintro _ ⟨⟩; rfl⟩
  · exact .inr ⟨_, _, rfl, rfl, rfl, nofun⟩

/-- No call changes the clock or the defaults while it is answered. -/
theorem respond_clock {call : Call} {reply : Reply call}
    (answered : world.respond tid choice call = some (reply, after)) :
    after.clock = world.clock ∧ after.defaults = world.defaults := by
  cases call with
  | flush writes => exact ⟨(flush_effect answered).1, (flush_effect answered).2.1⟩
  | commit session writes => exact ⟨(commit_effect answered).1, (commit_effect answered).2.1⟩
  | selectLoginHistory userId offset limit =>
    simp only [respond] at answered
    split at answered
    · cases answered; exact ⟨rfl, rfl⟩
    · cases answered
  | redisGet key =>
    exact (fun effect => ⟨effect.1, effect.2.1⟩) (redisCommand_effect (Option.some.inj answered)
      (k := key) (by rintro _ _ ⟨⟩ _; rfl))
  | redisSetex key ttl value =>
    simp only [respond, redisCommand, Option.some.injEq] at answered
    split at answered <;> cases answered <;> exact ⟨rfl, rfl⟩
  | redisGetdel key =>
    simp only [respond, redisCommand, Option.some.injEq] at answered
    split at answered <;> cases answered <;> exact ⟨rfl, rfl⟩
  | redisIncrWithTtl key windowMs =>
    simp only [respond, redisCommand, Option.some.injEq] at answered
    split at answered <;> cases answered <;> exact ⟨rfl, rfl⟩
  | _ => cases answered; exact ⟨rfl, rfl⟩

theorem respond_db {call : Call} {reply : Reply call}
    (answered : world.respond tid choice call = some (reply, after)) :
    world.db.writeAll (world.defaults tid) world.clock (committedBy call reply) = .ok after.db := by
  cases call with
  | flush writes => rw [(flush_effect answered).2.2.1]; rfl
  | commit session writes => exact (commit_effect answered).2.2.2
  | selectLoginHistory userId offset limit =>
    simp only [respond] at answered
    split at answered
    · cases answered; rfl
    · cases answered
  | redisGet key =>
    simp only [respond, redisCommand, Option.some.injEq] at answered
    split at answered <;> cases answered <;> rfl
  | redisSetex key ttl value =>
    simp only [respond, redisCommand, Option.some.injEq] at answered
    split at answered <;> cases answered <;> rfl
  | redisGetdel key =>
    simp only [respond, redisCommand, Option.some.injEq] at answered
    split at answered <;> cases answered <;> rfl
  | redisIncrWithTtl key windowMs =>
    simp only [respond, redisCommand, Option.some.injEq] at answered
    split at answered <;> cases answered <;> rfl
  | _ => cases answered; rfl

theorem respond_redis {call : Call} {reply : Reply call} {key : String}
    (answered : world.respond tid choice call = some (reply, after))
    (untouched : call.redisKey? ≠ some key) (now : ℕ) :
    after.redis.entryAt now key = world.redis.entryAt now key := by
  cases call with
  | flush writes => rw [(flush_effect answered).2.2.2]
  | commit session writes => rw [(commit_effect answered).2.2.1]
  | selectLoginHistory userId offset limit =>
    simp only [respond] at answered
    split at answered
    · cases answered; rfl
    · cases answered
  | redisGet other =>
    exact (redisCommand_effect (Option.some.inj answered) (by rintro _ _ ⟨⟩ _; rfl)).2.2.2 now
  | redisSetex other ttl value =>
    refine (redisCommand_effect (Option.some.inj answered) ?_).2.2.2 now
    rintro _ redis stored now
    obtain ⟨stored', set, same⟩ := Option.map_eq_some_iff.mp stored
    cases same
    exact Redis.entryAt_setex_of_ne set (by rintro rfl; exact untouched rfl)
  | redisGetdel other =>
    refine (redisCommand_effect (Option.some.inj answered) ?_).2.2.2 now
    rintro _ redis deleted now
    cases deleted
    exact Redis.entryAt_delete_of_ne (by rintro rfl; exact untouched rfl)
  | redisIncrWithTtl other windowMs =>
    refine (redisCommand_effect (Option.some.inj answered) ?_).2.2.2 now
    rintro _ redis counted now
    exact Redis.entryAt_incrWithTtl_of_ne counted (by rintro rfl; exact untouched rfl)
  | _ => cases answered; rfl

end World

/-- Every answer has its effect, after some time has passed. -/
theorem answers_effect {tid : Tid} {before after : World} {call : Call} {reply : Reply call}
    (answered : answers tid call before reply after) : Effect tid before call reply after := by
  obtain ⟨choice, answered⟩ := answered
  have clock := (World.respond_clock answered).1
  refine ⟨?_, (World.respond_clock answered).2, ?_, fun key untouched now => ?_⟩
  · exact clock ▸ Nat.le_add_right _ _
  · rw [clock]
    exact World.respond_db answered
  · exact World.respond_redis answered untouched now

end AuthApi
