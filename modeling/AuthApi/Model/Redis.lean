import AuthApi.Relational.Table
import Mathlib.Data.Int.Notation

/-! # The Redis keyspace

Every entry may carry a deadline in milliseconds; an entry is present up to and including its
deadline and absent afterwards. The commands are the ones the service issues: `GET`, `SETEX`,
`GETDEL` and the limiter's script, which is atomic.
-/

namespace AuthApi

open Relational

/-- What the service stores: a marker text, the JSON object holding a PKCE verifier, a counter. -/
inductive RedisValue where
  | text (content : String)
  | codeVerifier (verifier : String)
  | counter (value : ℤ)
deriving DecidableEq, Repr

structure RedisEntry where
  value : RedisValue
  deadline : Option ℕ
deriving DecidableEq, Repr

def RedisEntry.live (entry : RedisEntry) (now : ℕ) : Bool :=
  match entry.deadline with
  | none => true
  | some deadline => now ≤ deadline

abbrev Redis := List (String × RedisEntry)

namespace Redis

variable (redis : Redis) (now : ℕ) (key : String)

/-- The entry a command sees; an expired one is absent. -/
def entryAt : Option RedisEntry :=
  ((lookup Prod.fst redis key).map Prod.snd).filter fun entry => entry.live now

def get : Option RedisValue := (redis.entryAt now key).map RedisEntry.value

def put (entry : RedisEntry) : Redis := (key, entry) :: Relational.discard Prod.fst redis key

def delete : Redis := Relational.discard Prod.fst redis key

/-- `SETEX key ttl value`; Redis refuses a time to live that is not positive. -/
def setex (ttl : ℤ) (value : RedisValue) : Option Redis :=
  if 0 < ttl then some (redis.put key ⟨value, some (now + ttl.toNat * 1000)⟩) else none

def getdel : Option RedisValue × Redis := (redis.get now key, redis.delete key)

/-- `INCR key`, which keeps the deadline of a present key; a value that is no integer is an error. -/
def incr : Option (ℤ × Redis) :=
  match redis.entryAt now key with
  | none => some (1, redis.put key ⟨.counter 1, none⟩)
  | some ⟨.counter value, deadline⟩ =>
      some (value + 1, redis.put key ⟨.counter (value + 1), deadline⟩)
  | some _ => none

/-- `PEXPIRE key milliseconds`. -/
def pexpire (milliseconds : ℕ) : Redis :=
  match redis.entryAt now key with
  | none => redis
  | some entry => redis.put key { entry with deadline := some (now + milliseconds) }

/-- `PTTL key`: -2 without a key, -1 without a deadline. -/
def pttl : ℤ :=
  match redis.entryAt now key with
  | none => -2
  | some ⟨_, none⟩ => -1
  | some ⟨_, some deadline⟩ => (deadline : ℤ) - now

/-- `_INCR_WITH_TTL_SCRIPT`: the count, the remaining lifetime and the keyspace it leaves. -/
def incrWithTtl (windowMs : ℕ) : Option ((ℤ × ℤ) × Redis) :=
  (redis.incr now key).map fun (current, counted) =>
    let expiring := if current = 1 then pexpire counted now key windowMs else counted
    ((current, pttl expiring now key), expiring)

variable {redis now key} {other : String} {entry : RedisEntry}

@[simp] theorem entryAt_put_self : (redis.put key entry).entryAt now key =
    if entry.live now then some entry else none := by
  simp [entryAt, put, lookup, Option.filter]

theorem entryAt_put_of_ne (distinct : other ≠ key) :
    (redis.put key entry).entryAt now other = redis.entryAt now other := by
  have found : lookup Prod.fst ((key, entry) :: Relational.discard Prod.fst redis key) other =
      lookup Prod.fst redis other := by
    rw [← @lookup_discard_of_ne _ _ _ Prod.fst redis _ _ distinct, lookup, List.find?_cons_of_neg,
      lookup]
    simpa using Ne.symm distinct
  simp only [entryAt, put, found]

@[simp] theorem entryAt_delete_self : (redis.delete key).entryAt now key = none := by
  have gone : lookup Prod.fst (Relational.discard Prod.fst redis key) key = none := by
    simp [lookup_eq_none, Relational.discard]
  simp [entryAt, delete, gone]

theorem entryAt_delete_of_ne (distinct : other ≠ key) :
    (redis.delete key).entryAt now other = redis.entryAt now other := by
  simp only [entryAt, delete, lookup_discard_of_ne distinct]

/-- Commands on one key leave what every other key shows. -/
theorem entryAt_setex_of_ne {ttl : ℤ} {value : RedisValue} {after : Redis} {time : ℕ}
    (stored : redis.setex now key ttl value = some after) (distinct : other ≠ key) :
    after.entryAt time other = redis.entryAt time other := by
  unfold setex at stored
  split at stored
  · cases stored
    exact entryAt_put_of_ne distinct
  · cases stored

theorem entryAt_incrWithTtl_of_ne {windowMs : ℕ} {reply : ℤ × ℤ} {after : Redis} {time : ℕ}
    (counted : redis.incrWithTtl now key windowMs = some (reply, after)) (distinct : other ≠ key) :
    after.entryAt time other = redis.entryAt time other := by
  obtain ⟨⟨current, middle⟩, incremented, same⟩ := Option.map_eq_some_iff.mp counted
  have step : middle.entryAt time other = redis.entryAt time other := by
    unfold incr at incremented
    split at incremented
    · cases incremented
      exact entryAt_put_of_ne distinct
    · cases incremented
      exact entryAt_put_of_ne distinct
    · cases incremented
  cases same
  split
  · unfold pexpire
    split
    · exact step
    · rw [entryAt_put_of_ne distinct, step]
  · exact step

end Redis

end AuthApi
