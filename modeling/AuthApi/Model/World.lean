import AuthApi.Interleaving.Pool
import AuthApi.Model.Schema
import AuthApi.Model.Redis
import Mathlib.Data.Rat.Defs

/-! # The world the service runs in

A request handler touches the outside only through the calls listed here: clocks and random draws,
statements of its SQLAlchemy session, Redis commands, and the two HTTP requests to the provider.
`World.answer` says how each call is answered; whatever the environment chooses (the passing of
time, the draws, Redis failures, the provider's replies, the order of tied rows) is read from a
`Choice`. Sessions run under READ COMMITTED. Rows flushed but not committed are invisible to
others, yet they hold their unique keys, so a competing statement waits: it is not answered.
-/

namespace AuthApi

open Interleaving

/-- The number of a request; every request has its own database session. -/
abbrev Tid := ℕ

/-- JSON values as Python's decoder returns them. -/
inductive Json where
  | null
  | bool (value : Bool)
  | int (value : ℤ)
  | float (value : ℚ)
  | str (value : String)
  | arr (items : List Json)
  | obj (fields : List (String × Json))

/-- What `response.json()` raises instead of returning: `json.JSONDecodeError`,
`UnicodeDecodeError`, the `ValueError` of an integer literal beyond the digit limit, or the
`RecursionError` of a deeply nested text. -/
inductive JsonError where
  | decode
  | unicode
  | digitLimit
  | recursion
deriving DecidableEq, Repr

/-- The outcome of an HTTP request to the provider, `httpx.RequestError` included. -/
inductive ProviderReply where
  | requestError
  | response (status : ℕ) (json : Except JsonError Json)

/-- A failing Redis command may or may not have been executed before the failure. -/
inductive RedisFault where
  | none
  | lost
  | unanswered
deriving DecidableEq, Repr

/-- `redis.RedisError`: the server was not reached, or it refused the command. -/
inductive RedisError where
  | unavailable
  | refused
deriving DecidableEq, Repr

/-- The relationship attribute `User.role` of an instance: never loaded, or the loaded row. -/
inductive RoleAttribute where
  | noValue
  | loaded (role : Option Role)
deriving DecidableEq, Repr

/-- An ORM instance of `User`. -/
structure UserObject extends User where
  role : RoleAttribute
deriving DecidableEq, Repr

/-- The form of the token exchange request. -/
structure YandexIdTokenRequestData where
  grantType : String := "authorization_code"
  code : String
  codeVerifier : String
  deviceId : Option UUID4 := none
  deviceName : Option String := none
deriving DecidableEq, Repr

/-- `get_or_create_default_role` opens a session of its own inside a request. -/
inductive Session where
  | request
  | defaultRole
deriving DecidableEq, Repr

/-- `flush` and `commit` carry every statement of the transaction so far. -/
inductive Call where
  | now
  | uuid4
  | tokenUrlsafe (bytes : ℕ)
  | salt
  | getUser (id : UUID4)
  | selectUserByEmail (email : String) (withRole : Bool)
  | selectUserById (id : UUID4) (loadRole : Bool)
  | selectLinkedUser (provider providerUserId : String)
  | refreshUser (id : UUID4) (withRole : Bool)
  | getRole (id : UUID4)
  | selectRoleByTitle (title : String)
  | selectRoles
  | selectLoginHistory (userId : UUID4) (offset limit : ℕ)
  | flush (writes : List Write)
  | commit (session : Session) (writes : List Write)
  | rollback
  | close
  | redisGet (key : String)
  | redisSetex (key : String) (ttl : ℤ) (value : RedisValue)
  | redisGetdel (key : String)
  | redisIncrWithTtl (key : String) (windowMs : ℕ)
  | httpPost (url : String) (data : YandexIdTokenRequestData) (authorization : String)
  | httpGet (url : String) (params : List (String × String)) (authorization : String)
deriving DecidableEq, Repr

/-- The type of the answer to each call. -/
@[reducible] def Reply : Call → Type
  | .now => Time
  | .uuid4 => UUID4
  | .tokenUrlsafe _ => String
  | .salt => String
  | .getUser _ => Option UserObject
  | .selectUserByEmail _ _ => Option UserObject
  | .selectUserById _ _ => Option UserObject
  | .selectLinkedUser _ _ => Option UserObject
  | .refreshUser _ _ => Option UserObject
  | .getRole _ => Option Role
  | .selectRoleByTitle _ => Option Role
  | .selectRoles => List Role
  | .selectLoginHistory _ _ _ => List LoginHistory
  | .flush _ => Except DbError Unit
  | .commit _ _ => Except DbError Unit
  | .rollback => Unit
  | .close => Unit
  | .redisGet _ => Except RedisError (Option RedisValue)
  | .redisSetex _ _ _ => Except RedisError Unit
  | .redisGetdel _ => Except RedisError (Option RedisValue)
  | .redisIncrWithTtl _ _ => Except RedisError (ℤ × ℤ)
  | .httpPost _ _ _ => ProviderReply
  | .httpGet _ _ _ => ProviderReply

/-- What the environment decides about one call. -/
structure Choice where
  delay : Time := 0
  uuid : UUID4 := ⟨⟨0x40008000000000000000⟩, by decide⟩
  text : String := ""
  fault : RedisFault := .none
  reply : ProviderReply := .requestError
  rows : List LoginHistory := []

/-- `int(datetime.now(UTC).timestamp())` at a time. -/
def Time.seconds (time : Time) : ℕ := time / 1000000

/-- The Redis clock at a time. -/
def Time.milliseconds (time : Time) : ℕ := time / 1000

/-- `flushed` lists the statements of every open transaction, tagged by its request; `defaults`
gives the import-time column defaults of the worker that serves a request. -/
structure World where
  clock : Time
  db : Database
  flushed : List (Tid × Write)
  redis : Redis
  defaults : Tid → ModelDefaults

/-- The statement has to wait for the transaction that inserted the other row: the two compete for
a unique key, or it deletes the role the row refers to. -/
def Write.waitsFor : Write → Write → Bool
  | .insertUser user, .insertUser row => user.id = row.id || user.email = row.email
  | .updateUser _ patch, .insertUser row => patch.email = some row.email
  | .deleteRole id, .insertUser row => row.roleId = some id
  | _, _ => false

namespace World

variable (world : World) (tid : Tid)

/-- Some statement competes with an open transaction of another request. -/
def blocked (writes : List Write) : Bool :=
  world.flushed.any fun (owner, row) => owner ≠ tid && writes.any fun write => write.waitsFor row

/-- The open statements of the other requests. -/
def others : List (Tid × Write) := world.flushed.filter fun entry => entry.1 ≠ tid

/-- The transaction of a request ends without effect. -/
def rollback : World := { world with flushed := world.others tid }

def flush (writes : List Write) : Option (Except DbError Unit × World) :=
  if world.blocked tid writes then none
  else match world.db.writeAll (world.defaults tid) world.clock writes with
    | .ok _ => some (.ok (),
        { world with flushed := world.others tid ++ writes.map fun write => (tid, write) })
    | .error error => some (.error error, world.rollback tid)

/-- The open statements left when a session of a request ends its transaction. -/
def ended : Session → List (Tid × Write)
  | .request => world.others tid
  | .defaultRole => world.flushed

def commit (session : Session) (writes : List Write) : Option (Except DbError Unit × World) :=
  if world.blocked tid writes then none
  else match world.db.writeAll (world.defaults tid) world.clock writes with
    | .ok db => some (.ok (), { world with db, flushed := world.ended tid session })
    | .error error => some (.error error, { world with flushed := world.ended tid session })

/-- The instance a SELECT makes of a row, with the role eagerly joined or not loaded. -/
def userObject (withRole : Bool) (user : User) : UserObject :=
  { user with role := if withRole then .loaded (world.db.roleOf user) else .noValue }

/-- A Redis command under a fault: it may be lost before or after it took effect. -/
def redisCommand {α : Type} (fault : RedisFault) (result : Option (α × Redis)) :
    Except RedisError α × World :=
  match fault, result with
  | .lost, _ => (.error .unavailable, world)
  | _, none => (.error .refused, world)
  | .none, some (value, redis) => (.ok value, { world with redis })
  | .unanswered, some (_, redis) => (.error .unavailable, { world with redis })

/-- The rows of one user from newest to oldest, tied rows in any order. -/
def HistoryOrder (userId : UUID4) (rows : List LoginHistory) : Prop :=
  rows.Perm (world.db.loginHistory.filter fun entry => entry.userId = userId) ∧
    rows.Pairwise fun newer older => older.loggedInAt ≤ newer.loggedInAt

instance (userId : UUID4) (rows : List LoginHistory) :
    Decidable (world.HistoryOrder userId rows) :=
  inferInstanceAs (Decidable (_ ∧ _))

/-- The answer to a call in a world whose clock has been advanced to the moment of answering. -/
def respond (choice : Choice) : (call : Call) → Option (Reply call × World)
  | .now => some (world.clock, world)
  | .uuid4 => some (choice.uuid, world)
  | .tokenUrlsafe _ => some (choice.text, world)
  | .salt => some (choice.text, world)
  | .getUser id => some ((world.db.user? id).map (world.userObject false), world)
  | .selectUserByEmail email withRole =>
      some ((world.db.userByEmail? email).map (world.userObject withRole), world)
  | .selectUserById id loadRole => some ((world.db.user? id).map (world.userObject loadRole), world)
  | .selectLinkedUser provider providerUserId =>
      some ((world.db.linkedUser? provider providerUserId).map (world.userObject true), world)
  | .refreshUser id withRole => some ((world.db.user? id).map (world.userObject withRole), world)
  | .getRole id => some (world.db.role? id, world)
  | .selectRoleByTitle title => some (world.db.roleByTitle? title, world)
  | .selectRoles => some (world.db.roles, world)
  | .selectLoginHistory userId offset limit =>
      if world.HistoryOrder userId choice.rows then
        some ((choice.rows.drop offset).take limit, world)
      else none
  | .flush writes => world.flush tid writes
  | .commit session writes => world.commit tid session writes
  | .rollback => some ((), world.rollback tid)
  | .close => some ((), world.rollback tid)
  | .redisGet key =>
      some (world.redisCommand choice.fault
        (some (world.redis.get world.clock.milliseconds key, world.redis)))
  | .redisSetex key ttl value =>
      some (world.redisCommand choice.fault
        ((world.redis.setex world.clock.milliseconds key ttl value).map fun redis => ((), redis)))
  | .redisGetdel key =>
      some (world.redisCommand choice.fault (some (world.redis.getdel world.clock.milliseconds key)))
  | .redisIncrWithTtl key windowMs =>
      some (world.redisCommand choice.fault
        (world.redis.incrWithTtl world.clock.milliseconds key windowMs))
  | .httpPost _ _ _ => some (choice.reply, world)
  | .httpGet _ _ _ => some (choice.reply, world)

def advance (delay : Time) : World := { world with clock := world.clock + delay }

/-- Any time may pass before a call is answered; `none` means that it is still waiting. -/
def answer (tid : Tid) (choice : Choice) (call : Call) (world : World) :
    Option (Reply call × World) :=
  (world.advance choice.delay).respond tid choice call

end World

end AuthApi
