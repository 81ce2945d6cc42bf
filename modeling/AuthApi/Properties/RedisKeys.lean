import AuthApi.Encoding.Fields
import AuthApi.Model.Http
import AuthApi.Run.Keyspace
import AuthApi.Run.RateLimit
import AuthApi.Run.SharedCalls

/-! # Separation of the Redis keys

A counter is kept for an address, a method and a route. The address may be any text, so the fields are
read back from the end: no method and no mounted template has a colon. The three subsystems own disjoint
families of keys, and each command names a key of its own family.
-/

namespace AuthApi

open Interleaving AuthService YandexIdService Encoding

/-- The key of the limiter for an address, a method and a route. -/
def addressKey (settings : RateLimitSettings) (address method path : String) : String :=
  rateLimitKey settings (ipPerRouteRule settings) (address ++ ":" ++ (method ++ ":" ++ path))

/-- The limiter counts a request under its address, its method and the path of its route. -/
theorem limiterKey_eq_addressKey {Token : Type} (app : App Token) (request : HttpRequest) (path : String) :
    limiterKey app request path =
      addressKey app.rateLimitSettings (getClientIp app.settings request) request.method path := rfl

/-- Different identities have different keys. -/
theorem rateLimitKey_injective (settings : RateLimitSettings) (rule : RateLimitRule) :
    Function.Injective (rateLimitKey settings rule) := by
  intro first second same
  have texts := congrArg String.toList same
  simp only [rateLimitKey, String.toList_append, List.append_cancel_left_eq] at texts
  exact String.toList_inj.mp texts

/-- The fields of a counter's key can be read back. -/
theorem addressKey_inj {settings : RateLimitSettings} {address other first second path route : String}
    (first_method : IsMethod first) (second_method : IsMethod second) (path_plain : ':' ∉ path.toList)
    (route_plain : ':' ∉ route.toList) :
    addressKey settings address first path = addressKey settings other second route ↔
      address = other ∧ first = second ∧ path = route := by
  have fields : address.toList ++ ':' :: (first.toList ++ ':' :: path.toList) =
      other.toList ++ ':' :: (second.toList ++ ':' :: route.toList) ↔
        address.toList = other.toList ∧ first.toList = second.toList ∧ path.toList = route.toList :=
    append_two_fields_inj first_method.plain path_plain second_method.plain route_plain
  simp only [String.toList_inj] at fields
  rw [addressKey, addressKey, (rateLimitKey_injective _ _).eq_iff, ← fields, ← String.toList_inj]
  simp [String.toList_append]

/-- The parts of the service that keep entries in Redis. -/
inductive Subsystem
  | rateLimiter
  | tokenBlacklist
  | oauthStates
  deriving DecidableEq

/-- The keys of a subsystem. -/
def Subsystem.Owns (settings : RateLimitSettings) : Subsystem → String → Prop
  | .rateLimiter, key => ∃ identity, key = rateLimitKey settings (ipPerRouteRule settings) identity
  | .tokenBlacklist, key => ∃ jti : UUID, key = blacklistKey jti.str
  | .oauthStates, key => ∃ state : UUID, key = stateCacheKey state

/-- The subsystem a Redis command belongs to. -/
def Call.subsystem? : Call → Option Subsystem
  | .redisIncrWithTtl _ _ => some .rateLimiter
  | .redisGet _ => some .tokenBlacklist
  | .redisSetex _ _ (.text _) => some .tokenBlacklist
  | .redisSetex _ _ (.codeVerifier _) => some .oauthStates
  | .redisGetdel _ => some .oauthStates
  | _ => none

/-- A Redis command names a key of the subsystem it belongs to. -/
def Call.NamesOwnKey (settings : RateLimitSettings) (call : Call) : Prop :=
  ∀ key, call.redisKey? = some key →
    ∃ subsystem, call.subsystem? = some subsystem ∧ subsystem.Owns settings key

section Owners

variable {settings : RateLimitSettings} {first second : Subsystem} {key : String}

theorem Subsystem.Owns.limiter_iff (owns : first.Owns settings key) :
    '_' ∈ key.toList ↔ first = .rateLimiter := by
  cases first with
  | rateLimiter =>
    obtain ⟨identity, rfl⟩ := owns
    exact iff_of_true (underscore_mem_rateLimitKey settings identity) rfl
  | tokenBlacklist =>
    obtain ⟨jti, rfl⟩ := owns
    simp [blacklistKey, String.toList_append, UUID.underscore_not_mem_str]
  | oauthStates =>
    obtain ⟨state, rfl⟩ := owns
    simp [underscore_not_mem_stateCacheKey state]

/-- No key has two owners. -/
theorem Subsystem.Owns.unique (owned : first.Owns settings key) (other : second.Owns settings key) :
    first = second := by
  have same : first = .rateLimiter ↔ second = .rateLimiter := owned.limiter_iff.symm.trans other.limiter_iff
  cases first <;> cases second <;> simp_all
  · obtain ⟨⟨jti, rfl⟩, state, equal⟩ := And.intro owned other
    exact blacklistKey_ne_stateCacheKey _ _ equal
  · obtain ⟨⟨jti, rfl⟩, state, equal⟩ := And.intro other owned
    exact blacklistKey_ne_stateCacheKey _ _ equal

end Owners

theorem admitsShared_namesOwnKey {Token : Type} (app : App Token) :
    AdmitsShared app (Call.NamesOwnKey app.rateLimitSettings) where
  silent call ordinary key named := by
    have silent : call.redisKey? = none := by cases call <;> first | rfl | cases ordinary
    rw [silent] at named
    cases named
  inserts id key named := by cases named
  counts identity _ key named := ⟨.rateLimiter, rfl, identity, (Option.some.inj named).symm⟩
  looksUp jti key named := ⟨.tokenBlacklist, rfl, jti.val, (Option.some.inj named).symm⟩
  revokes jti _ key named := ⟨.tokenBlacklist, rfl, jti.val, (Option.some.inj named).symm⟩
  issues state _ _ key named := ⟨.oauthStates, rfl, state, (Option.some.inj named).symm⟩
  consumes state key named := ⟨.oauthStates, rfl, state, (Option.some.inj named).symm⟩

section Runs

variable {Token : Type} {app : App Token} {condition : Condition Tid Reply World} {world : World}
  {requests : Tid → Request Token} {config : ServiceConfig Token} {event : ServiceEvent}

/-- A step of a run names a key of its own subsystem, and shows all other keys as before. -/
theorem event_namesOwnKey (run : Reaches answers condition (started app world requests) config)
    (member : event ∈ config.past) :
    event.request.NamesOwnKey app.rateLimitSettings ∧
      ∀ key, event.request.redisKey? ≠ some key →
        ∀ now, event.after.redis.entryAt now key = event.before.redis.entryAt now key := by
  have course := course_of_along (fun _ _ => Call.NamesOwnKey app.rateLimitSettings) (fun _ _ _ => True) run
    fun tid => (requests tid).shared_calls (admitsShared_namesOwnKey app)
  obtain ⟨newer, older, past_eq⟩ := List.append_of_mem member
  have lawful := course.lawful
  rw [past_eq] at lawful
  exact ⟨lawful.event.specified, (event_effect lawful.event).redis⟩

/-- A command of one subsystem does not name a key of another. -/
theorem Call.NamesOwnKey.not_other {settings : RateLimitSettings} {call : Call} {subsystem : Subsystem}
    {key : String} (names : call.NamesOwnKey settings) (owns : subsystem.Owns settings key)
    (foreign : call.subsystem? ≠ some subsystem) : call.redisKey? ≠ some key := by
  intro named
  obtain ⟨owner, belongs, owned⟩ := names key named
  rw [owned.unique owns] at belongs
  exact foreign belongs

end Runs

/-- Two counters have one key when address, method and route agree, no counter has the key of a blacklist
entry or of a login state, and in every run each subsystem leaves the entries of the others alone. -/
theorem redis_keys_separate {Token : Type} (app : App Token) :
    (∀ (settings : RateLimitSettings) (address other first second path route : String),
      IsMethod first → IsMethod second → path ∈ mountedRoutes.map Prod.snd → route ∈ mountedRoutes.map Prod.snd →
        (addressKey settings address first path = addressKey settings other second route ↔
          address = other ∧ first = second ∧ path = route)) ∧
    (∀ (settings : RateLimitSettings) (identity : String) (jti state : UUID),
      rateLimitKey settings (ipPerRouteRule settings) identity ≠ blacklistKey jti.str ∧
        rateLimitKey settings (ipPerRouteRule settings) identity ≠ stateCacheKey state) ∧
    ∀ (condition : Condition Tid Reply World) (world : World) (requests : Tid → Request Token)
      (config : ServiceConfig Token), Reaches answers condition (started app world requests) config →
        ∀ event ∈ config.past, ∀ (subsystem : Subsystem) (key : String),
          subsystem.Owns app.rateLimitSettings key → event.request.subsystem? ≠ some subsystem →
            event.request.redisKey? ≠ some key ∧
              ∀ now, event.after.redis.entryAt now key = event.before.redis.entryAt now key := by
  refine ⟨?_, ?_, ?_⟩
  · intro settings address other first second path route first_method second_method path_mounted route_mounted
    obtain ⟨mounted, member, rfl⟩ := List.mem_map.mp path_mounted
    obtain ⟨another, also_member, rfl⟩ := List.mem_map.mp route_mounted
    exact addressKey_inj first_method second_method (mountedRoutes_plain member) (mountedRoutes_plain also_member)
  · intro settings identity jti state
    have counter : Subsystem.rateLimiter.Owns settings
        (rateLimitKey settings (ipPerRouteRule settings) identity) :=
      ⟨identity, rfl⟩
    constructor
    · intro same
      have owners : Subsystem.rateLimiter = .tokenBlacklist := counter.unique ⟨jti, same⟩
      cases owners
    · intro same
      have owners : Subsystem.rateLimiter = .oauthStates := counter.unique ⟨state, same⟩
      cases owners
  · intro condition world requests config run event member subsystem key owns foreign
    obtain ⟨names, kept⟩ := event_namesOwnKey run member
    have unnamed := names.not_other owns foreign
    exact ⟨unnamed, kept key unnamed⟩

/-- Some step belongs to the blacklist. -/
private def looksUpToken (config : ServiceConfig Claims) : Bool :=
  config.past.any fun event => event.request.subsystem? = some .tokenBlacklist

/-- An IPv6 address does not run into the method, and a renewal leaves a pending login alone. -/
theorem redis_keys_separate_ipv6 :
    (addressKey {} "2001:db8::1" "GET" "/users/me" = addressKey {} "2001:db8::1:GET" "GET" "/users/me" ↔
      "2001:db8::1" = "2001:db8::1:GET" ∧ "GET" = "GET" ∧ "/users/me" = "/users/me") ∧
    ∃ config, Reaches answers unrestricted
        (started transparentApp pendingLogins (pool [.refreshTokens adminRefresh])) config ∧
      ∃ event ∈ config.past, event.request.subsystem? = some .tokenBlacklist ∧
        event.request.redisKey? ≠ some (stateCacheKey (numbered 11).val) ∧
        ∀ now, event.after.redis.entryAt now (stateCacheKey (numbered 11).val) =
          event.before.redis.entryAt now (stateCacheKey (numbered 11).val) := by
  constructor
  · apply (redis_keys_separate transparentApp).1 <;> decide
  · have played : ((started transparentApp pendingLogins (pool [.refreshTokens adminRefresh])).playAll
        World.answer unrestricted [move 0, move 0]).any looksUpToken = true := by decide
    obtain ⟨config, run, found⟩ := Config.playAll_exists played
    obtain ⟨event, member, belongs⟩ := List.any_eq_true.mp found
    have belongs := of_decide_eq_true belongs
    have separate := (redis_keys_separate transparentApp).2.2 unrestricted pendingLogins
      (pool [.refreshTokens adminRefresh]) config run event member .oauthStates
      (stateCacheKey (numbered 11).val) ⟨(numbered 11).val, rfl⟩ (by rw [belongs]; decide)
    exact ⟨config, run, event, member, belongs, separate⟩

end AuthApi
