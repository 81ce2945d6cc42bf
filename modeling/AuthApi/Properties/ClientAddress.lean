import AuthApi.Model.Requests
import AuthApi.Run.RateLimit

/-! # Client addresses behind a proxy

A proxy that appends the address of its peer leaves what the client sent in front of it, and
`get_client_ip` takes the first element. So the identity of a client is the first element it supplied,
and the limiter holds a client to its limit only as long as that element stays the same.
-/

namespace AuthApi

open Interleaving Interleaving.Program RateLimiting Encoding

/-- The first element of a list of addresses. -/
def firstHop (text : String) : String :=
  stripSpace (String.ofList ((splitOn ',' text.toList).headD []))

/-- The header a proxy sends on: the address of its peer after whatever the peer supplied. -/
def forwardedFor (address : String) : Option String → String
  | none => address
  | some supplied => supplied ++ ", " ++ address

/-- A request as it arrives from the proxy. -/
def throughProxy (proxy address : String) (supplied : Option String) (request : HttpRequest) :
    HttpRequest :=
  { request with
    client := some proxy
    headers := ("X-Forwarded-For", forwardedFor address supplied) ::
      request.headers.filter fun header => header.1.toLower ≠ "X-Forwarded-For".toLower }

/-- The first element a client supplied; without a header its own address, and the address of the
proxy in place of an empty element. -/
def suppliedHop (proxy address : String) (supplied : Option String) : String :=
  let hop := firstHop (supplied.getD address)
  if hop = "" then proxy else hop

/-- What follows the first separator does not change the first part. -/
theorem headD_splitOn_append (text rest : List Char) :
    (splitOn ',' (text ++ ',' :: rest)).headD [] = (splitOn ',' text).headD [] := by
  induction text with
  | nil => simp [splitOn]
  | cons c text ih =>
    by_cases separator : c = ','
    · simp [splitOn, separator]
    · simp only [List.cons_append, splitOn, if_neg separator]
      cases left : splitOn ',' (text ++ ',' :: rest) <;> cases right : splitOn ',' text <;>
        simp_all

theorem firstHop_forwardedFor (address : String) (supplied : Option String) :
    firstHop (forwardedFor address supplied) = firstHop (supplied.getD address) := by
  cases supplied with
  | none => rfl
  | some text =>
    have split : (text ++ ", " ++ address).toList = text.toList ++ ',' :: (' ' :: address.toList) := by
      simp [String.toList_append]
    simp only [firstHop, forwardedFor, split, headD_splitOn_append, Option.getD_some]

section Address

variable {settings : AppSettings} {proxy : String}

/-- Behind a trusted proxy the identity is the first element the client supplied. -/
theorem getClientIp_throughProxy (trusts : settings.trustProxyHeaders = true)
    (trusted : proxy ∈ settings.trustedProxyIpSet) (address : String) (supplied : Option String)
    (request : HttpRequest) :
    getClientIp settings (throughProxy proxy address supplied request) =
      suppliedHop proxy address supplied := by
  have header : (throughProxy proxy address supplied request).header? "X-Forwarded-For" =
      some (forwardedFor address supplied) := by
    simp [HttpRequest.header?, throughProxy]
  have hop := firstHop_forwardedFor address supplied
  unfold firstHop at hop
  simp only [getClientIp, header, suppliedHop, firstHop, ← hop]
  have direct : (throughProxy proxy address supplied request).client.getD "unknown" = proxy := rfl
  rw [direct]
  by_cases empty : forwardedFor address supplied = ""
  · simp [empty, stripSpace, strip, splitOn]
  · simp [empty, trusts, trusted]

end Address

section Runs

variable {Token : Type} (app : App Token)

/-- The dependency `rate_limit_route_by_ip` of each request. -/
def limited (requests : Tid → HttpRequest) (routePath : String) (world : World) :
    Config Tid Reply World Exn Unit :=
  .start world fun tid => rateLimitRouteByIp app (requests tid) routePath

/-- The request was let through. -/
def isPassed : Action Unit → Bool
  | .done _ => true
  | _ => false

/-- In every window of the limiter no more of the requests than the limit are let through. -/
def HeldToLimit (requests : Tid → HttpRequest) (routePath : String) : Prop :=
  ∀ world config, (∀ identity now, world.redis.entryAt now (identityKey app identity) = none) →
    Reaches answers (answersWhenOpen app) (limited app requests routePath world) config →
      ∀ past identity opened, past <:+ config.past →
        opened? (ipPerRouteRule app.rateLimitSettings).windowMs
          (countedAt (identityKey app identity) past) = some opened →
        (past.countP fun event => isPassed (config.threads event.thread) &&
          (opened ≤ event.after.clock.milliseconds && event.after.clock.milliseconds ≤
            opened + (ipPerRouteRule app.rateLimitSettings).windowMs)) ≤
              app.rateLimitSettings.ipLimit.toNat

variable {app} {requests : Tid → HttpRequest} {routePath : String}

/-- Requests counted under one identity are held to the limit. -/
theorem heldToLimit_of_identity {shared : String}
    (same : ∀ tid, limiterKey app (requests tid) routePath = identityKey app shared) :
    HeldToLimit app requests routePath := by
  intro world config fresh run past identity opened suffix current
  have along (tid : Tid) : (rateLimitRouteByIp app (requests tid) routePath).Along
      (fun trace call => trace = [] ∧ call = app.limiterCall (identityKey app shared))
      (fun trace outcome => trace = [] ∨
        ∃ reply, trace = [⟨app.limiterCall (identityKey app shared), reply⟩] ∧
          (outcome = .ok () → app.letsThrough reply)) [] := by
    have ends : (rateLimitRouteByIp app (requests tid) routePath).Along
        (fun trace call => trace = [] ∧ call = app.limiterCall (limiterKey app (requests tid) routePath))
        _ [] := rateLimitRouteByIp_ends (requests tid) routePath ⟨rfl, rfl⟩
    rw [same tid] at ends
    apply ends.mono
    · exact fun _ _ issued => issued
    · rintro trace outcome (⟨_, silent⟩ | counted)
      · exact .inl silent
      · exact .inr counted
  have course : Course answers (answersWhenOpen app)
      (fun _ trace call => trace = [] ∧ call = app.limiterCall (identityKey app shared))
      (fun _ trace outcome => trace = [] ∨
        ∃ reply, trace = [⟨app.limiterCall (identityKey app shared), reply⟩] ∧
          (outcome = .ok () → app.letsThrough reply)) world config := run.course (.initial along)
  have lawful := course.lawful.suffix suffix
  have only (tid : Tid) (trace : Trace Reply) (call : Call)
      (issued : trace = [] ∧ call = app.limiterCall (identityKey app shared))
      (_ : call.redisKey? = some (identityKey app shared)) :
      call = app.limiterCall (identityKey app shared) := issued.2
  obtain ⟨event, member, _⟩ := List.mem_map.mp (opened?_mem current)
  obtain ⟨present, counted⟩ := List.mem_filter.mp member
  have key : identityKey app identity = identityKey app shared := by
    obtain ⟨newer, older, split⟩ := List.append_of_mem present
    have issued := (split ▸ lawful : Lawful _ _ _ _ (newer ++ event :: older)).event.specified.2
    unfold counts at counted
    rw [issued] at counted
    simp only [App.limiterCall, Bool.and_eq_true, decide_eq_true_iff] at counted
    exact counted.1.symm
  rw [key] at current
  have bound := window_grants_le only (fresh shared) lawful app.rateLimitSettings.ipLimit.toNat current
  refine le_trans (List.countP_mono_left ?_) bound
  intro event member within
  simp only [Bool.and_eq_true, decide_eq_true_iff] at within ⊢
  obtain ⟨passed, inside, _⟩ := within
  refine ⟨?_, inside⟩
  obtain ⟨reply, outcome, replied, ended, demanded⟩ := course.single (suffix.subset member)
  cases status : config.threads event.thread with
  | done value =>
    rw [status] at ended
    cases ended
    have through := demanded rfl
    cases reply with
    | ok counted =>
      have within : counted.1 ≤ app.rateLimitSettings.ipLimit := through
      exact grants_iff.mpr ⟨_, counted.1, counted.2, by omega, replied⟩
    | error error =>
      obtain ⟨newer, older, split⟩ := List.append_of_mem (suffix.subset member)
      have admitted := (split ▸ course.lawful : Lawful _ _ _ _ (newer ++ event :: older)).event.admitted
      exact absurd replied (admitted through _ _ _)
  | raise error => rw [status] at passed; cases passed
  | call request next => rw [status] at passed; cases passed

/-- Behind a trusted proxy that appends addresses, the requests of a client have one identity, and are
held to the limit on a route, if and only if the client supplies the same first element in all of
them. -/
theorem identity_shared_iff (routePath : String) {proxy address method : String} {supplied : Tid → Option String}
    {base : Tid → HttpRequest} (trusts : app.settings.trustProxyHeaders = true)
    (trusted : proxy ∈ app.settings.trustedProxyIpSet) (methods : ∀ tid, (base tid).method = method) :
    ((∀ first second,
        getClientIp app.settings (throughProxy proxy address (supplied first) (base first)) =
          getClientIp app.settings (throughProxy proxy address (supplied second) (base second))) ∧
      HeldToLimit app (fun tid => throughProxy proxy address (supplied tid) (base tid)) routePath) ↔
    ∀ first second,
      suppliedHop proxy address (supplied first) = suppliedHop proxy address (supplied second) := by
  simp only [getClientIp_throughProxy trusts trusted]
  constructor
  · exact And.left
  · intro same
    have key (tid : Tid) :
        limiterKey app (throughProxy proxy address (supplied tid) (base tid)) routePath =
          identityKey app (suppliedHop proxy address (supplied 0) ++ ":" ++
            (method ++ ":" ++ routePath)) := by
      have sent : (throughProxy proxy address (supplied tid) (base tid)).method = method := methods tid
      rw [limiterKey, getClientIp_throughProxy trusts trusted, same tid 0, sent]
    exact ⟨same, heldToLimit_of_identity key⟩

end Runs

private def proxiedApp : App Claims :=
  { transparentApp with settings := { trustProxyHeaders := true, trustedProxyIps := "10.0.0.1" } }

/-- A login attempt as the client at 203.0.113.7 sends it, apart from the header. -/
private def loginPost : HttpRequest := ⟨"POST", none, [], [], []⟩

/-- The attempts with the header the client supplies. -/
private def attempts (supplied : Tid → String) (tid : Tid) : HttpRequest :=
  throughProxy "10.0.0.1" "203.0.113.7" (some (supplied tid)) loginPost

/-- A different first element in each header. -/
private def forged (tid : Tid) : String :=
  ["192.0.2.1", "192.0.2.2", "192.0.2.3", "192.0.2.4", "192.0.2.5"].getD tid "192.0.2.6"

/-- A client that forges the header gets more attempts through than the limit. -/
theorem forged_header_evades_limit :
    proxiedApp.settings.trustProxyHeaders = true ∧ "10.0.0.1" ∈ proxiedApp.settings.trustedProxyIpSet ∧
      getClientIp proxiedApp.settings (attempts forged 0) ≠
        getClientIp proxiedApp.settings (attempts forged 1) ∧
      ¬ HeldToLimit proxiedApp (attempts forged) "/token" := by
  have trusted : "10.0.0.1" ∈ proxiedApp.settings.trustedProxyIpSet := by decide
  have identity (tid : Tid) : getClientIp proxiedApp.settings (attempts forged tid) =
      suppliedHop "10.0.0.1" "203.0.113.7" (some (forged tid)) :=
    getClientIp_throughProxy rfl trusted _ _ _
  refine ⟨rfl, trusted, ?_, ?_⟩
  · rw [identity, identity]
    decide
  · intro held
    have programs : limited proxiedApp (attempts forged) "/token" bootstrappedWorld =
        .start bootstrappedWorld fun tid => enforceRateLimit proxiedApp.rateLimitSettings
          (ipPerRouteRule proxiedApp.rateLimitSettings)
          (suppliedHop "10.0.0.1" "203.0.113.7" (some (forged tid)) ++ ":" ++
            ("POST" ++ ":" ++ "/token")) := by
      unfold limited rateLimitRouteByIp
      simp only [identity]
      rfl
    have played : ((limited proxiedApp (attempts forged) "/token" bootstrappedWorld).playAll
        World.answer unrestricted [move 0, move 1, move 2, move 3, move 4, move 5]).any (fun config =>
          opened? 60000 (countedAt (identityKey proxiedApp "192.0.2.1:POST:/token") config.past) =
            some 1700000000000 &&
          config.past.countP (fun event => isPassed (config.threads event.thread) &&
            (1700000000000 ≤ event.after.clock.milliseconds &&
              event.after.clock.milliseconds ≤ 1700000000000 + 60000)) = 6) = true := by
      rw [programs]
      decide
    obtain ⟨config, run, checked⟩ := Config.playAll_exists played
    rw [Bool.and_eq_true, decide_eq_true_iff, decide_eq_true_iff] at checked
    have closed : Reaches answers (answersWhenOpen proxiedApp)
        (limited proxiedApp (attempts forged) "/token" bootstrappedWorld) config :=
      run.admits fun _ _ _ _ => nofun
    have bound := held bootstrappedWorld config (fun _ _ => rfl) closed config.past _ _
      (List.suffix_refl _) checked.1
    have six := checked.2.symm.trans_le bound
    exact absurd six (by decide)

/-- A client that always supplies the same first element stays under one identity. -/
theorem identity_shared_iff_steady :
    getClientIp proxiedApp.settings (attempts (fun _ => "192.0.2.1, 192.0.2.9") 0) =
        getClientIp proxiedApp.settings (attempts (fun _ => "192.0.2.1, 192.0.2.9") 1) ∧
      HeldToLimit proxiedApp (attempts fun _ => "192.0.2.1, 192.0.2.9") "/token" := by
  have trusted : "10.0.0.1" ∈ proxiedApp.settings.trustedProxyIpSet := by decide
  have methods (_ : Tid) : loginPost.method = "POST" := rfl
  have trusts : proxiedApp.settings.trustProxyHeaders = true := rfl
  have kept := (identity_shared_iff "/token" trusts trusted methods).mpr
    fun (_ _ : Tid) => Eq.refl (suppliedHop "10.0.0.1" "203.0.113.7" (some "192.0.2.1, 192.0.2.9"))
  exact ⟨kept.1 0 1, kept.2⟩

end AuthApi
