import AuthApi.Run.Login
import AuthApi.Run.StateCache

/-! # Login states and the code exchange

Cookie, query parameter, Redis entry and PKCE pair belong to one login: a callback reaches the token
endpoint only with the verifier it took out of Redis, and a state is taken out once.
-/

namespace AuthApi

open Interleaving Interleaving.Program YandexIdService

section Runs

variable {Token : Type} {app : App Token} {world : World} {requests : Tid → Request Token}
  {past older rest : List ServiceEvent} {event other : ServiceEvent} {config : ServiceConfig Token}
  {state : UUID}

/-- The draws of state and verifier directly before an issue. -/
private theorem issue_draws {verifier : String} (issues : IssuesState app requests older event state verifier) :
    ∃ newer draw back, older = newer ++ draw :: back ∧ draw.thread = event.thread ∧
      (∃ id : UUID4, id.val = state ∧ drawnId? draw.exchange = some id) ∧
      ∀ issue ∈ newer, issue.thread = event.thread → drawnVerifier? issue.exchange = some verifier := by
  obtain ⟨id, same, tail, trace⟩ := issues.drawn
  obtain ⟨front, pick, between, rfl, picker, picked, silent, trace⟩ := traceOf_eq_cons trace
  obtain ⟨middle, draw, back, rfl, mover, drawn, quiet, _⟩ := traceOf_eq_cons trace
  refine ⟨front ++ pick :: middle, draw, back, by simp, mover, ⟨id, same, by rw [drawn]; rfl⟩, ?_⟩
  intro issue member own
  obtain member | rfl | member : issue ∈ front ∨ issue = pick ∨ issue ∈ middle := by simpa using member
  · exact absurd member (not_mem_of_traceOf_eq_nil silent own)
  · rw [picked]
    rfl
  · exact absurd member (not_mem_of_traceOf_eq_nil quiet own)

/-- A state is issued once. -/
theorem issued_once (lawful : ServiceLawful app freshDraws world requests past) {verifier again : String}
    (first : event :: older <:+ past) (issues : IssuesState app requests older event state verifier)
    (second : other :: rest <:+ past) (issuesToo : IssuesState app requests rest other state again) :
    event :: older = other :: rest := by
  refine eq_of_unique (p := fun event older => ∃ verifier,
    IssuesState app requests older event state verifier) ?_ first ⟨_, issues⟩ second ⟨_, issuesToo⟩
  rintro event _ other _ suffix ⟨verifier, issues⟩ within ⟨_, earlier⟩
  obtain ⟨newer, draw, back, rfl, mover, ⟨id, same, drawn⟩, own⟩ := issue_draws issues
  obtain ⟨newer', draw', back', rfl, mover', ⟨id', same', drawn'⟩, _⟩ := issue_draws earlier
  obtain rfl : id = id' := Subtype.ext (same.trans same'.symm)
  have inner : draw' :: back' <:+ newer ++ draw :: back :=
    (List.suffix_append newer' _).trans ((List.suffix_cons _ _).trans within)
  have position : draw :: back = draw' :: back' := by
    refine drawn_once (lawful.suffix suffix).2 (List.suffix_append _ _) drawn inner drawn'
  -- the earlier issue comes after the draw, where the later request has only drawn its verifier
  have between : other ∈ newer := mem_newer within (position ▸ List.suffix_append newer' _)
  have verifier := own other between (by rw [← mover, ← mover', (List.cons.inj position).1])
  rw [show other.exchange = ⟨other.request, other.reply⟩ from rfl] at verifier
  obtain ⟨thread, request, reply, before, after⟩ := other
  cases earlier.request
  cases verifier

/-- A consumed state was issued before, and not consumed since. -/
private theorem consumed_issue (lawful : ServiceLawful app freshDraws world requests (event :: older))
    (absent : ∀ now, world.redis.entryAt now (stateCacheKey state) = none)
    (taken : consumes state event.exchange = true) :
    ∃ newer issue back verifier, older = newer ++ issue :: back ∧
      IssuesState app requests back issue state verifier ∧
      event.exchange = ⟨.redisGetdel (stateCacheKey state), .ok (some (.codeVerifier verifier))⟩ ∧
      (stateEntry app issue verifier).live event.after.clock.milliseconds = true ∧
      ∀ between ∈ newer, consumes state between.exchange = false := by
  obtain ⟨entry, found, exchanged⟩ := entry_of_consumes lawful.1 taken
  obtain ⟨newer, issue, back, verifier, rfl, issues, rfl, live, silent⟩ :=
    entry_issued lawful.2 absent found
  exact ⟨newer, issue, back, verifier, rfl, issues, exchanged, live, silent⟩

/-- A state is consumed once. -/
theorem consumed_once (lawful : ServiceLawful app freshDraws world requests past)
    (absent : ∀ now, world.redis.entryAt now (stateCacheKey state) = none)
    (first : event :: older <:+ past) (taken : consumes state event.exchange = true)
    (second : other :: rest <:+ past) (again : consumes state other.exchange = true) :
    event :: older = other :: rest := by
  refine eq_of_unique (p := fun event _ => consumes state event.exchange = true) ?_ first taken second
    again
  intro event older other rest suffix taken within earlier
  have history := lawful.suffix suffix
  obtain ⟨newer, issue, back, verifier, rfl, issues, _, _, silent⟩ :=
    consumed_issue history absent taken
  obtain ⟨newer', issue', back', verifier', rfl, issues', _, _, _⟩ :=
    consumed_issue (history.2.suffix within) absent earlier
  have inner : issue' :: back' <:+ newer ++ issue :: back :=
    (List.suffix_append newer' _).trans ((List.suffix_cons _ _).trans within)
  have position := issued_once history.2 (List.suffix_append newer _) issues inner issues'
  have between : other ∈ newer := mem_newer within (position ▸ List.suffix_append newer' _)
  rw [silent other between] at earlier
  cases earlier

/-- The token exchange of a callback that presents the state. -/
def exchangesFor (app : App Token) (requests : Tid → Request Token) (state : UUID)
    (event : ServiceEvent) : Bool :=
  match event.request, requests event.thread with
  | .httpPost _ _ _, .confirmLoginYandex http =>
      (http.query? "state").bind app.pydantic.uuid = some state
  | _, _ => false

/-- The consumption directly before a token exchange. -/
private theorem exchange_consumes
    (lawful : LawfulEvent answers freshDraws (fun tid => Allowed app (requests tid)) world older event)
    {url : String} {data : YandexIdTokenRequestData} {authorization : String}
    (posts : event.request = .httpPost url data authorization) {http : HttpRequest}
    (callback : requests event.thread = .confirmLoginYandex http) :
    ∃ presented, http.Presents app presented ∧ ∃ newer taken back, older = newer ++ taken :: back ∧
      taken.thread = event.thread ∧ taken.exchange = ⟨.redisGetdel (stateCacheKey presented),
        .ok (some (.codeVerifier data.codeVerifier))⟩ ∧ traceOf newer event.thread = [] := by
  have exchanges : Exchanges app (requests event.thread) (traceOf older event.thread) data := by
    have specified := lawful.specified
    rw [posts] at specified
    exact specified
  obtain ⟨presented, tail, trace, presents⟩ := exchanges.consumed
  obtain ⟨newer, taken, back, split, mover, same, silent, _⟩ := traceOf_eq_cons trace
  exact ⟨presented, presents http callback, newer, taken, back, split, mover, same, silent⟩

theorem exchangesFor_eq_true (happens : exchangesFor app requests state event = true) :
    ∃ url data authorization http, event.request = .httpPost url data authorization ∧
      requests event.thread = .confirmLoginYandex http ∧
      (http.query? "state").bind app.pydantic.uuid = some state := by
  unfold exchangesFor at happens
  split at happens
  · next url data authorization http posts callback =>
    exact ⟨url, data, authorization, http, posts, callback, of_decide_eq_true happens⟩
  · cases happens

/-- The code is exchanged once for a state. -/
theorem exchanged_once (lawful : ServiceLawful app freshDraws world requests past)
    (absent : ∀ now, world.redis.entryAt now (stateCacheKey state) = none) :
    past.countP (exchangesFor app requests state) ≤ 1 := by
  have taken {event : ServiceEvent} {older : List ServiceEvent} (suffix : event :: older <:+ past)
      (happens : exchangesFor app requests state event = true) :
      ∃ newer taken back, older = newer ++ taken :: back ∧ taken.thread = event.thread ∧
        consumes state taken.exchange = true ∧ traceOf newer event.thread = [] := by
    obtain ⟨url, data, authorization, http, posts, callback, query⟩ := exchangesFor_eq_true happens
    obtain ⟨presented, ⟨_, carried⟩, newer, taken, back, split, mover, same, silent⟩ :=
      exchange_consumes (lawful.suffix suffix).1 posts callback
    rw [query] at carried
    cases carried
    exact ⟨newer, taken, back, split, mover, by rw [same]; simp [consumes], silent⟩
  refine countP_le_one fun event older suffix happens other member => ?_
  by_contra again
  rw [Bool.not_eq_false] at again
  obtain ⟨front, rest, rfl⟩ := List.append_of_mem member
  have within : other :: rest <:+ front ++ other :: rest := List.suffix_append _ _
  have inside := within.trans ((List.suffix_cons _ _).trans suffix)
  obtain ⟨newer, take, back, split, mover, consumed, silent⟩ := taken suffix happens
  obtain ⟨newer', take', back', rfl, mover', consumed', _⟩ := taken inside again
  have position : take :: back = take' :: back' := by
    refine consumed_once lawful absent ?_ consumed ?_ consumed'
    · exact (split ▸ List.suffix_append _ _ : take :: back <:+ front ++ _).trans
        ((List.suffix_cons _ _).trans suffix)
    · exact (List.suffix_append newer' _).trans ((List.suffix_cons _ _).trans inside)
  rw [split] at within
  have between : other ∈ newer := mem_newer within (position ▸ List.suffix_append newer' _)
  refine not_mem_of_traceOf_eq_nil silent ?_ between
  rw [← mover', ← mover, (List.cons.inj position).1]

/-- The verifier sent to the token endpoint is the one of the state: a login request stored the two
together, the callback took them out before the deadline, and every redirect that carries the state
carries the challenge of that verifier. -/
structure Redeems (app : App Token) (requests : Tid → Request Token) (config : ServiceConfig Token)
    (older : List ServiceEvent) (callback : Tid) (state : UUID) (verifier : String) : Prop where
  inTime : ∃ issue ∈ older, ∃ taken ∈ older, (∃ http, requests issue.thread = .oauthLogin http) ∧
    issue.request = .redisSetex (stateCacheKey state) app.yandexidSettings.confirmationCodeTtl
      (.codeVerifier verifier) ∧
    taken.thread = callback ∧
    taken.exchange = ⟨.redisGetdel (stateCacheKey state), .ok (some (.codeVerifier verifier))⟩ ∧
    issue.after.clock ≤ taken.after.clock ∧ taken.after.clock.milliseconds ≤
      issue.after.clock.milliseconds + app.yandexidSettings.confirmationCodeTtl.toNat * 1000
  challenge : ∀ tid http response, requests tid = .oauthLogin http →
    config.threads tid = .done (.response response) →
    (∃ cookie ∈ response.cookies, cookie.key = "state" ∧ cookie.value = .text state.str) →
    ∃ params requestId, response = (loginRedirect app
        (app.yandexidSettings.authUrl ++ "?" ++ Encoding.urlencode params) state).withRequestId
          app.settings.requestIdHeader requestId ∧
      ("state", state.str) ∈ params ∧ ("code_challenge", generateCodeChallenge verifier) ∈ params ∧
      ("code_challenge_method", "S256") ∈ params

/-- A verifier that was issued with a state is not empty. -/
private theorem issue_verifier_ne_empty (lawful : ServiceLawful app freshDraws world requests older)
    {verifier : String} (issues : IssuesState app requests older event state verifier) :
    verifier ≠ "" := by
  obtain ⟨newer, draw, back, rfl, _, _, own⟩ := issue_draws issues
  obtain ⟨id, _, tail, trace⟩ := issues.drawn
  have seen : ⟨.tokenUrlsafe 64, verifier⟩ ∈ traceOf (newer ++ draw :: back) event.thread := by
    rw [trace]
    exact List.mem_cons_self
  obtain ⟨pick, member, _, exchanged⟩ := mem_traceOf.mp seen
  obtain ⟨front, rest, split⟩ := List.append_of_mem member
  rw [split] at lawful
  refine lawful.event.admitted.2 verifier ?_
  rw [exchanged]
  rfl

/-- The redirect of the login request that issued a state carries the challenge of its verifier. -/
private theorem redirect_challenge
    (run : Reaches answers freshDraws (started app world requests) config) {verifier : String}
    (suffix : event :: older <:+ config.past)
    (issues : IssuesState app requests older event state verifier) {tid : Tid} {http : HttpRequest}
    {response : HttpResponse Token} (login : requests tid = .oauthLogin http)
    (ended : config.threads tid = .done (.response response))
    (carries : ∃ cookie ∈ response.cookies, cookie.key = "state" ∧ cookie.value = .text state.str) :
    ∃ params requestId, response = (loginRedirect app
        (app.yandexidSettings.authUrl ++ "?" ++ Encoding.urlencode params) state).withRequestId
          app.settings.requestIdHeader requestId ∧
      ("state", state.str) ∈ params ∧ ("code_challenge", generateCodeChallenge verifier) ∈ params ∧
      ("code_challenge_method", "S256") ∈ params := by
  have lawful := (service_course run).lawful
  obtain ⟨_, ⟨⟩, requestId, routed, sent, ends⟩ := (course_of_along (fun _ _ _ => True) _ run
    fun tid => (requests tid).loginEnds app).done ended http login
  cases routed with
  | error error =>
    obtain ⟨cookie, member, _⟩ := carries
    rw [Except.ok.inj sent, App.sent_error_cookies] at member
    cases member
  | ok routed =>
    obtain ⟨id, found, _, stored, params, built, rfl⟩ := ends
    obtain ⟨cookie, member, _, text⟩ := carries
    rw [Except.ok.inj sent] at member
    obtain rfl := List.mem_singleton.mp (HttpResponse.withRequestId_cookies_subset _ _ _ member)
    obtain rfl : id.val = state := UUID.str_injective (CookieValue.text.inj text)
    obtain ⟨own, member, _, exchanged⟩ := mem_traceOf.mp stored
    obtain ⟨front, back, split⟩ := List.append_of_mem member
    have inside : own :: back <:+ config.past := ⟨front, split.symm⟩
    have request : own.request = _ := congrArg Exchange.request exchanged
    obtain ⟨_, _, ⟨⟩, again⟩ := issues_of_setex (lawful.suffix inside).1 request
    have position := issued_once lawful suffix issues inside again
    have same : event.request = own.request := by rw [(List.cons.inj position).1]
    rw [issues.request, request] at same
    cases same
    exact ⟨params, requestId, Except.ok.inj sent,
      mem_buildLoginParams built (issue_verifier_ne_empty (lawful.suffix suffix).2 issues)⟩

/-- With fresh draws the token endpoint is called once for a state, and only by a callback whose
cookie and query carry a state; if that state was issued in the run, the callback consumed it in time
and sent the verifier of its redirect. -/
theorem state_redeemed_once
    (gated : ∀ tid code state requestMeta deviceInfo,
      requests tid ≠ .authorize code state requestMeta deviceInfo)
    (run : Reaches answers freshDraws (started app world requests) config)
    (absent : ∀ now, world.redis.entryAt now (stateCacheKey state) = none) :
    config.past.countP (exchangesFor app requests state) ≤ 1 ∧
    ∀ newer event older url data authorization, config.past = newer ++ event :: older →
      event.request = .httpPost url data authorization →
      ∃ http presented, requests event.thread = .confirmLoginYandex http ∧
        http.Presents app presented ∧
        (presented = state →
          Redeems app requests config older event.thread state data.codeVerifier) := by
  have lawful := (service_course run).lawful
  refine ⟨exchanged_once lawful absent, ?_⟩
  intro newer event older url data authorization split posts
  have suffix : event :: older <:+ config.past := ⟨newer, split.symm⟩
  have history := lawful.suffix suffix
  have exchanges : Exchanges app (requests event.thread) (traceOf older event.thread) data := by
    have specified := history.1.specified
    rw [posts] at specified
    exact specified
  obtain ⟨http, callback⟩ : ∃ http, requests event.thread = .confirmLoginYandex http := by
    have callback := exchanges.callback
    generalize shape : requests event.thread = request at callback
    cases request with
    | authorize code state requestMeta deviceInfo => exact absurd shape (gated _ _ _ _ _)
    | confirmLoginYandex http => exact ⟨http, rfl⟩
    | _ => cases callback
  obtain ⟨presented, presents, front, taken, back, rfl, mover, exchanged, _⟩ :=
    exchange_consumes history.1 posts callback
  refine ⟨http, presented, callback, presents, ?_⟩
  rintro rfl
  have consumption : taken :: back <:+ config.past :=
    (List.suffix_append front _).trans ((List.suffix_cons _ _).trans suffix)
  have before := lawful.suffix consumption
  obtain ⟨between, issue, rest, verifier, rfl, issues, exchanged', live, _⟩ :=
    consumed_issue before absent (by rw [exchanged]; simp [consumes])
  rw [exchanged] at exchanged'
  cases exchanged'
  have issued : issue :: rest <:+ config.past :=
    (List.suffix_append between _).trans ((List.suffix_cons _ _).trans consumption)
  refine ⟨⟨issue, by simp, taken, by simp, issues.login, issues.request, mover, exchanged, ?_, ?_⟩, ?_⟩
  · exact clock_mono before ((List.suffix_append between _).trans (List.suffix_cons _ _))
  · simpa [stateEntry, RedisEntry.live] using live
  · exact fun tid other response login ended carries =>
      redirect_challenge run issued issues login ended carries

end Runs

private def browser (cookies query : List (String × String)) : HttpRequest :=
  ⟨"GET", some "192.0.2.1", [], cookies, query⟩

private def loginRequests : Tid → Request Claims :=
  pool [.oauthLogin (browser [] []), .confirmLoginYandex (browser [("state", (numbered 11).val.str)]
    [("code", "code"), ("state", (numbered 11).val.str)])]

/-- The login request stores its state, and the callback takes it out. -/
private def loginAndCallback : List (Tid × Choice) :=
  [move 0 10, move 0, move 0 11, (0, { (move 0).2 with text := "verifier" }), move 0, move 0,
    move 1 12, move 1, move 1 13, move 1]

/-- The data of a token exchange of the callback that happened last. -/
private def postedData? : List ServiceEvent → Option YandexIdTokenRequestData
  | ⟨1, .httpPost _ data _, _, _, _⟩ :: _ => some data
  | _ => none

private theorem postedData?_eq_some {past : List ServiceEvent} {data : YandexIdTokenRequestData}
    (posted : postedData? past = some data) : ∃ event older url authorization, past = event :: older ∧
      event.thread = 1 ∧ event.request = .httpPost url data authorization := by
  unfold postedData? at posted
  split at posted
  · cases posted
    exact ⟨_, _, _, _, rfl, rfl, rfl⟩
  · cases posted

private theorem loginRequests_gated (tid : Tid) (code : String) (state : UUID) (requestMeta : RequestMeta)
    (deviceInfo : DeviceInfo) : loginRequests tid ≠ .authorize code state requestMeta deviceInfo := by
  match tid with
  | 0 => simp [loginRequests, pool]
  | 1 => simp [loginRequests, pool]
  | _ + 2 => simp [loginRequests, pool]

/-- The callback of a login sends the verifier of its redirect. -/
theorem state_redeemed_once_login : ∃ (config : ServiceConfig Claims) (event : ServiceEvent)
    (older : List ServiceEvent) (data : YandexIdTokenRequestData),
    config.past = event :: older ∧
      config.past.countP (exchangesFor transparentApp loginRequests (numbered 11).val) ≤ 1 ∧
      Redeems transparentApp loginRequests config older 1 (numbered 11).val data.codeVerifier := by
  have played : ((started transparentApp bootstrappedWorld loginRequests).playAll World.answer freshDraws
      (loginAndCallback ++ [move 1])).any (fun config => (postedData? config.past).isSome) = true := by
    decide
  obtain ⟨config, run, posted⟩ := Config.playAll_exists played
  obtain ⟨data, posted⟩ := Option.isSome_iff_exists.mp posted
  obtain ⟨event, older, url, authorization, split, mover, posts⟩ := postedData?_eq_some posted
  have absent (now : ℕ) :
      bootstrappedWorld.redis.entryAt now (stateCacheKey (numbered 11).val) = none := rfl
  obtain ⟨once, bound⟩ := state_redeemed_once loginRequests_gated run absent
  obtain ⟨http, presented, callback, ⟨_, query⟩, redeems⟩ :=
    bound [] event older url data authorization split posts
  rw [mover] at callback redeems
  cases callback
  have same : presented = (numbered 11).val := Option.some.inj (query.symm.trans (by decide))
  exact ⟨config, event, older, data, split, once, redeems same⟩

/-- The callback takes the state out in time and reaches the token endpoint after its deadline. -/
theorem state_redeemed_late : ∃ (requests : Tid → Request Claims) (config : ServiceConfig Claims)
    (state : UUID) (issue event : ServiceEvent) (verifier : String),
    (∀ tid code state requestMeta deviceInfo,
      requests tid ≠ .authorize code state requestMeta deviceInfo) ∧
    Reaches answers freshDraws (started transparentApp bootstrappedWorld requests) config ∧
    issue ∈ config.past ∧ issue.request = .redisSetex (stateCacheKey state)
      transparentApp.yandexidSettings.confirmationCodeTtl (.codeVerifier verifier) ∧
    stores issue.exchange = true ∧
    event ∈ config.past ∧ exchangesFor transparentApp requests state event = true ∧
    issue.after.clock + transparentApp.yandexidSettings.confirmationCodeTtl.toNat * 1000000 <
      event.before.clock := by
  have played : ((started transparentApp bootstrappedWorld loginRequests).playAll World.answer freshDraws
      (loginAndCallback ++ [(2, { delay := 700000000 }), move 1])).any (fun config =>
        config.past.any fun event => exchangesFor transparentApp loginRequests (numbered 11).val event &&
          config.past.any fun issue => stores issue.exchange &&
            decide (issue.request = .redisSetex (stateCacheKey (numbered 11).val)
              transparentApp.yandexidSettings.confirmationCodeTtl (.codeVerifier "verifier")) &&
            decide (issue.after.clock + transparentApp.yandexidSettings.confirmationCodeTtl.toNat *
              1000000 < event.before.clock)) = true := by decide
  obtain ⟨config, run, found⟩ := Config.playAll_exists played
  simp only [List.any_eq_true, Bool.and_eq_true, decide_eq_true_iff] at found
  obtain ⟨event, member, posts, issue, issued, ⟨stored, request⟩, late⟩ := found
  exact ⟨loginRequests, config, (numbered 11).val, issue, event, "verifier", loginRequests_gated, run,
    issued, request, stored, member, posts, late⟩

end AuthApi
