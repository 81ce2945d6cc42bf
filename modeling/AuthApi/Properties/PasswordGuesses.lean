import AuthApi.Model.PasswordRoutes
import AuthApi.Run.RateLimit

/-! # Guessing a password

Three routes compare a submitted password with a stored hash. A login counts itself before it reads
the account, so one client gets as many comparisons in a window as the limit allows; the two routes
that change an account do not count at all, and an access token buys any number of comparisons.
-/

namespace AuthApi

open Interleaving Interleaving.Program RateLimiting Dependencies

section Guesses

variable {Token : Type} (app : App Token)

/-- The exchange after which a request evaluates `verify_password` on what it submitted: the account
is there and, behind the gate, the version of the token is its version. -/
def PasswordRequest.evaluates : PasswordRequest Token → Exchange Reply → Bool
  | .issueTokens (some _), ⟨.selectUserByEmail _ _, some _⟩ => true
  | .changeEmail (some token) (some _), ⟨.getUser _, some user⟩ =>
      (app.accessPayload token).any fun payload => payload.tv = user.tokenVersion
  | .changePassword (some token) (some _), ⟨.getUser _, some user⟩ =>
      (app.accessPayload token).any fun payload => payload.tv = user.tokenVersion
  | _, _ => false

/-- A pool of requests to the routes that check a password. -/
def guessing (http : Tid → HttpRequest) (requests : Tid → PasswordRequest Token) (world : World) :
    Config Tid Reply World Exn (HttpResponse Token) :=
  .start world fun tid => (requests tid).program app (http tid)

/-- Every request arrives from this client, with the method of its route. -/
def FromClient (http : Tid → HttpRequest) (requests : Tid → PasswordRequest Token) (client : String) :
    Prop :=
  ∀ tid, getClientIp app.settings (http tid) = client ∧ (http tid).method = (requests tid).route.method

/-- The key under which the limiter would count the requests of a client to a route. -/
def routeKey (client : String) (route : PasswordRoute) : String :=
  identityKey app (client ++ ":" ++ (route.method ++ ":" ++ route.path))

/-- The first call a request makes for the route; the middleware before it draws an id at most. -/
def EntersRoute (older : List ServiceEvent) (event : ServiceEvent) : Prop :=
  event.request ≠ .uuid4 ∧ ∀ exchange ∈ traceOf older event.thread, exchange.request = .uuid4

/-- Redis answers, and every request enters its route in one window of the limiter. -/
def inOneWindow (opened : ℕ) : Condition Tid Reply World := fun older event =>
  answersWhenOpen app older event ∧ (EntersRoute older event →
    opened ≤ event.after.clock.milliseconds ∧ event.after.clock.milliseconds ≤
      opened + (ipPerRouteRule app.rateLimitSettings).windowMs)

/-- The request of the event goes to the route and now evaluates `verify_password`. -/
def guesses (requests : Tid → PasswordRequest Token) (route : PasswordRoute) (event : ServiceEvent) :
    Bool :=
  (requests event.thread).route = route && (requests event.thread).evaluates app event.exchange

/-- Whatever one client sends in one window, no more passwords than the limit are checked on the
route. -/
def GuessesBounded (route : PasswordRoute) : Prop :=
  ∀ http requests client world opened config, FromClient app http requests client →
    (∀ now, world.redis.entryAt now (routeKey app client route) = none) →
      Reaches answers (inOneWindow app opened) (guessing app http requests world) config →
        config.past.countP (guesses app requests route) ≤ app.rateLimitSettings.ipLimit.toNat

/-- The limiter has let the request through, and nothing was checked yet. -/
def LetThrough (key : String) (request : PasswordRequest Token) (trace : Trace Reply) : Prop :=
  (∃ reply, ⟨app.limiterCall key, reply⟩ ∈ trace ∧ app.letsThrough reply) ∧
    ∀ exchange ∈ trace, request.evaluates app exchange = false

/-- Redis is used by the limiter of a login only, as its first step, and the account is read after it
has let the request through. -/
structure GuessCall (key : String) (request : PasswordRequest Token) (trace : Trace Reply)
    (call : Call) : Prop where
  counts : ∀ other, call.redisKey? = some other → call = app.limiterCall key ∧
    ∀ exchange ∈ trace, exchange.request = .uuid4
  reads : request.route = .issueTokens → ∀ email withRole,
    call = .selectUserByEmail email withRole → LetThrough app key request trace

end Guesses

section Programs

variable {Token : Type} {app : App Token} {key : String} {request : PasswordRequest Token}
  {trace : Trace Reply}

/-- A call that uses no Redis and reads no account by its email is never restricted. -/
private theorem GuessCall.other {call : Call} (silent : call.redisKey? = none)
    (unread : ∀ email withRole, call ≠ .selectUserByEmail email withRole) :
    GuessCall app key request trace call where
  counts other touches := by
    rw [silent] at touches
    cases touches
  reads _ email withRole same := absurd same (unread email withRole)

/-- A draw checks nothing. -/
private theorem evaluates_uuid4 (id : UUID4) : request.evaluates app ⟨.uuid4, id⟩ = false := by
  rcases request with (_ | _) | ⟨_ | _, _ | _⟩ | ⟨_ | _, _ | _⟩ <;> rfl

private theorem LetThrough.draw (passed : LetThrough app key request trace) (id : UUID4) :
    LetThrough app key request (⟨.uuid4, id⟩ :: trace) := by
  obtain ⟨⟨reply, member, through⟩, unchecked⟩ := passed
  refine ⟨⟨reply, List.mem_cons_of_mem _ member, through⟩, ?_⟩
  intro exchange member
  obtain rfl | member := List.mem_cons.mp member
  · exact evaluates_uuid4 id
  · exact unchecked exchange member

theorem loginUser_guesses (data : UserLoginData) (requestMeta : RequestMeta)
    (deviceInfo : Option DeviceInfo) (passed : LetThrough app key request trace) :
    (AuthService.loginUser app data requestMeta deviceInfo).Along (GuessCall app key request)
      (fun _ _ => True) trace := by
  constructor
  · exact ⟨nofun, fun _ _ _ _ => passed⟩
  · intro found
    cases found with
    | none => trivial
    | some user =>
      simp only [done_bind]
      split
      · apply Along.bind (issueTokenPair_along (fun _ => .other rfl nofun)
          (fun _ => .other rfl nofun) user)
        · intro pair later _
          exact Along.bind (saveLoginHistory_along (fun _ => .other rfl nofun)
            (fun _ => .other rfl nofun) (fun _ _ => .other rfl nofun) user.id requestMeta deviceInfo)
              (fun _ _ _ => trivial) fun _ _ _ => trivial
        · exact fun _ _ _ => trivial
      · trivial

/-- A login counts itself before it reads the account. -/
theorem issueTokens_guesses (http : HttpRequest) (loginData : Option UserLoginData)
    (enabled : app.rateLimitSettings.enabled = true)
    (counted : limiterKey app http PasswordRoute.issueTokens.path = key) :
    (issueTokens app http loginData).Along (GuessCall app key (.issueTokens loginData))
      (fun _ _ => True) [] := by
  apply along_requestIdMiddleware (q := fun _ _ => True) (fun _ => .other rfl nofun) _ fun _ _ _ _ => trivial
  intro drawn draws
  rw [List.append_nil]
  have counts : GuessCall app key (.issueTokens loginData) drawn
      (app.limiterCall (limiterKey app http PasswordRoute.issueTokens.path)) := by
    rw [counted]
    exact ⟨fun _ _ => ⟨rfl, draws⟩, fun _ _ _ => nofun⟩
  apply Along.bind (rateLimitRouteByIp_ends http _ counts) _ fun _ _ _ => trivial
  rintro _ later (⟨off, _⟩ | ⟨reply, rfl, through⟩)
  · rw [enabled] at off
    cases off
  · have passed : LetThrough app key (.issueTokens loginData)
        (⟨app.limiterCall (limiterKey app http PasswordRoute.issueTokens.path), reply⟩ :: drawn) := by
      rw [counted]
      refine ⟨⟨reply, List.mem_cons_self, through rfl⟩, ?_⟩
      intro exchange member
      obtain rfl | member := List.mem_cons.mp member
      · cases loginData <;> rfl
      · obtain ⟨call, found⟩ := exchange
        obtain rfl : call = .uuid4 := draws _ member
        exact evaluates_uuid4 found
    have device : (getOrCreateDeviceId http).Along (fun _ call => call = .uuid4) _ _ :=
      (getOrCreateDeviceId_along http rfl).keeps
        (by rintro trace _ id rfl passed; exact passed.draw id) passed
    apply Along.bind (device.mono (fun _ _ same => same ▸ .other rfl nofun) fun _ _ ends => ends) _
      fun _ _ _ => trivial
    rintro deviceId later ⟨_, passed⟩
    split
    · trivial
    · apply along_withSession fun _ => .other rfl nofun
      cases loginData with
      | none => trivial
      | some data =>
        refine Along.bind (q := fun _ _ => True) ?_ (fun _ _ _ => trivial) fun _ _ _ => trivial
        apply Along.handle (loginUser_guesses data _ _ passed) fun _ _ _ => trivial
        intro error later _
        cases error <;> trivial

/-- The routes behind the gate use no Redis. -/
theorem ownAccountRoute_guesses {Body : Type} (http : HttpRequest) (credentials : Option Token)
    (body : Option Body) (change : Body → UserObject → Action Unit) (translate : Exn → Exn)
    (changes : ∀ data user later,
      (change data user).Along (GuessCall app key request) (fun _ _ => True) later) :
    (ownAccountRoute app http credentials body change translate).Along (GuessCall app key request)
      (fun _ _ => True) [] := by
  apply along_requestIdMiddleware (q := fun _ _ => True) (fun _ => .other rfl nofun) _ fun _ _ _ _ => trivial
  intro drawn _
  cases credentials with
  | none => trivial
  | some token =>
    apply along_withSession fun _ => .other rfl nofun
    apply Along.bind (getTokenUser_along (fun _ => .other rfl nofun) token fun _ _ _ => .other rfl nofun) _
      fun _ _ _ => trivial
    intro user later _
    cases body with
    | none => trivial
    | some data =>
      refine Along.bind (q := fun _ _ => True) ?_ (fun _ _ _ => trivial) fun _ _ _ => trivial
      exact Along.handle (changes data user later) (fun _ _ _ => trivial) fun _ _ _ => trivial

theorem changeEmail_guesses (data : UserChangeEmailIn) (user : UserObject) :
    (UserService.changeEmail app data user).Along (GuessCall app key request) (fun _ _ => True)
      trace := by
  unfold UserService.changeEmail
  split
  · constructor
    · exact .other rfl nofun
    · intro reply
      rcases reply with (_ | _ | _) | _
      · exact ⟨.other rfl nofun, fun _ => trivial⟩
      · trivial
      · trivial
      · trivial
  · trivial

theorem changePassword_guesses (data : UserChangePasswordIn) (user : UserObject) :
    (UserService.changePassword app data user).Along (GuessCall app key request) (fun _ _ => True)
      trace := by
  unfold UserService.changePassword
  split
  · refine ⟨.other rfl nofun, fun salt => ⟨.other rfl nofun, fun reply => ?_⟩⟩
    cases reply <;> trivial
  · trivial

theorem PasswordRequest.guesses (request : PasswordRequest Token) (http : HttpRequest)
    (enabled : app.rateLimitSettings.enabled = true)
    (counted : request.route = .issueTokens →
      limiterKey app http PasswordRoute.issueTokens.path = key) :
    (request.program app http).Along (GuessCall app key request) (fun _ _ => True) [] := by
  cases request with
  | issueTokens loginData => exact issueTokens_guesses http loginData enabled (counted rfl)
  | changeEmail credentials data =>
    exact ownAccountRoute_guesses _ _ _ _ _ fun _ _ _ => changeEmail_guesses _ _
  | changePassword credentials data =>
    exact ownAccountRoute_guesses _ _ _ _ _ fun _ _ _ => changePassword_guesses _ _

end Programs

section Runs

variable {Token : Type} {app : App Token} {key client : String} {http : Tid → HttpRequest}
  {requests : Tid → PasswordRequest Token} {world : World} {opened : ℕ} {past : List ServiceEvent}

/-- A history in which every request keeps to its specification. -/
private abbrev GuessesLawful (app : App Token) (key : String) (requests : Tid → PasswordRequest Token)
    (opened : ℕ) (world : World) (past : List ServiceEvent) : Prop :=
  Lawful answers (inOneWindow app opened) (fun tid => GuessCall app key (requests tid)) world past

/-- What a request sent to the limiter and got back was let through by a reply that arrived. -/
private theorem withinLimit_of_letsThrough (lawful : GuessesLawful app key requests opened world past)
    {thread : Tid} {reply : Except RedisError (ℤ × ℤ)}
    (member : ⟨app.limiterCall key, reply⟩ ∈ traceOf past thread) (through : app.letsThrough reply) :
    withinLimit key app.rateLimitSettings.ipLimit.toNat ⟨app.limiterCall key, reply⟩ = true := by
  cases reply with
  | ok counted =>
    have within : counted.1 ≤ app.rateLimitSettings.ipLimit := through
    exact withinLimit_iff.mpr ⟨_, counted.1, counted.2, by omega, rfl⟩
  | error error =>
    obtain ⟨event, present, _, replied⟩ := mem_traceOf.mp member
    obtain ⟨newer, older, rfl⟩ := List.append_of_mem present
    exact absurd replied (lawful.event.admitted.1 through _ _ _)

/-- A login that evaluates a guess was granted a call before, and evaluates no other. -/
private theorem trace_guesses_le (lawful : GuessesLawful app key requests opened world past)
    {thread : Tid} (login : (requests thread).route = .issueTokens) :
    (traceOf past thread).countP ((requests thread).evaluates app) ≤
      (traceOf past thread).countP (withinLimit key app.rateLimitSettings.ipLimit.toNat) := by
  induction past with
  | nil => exact Nat.le_refl 0
  | cons event older ih =>
    have earlier := ih lawful.2
    by_cases mover : event.thread = thread
    · subst mover
      rw [traceOf_cons_self, List.countP_cons, List.countP_cons]
      cases evaluated : (requests event.thread).evaluates app event.exchange with
      | false =>
        rw [if_neg Bool.false_ne_true]
        omega
      | true =>
        obtain ⟨email, withRole, asked⟩ : ∃ email withRole, event.request =
            .selectUserByEmail email withRole := by
          cases request : requests event.thread with
          | issueTokens loginData =>
            rw [request] at evaluated
            unfold PasswordRequest.evaluates Event.exchange at evaluated
            split at evaluated <;> simp_all
          | changeEmail credentials data => rw [request] at login; cases login
          | changePassword credentials data => rw [request] at login; cases login
        obtain ⟨⟨reply, member, through⟩, unchecked⟩ :=
          lawful.1.specified.reads login email withRole asked
        have none : (traceOf older event.thread).countP ((requests event.thread).evaluates app) = 0 := by
          apply List.countP_eq_zero.mpr
          intro exchange present
          rw [unchecked exchange present]
          exact Bool.false_ne_true
        have granted : 0 < (traceOf older event.thread).countP
            (withinLimit key app.rateLimitSettings.ipLimit.toNat) :=
          List.countP_pos_iff.mpr ⟨_, member, withinLimit_of_letsThrough lawful.2 member through⟩
        rw [none, if_pos rfl]
        omega
    · rw [traceOf_cons_of_ne mover]
      exact earlier

/-- Every counted call lies in the window. -/
private theorem countedAt_inWindow (lawful : GuessesLawful app key requests opened world past)
    {time : ℕ} (member : time ∈ countedAt key past) :
    opened ≤ time ∧ time ≤ opened + (ipPerRouteRule app.rateLimitSettings).windowMs := by
  obtain ⟨event, found, rfl⟩ := List.mem_map.mp member
  obtain ⟨present, counted⟩ := List.mem_filter.mp found
  obtain ⟨newer, older, rfl⟩ := List.append_of_mem present
  have touches : event.request.redisKey? = some key := by
    unfold counts at counted
    split at counted
    · next other windowMs asked =>
      rw [Bool.and_eq_true, decide_eq_true_iff] at counted
      rw [asked, ← counted.1]
      rfl
    · cases counted
  obtain ⟨asked, first⟩ := lawful.event.specified.counts key touches
  apply lawful.event.admitted.2
  constructor
  · rw [asked]
    nofun
  · exact first

/-- The logins of one client in one window evaluate no more guesses than the limit. -/
theorem issueTokens_bounded (enabled : app.rateLimitSettings.enabled = true) :
    GuessesBounded app .issueTokens := by
  intro http requests client world opened config sent fresh run
  have along (tid : Tid) : ((requests tid).program app (http tid)).Along
      (GuessCall app (routeKey app client .issueTokens) (requests tid)) (fun _ _ => True) [] := by
    apply PasswordRequest.guesses _ _ enabled
    intro login
    obtain ⟨address, method⟩ := sent tid
    rw [limiterKey, address, method, login]
    rfl
  have course : Course answers (inOneWindow app opened)
      (fun tid => GuessCall app (routeKey app client .issueTokens) (requests tid)) (fun _ _ _ => True)
      world config := run.course (.initial along)
  have lawful : GuessesLawful app (routeKey app client .issueTokens) requests opened world config.past :=
    course.lawful
  have threads : config.past.countP (guesses app requests .issueTokens) ≤
      config.past.countP (grants (routeKey app client .issueTokens)
        app.rateLimitSettings.ipLimit.toNat) := by
    apply countP_le_of_traces
      (p := fun tid exchange => (requests tid).route = .issueTokens && (requests tid).evaluates app exchange)
      (q := fun _ => withinLimit (routeKey app client .issueTokens) app.rateLimitSettings.ipLimit.toNat)
    intro tid
    by_cases login : (requests tid).route = .issueTokens
    · simpa [login] using trace_guesses_le lawful login
    · simp [login]
  have only (tid : Tid) (trace : Trace Reply) (call : Call)
      (issued : GuessCall app (routeKey app client .issueTokens) (requests tid) trace call)
      (touches : call.redisKey? = some (routeKey app client .issueTokens)) :
      call = app.limiterCall (routeKey app client .issueTokens) := (issued.counts _ touches).1
  have positions := countP_grants_le only fresh lawful app.rateLimitSettings.ipLimit.toNat fun _ => true
  have window : (granted (ipPerRouteRule app.rateLimitSettings).windowMs
      app.rateLimitSettings.ipLimit.toNat (countedAt (routeKey app client .issueTokens) config.past)).length ≤
        app.rateLimitSettings.ipLimit.toNat :=
    length_granted_le fun time member => countedAt_inWindow lawful member
  rw [List.countP_true] at positions
  simp only [Bool.and_true] at positions
  exact threads.trans (positions.trans window)

end Runs

section Unlimited

variable {Token : Type} (app : App Token)

/-- A request to change something of the superuser, with a guess of its password. -/
def adminGuess (password : String) : PasswordRoute → PasswordRequest Token
  | .issueTokens => .issueTokens (some ⟨"admin@example.com", password⟩)
  | .changeEmail =>
      .changeEmail (some (app.jwt.encode (adminAccess 1))) (some ⟨"new@example.com", password⟩)
  | .changePassword =>
      .changePassword (some (app.jwt.encode (adminAccess 1))) (some ⟨password, "replacement"⟩)

/-- The request as it arrives, without optional headers. -/
def plainHttp (route : PasswordRoute) : HttpRequest := ⟨route.method, some "203.0.113.7", [], [], []⟩

variable {app}

private theorem decode_adminAccess : app.jwt.decode (app.jwt.encode (adminAccess 1)) bootstrappedWorld.clock =
    .ok (adminAccess 1) :=
  PyJwt.decode_eq_ok.mpr ⟨app.jwt.verify_encode _, by decide, by decide⟩

/-- Behind the gate a request reads the account in its third call. -/
private theorem adminGuess_reads {route : PasswordRoute} (gated : route ≠ .issueTokens) (password : String) :
    ∃ timed : UUID4 → Time → Action (HttpResponse Token),
      (adminGuess app password route).program app (plainHttp route) =
        .call .uuid4 (fun id => .call .now (timed id)) ∧
      ∀ id, ∃ answered, timed id bootstrappedWorld.clock = .call (.getUser (numbered 2)) answered := by
  cases route with
  | issueTokens => exact absurd rfl gated
  | changeEmail =>
    refine ⟨_, rfl, fun id => ?_⟩
    simp only [done_bind, decode_adminAccess]
    exact ⟨_, rfl⟩
  | changePassword =>
    refine ⟨_, rfl, fun id => ?_⟩
    simp only [done_bind, decode_adminAccess]
    exact ⟨_, rfl⟩

private theorem adminGuess_evaluates {route : PasswordRoute} (gated : route ≠ .issueTokens) (password : String) :
    (adminGuess app password route).evaluates app
      ⟨.getUser (numbered 2), some ⟨adminRow, .noValue⟩⟩ = true := by
  have carried : ((app.accessPayload (app.jwt.encode (adminAccess 1))).any
      fun payload => payload.tv = adminRow.tokenVersion) = true := by
    rw [App.accessPayload, app.jwt.verify_encode]
    rfl
  cases route with
  | issueTokens => exact absurd rfl gated
  | changeEmail => exact carried
  | changePassword => exact carried

/-- Calls other than the limiter's are admitted at the moment the window opens. -/
private theorem inOneWindow_bootstrapped {past : List ServiceEvent} {thread : Tid} {call : Call}
    {reply : Reply call} (silent : call.redisKey? = none) :
    inOneWindow app bootstrappedWorld.clock.milliseconds past
      ⟨thread, call, reply, bootstrappedWorld, bootstrappedWorld⟩ := by
  constructor
  · intro _ key windowMs error same
    cases congrArg Exchange.request same
    cases silent
  · intro _
    exact ⟨Nat.le_refl _, Nat.le_add_right _ _⟩

/-- Behind the gate any number of guesses is evaluated in no time. -/
theorem guesses_unlimited {route : PasswordRoute} (gated : route ≠ .issueTokens)
    (passwords : Tid → String) (n : ℕ) :
    ∃ past threads, Reaches answers (inOneWindow app bootstrappedWorld.clock.milliseconds)
        (guessing app (fun _ => plainHttp route) (fun tid => adminGuess app (passwords tid) route)
          bootstrappedWorld) ⟨⟨bootstrappedWorld, past⟩, threads⟩ ∧
      (∀ tid, n ≤ tid → threads tid =
        (adminGuess app (passwords tid) route).program app (plainHttp route)) ∧
      past.countP (guesses app (fun tid => adminGuess app (passwords tid) route) route) = n := by
  induction n with
  | zero => exact ⟨[], _, .refl, fun _ _ => rfl, rfl⟩
  | succ n ih =>
    obtain ⟨past, threads, run, waiting, counted⟩ := ih
    obtain ⟨timed, program, reads⟩ := @adminGuess_reads _ app _ gated (passwords n)
    obtain ⟨answered, third⟩ := reads (numbered 0)
    have draws : answers n .uuid4 bootstrappedWorld (numbered 0) bootstrappedWorld :=
      ⟨(move n).2, rfl⟩
    have looks : answers n .now bootstrappedWorld bootstrappedWorld.clock bootstrappedWorld :=
      ⟨(move n).2, rfl⟩
    have finds : answers n (.getUser (numbered 2)) bootstrappedWorld (some ⟨adminRow, .noValue⟩)
        bootstrappedWorld := ⟨(move n).2, rfl⟩
    rw [← Function.update_eq_self n threads, waiting n (Nat.le_refl n), program] at run
    have gate := (run.moves draws (inOneWindow_bootstrapped rfl)).moves looks
      (inOneWindow_bootstrapped rfl)
    rw [third] at gate
    refine ⟨_, _, gate.moves finds (inOneWindow_bootstrapped rfl), ?_, ?_⟩
    · intro tid later
      have distinct : tid ≠ n := by omega
      exact (Function.update_of_ne distinct ..).trans (waiting tid (by omega))
    · have sent : (adminGuess app (passwords n) route).route = route := by cases route <;> rfl
      have drew : (adminGuess app (passwords n) route).evaluates app ⟨.uuid4, numbered 0⟩ = false := by
        cases route <;> rfl
      have looked : (adminGuess app (passwords n) route).evaluates app
          ⟨.now, bootstrappedWorld.clock⟩ = false := by cases route <;> rfl
      simp only [History.record_past, List.countP_cons, counted, guesses, Event.exchange, sent,
        decide_true, Bool.true_and, drew, looked, adminGuess_evaluates gated (passwords n)]
      rfl

/-- With an enabled limiter the guesses on a route are bounded if and only if the route is the login. -/
theorem guessesBounded_iff (enabled : app.rateLimitSettings.enabled = true) (route : PasswordRoute) :
    GuessesBounded app route ↔ route = .issueTokens := by
  constructor
  · intro bounded
    by_contra gated
    obtain ⟨past, threads, run, _, counted⟩ := @guesses_unlimited _ app _ gated (fun _ => "guess")
      (app.rateLimitSettings.ipLimit.toNat + 1)
    have sent : FromClient app (fun _ => plainHttp route) (fun _ => adminGuess app "guess" route)
        (getClientIp app.settings (plainHttp route)) := by
      intro tid
      constructor
      · rfl
      · cases route <;> rfl
    have bound := bounded _ _ _ _ _ _ sent (fun _ => rfl) run
    rw [counted] at bound
    omega
  · rintro rfl
    exact issueTokens_bounded enabled

end Unlimited

theorem guessesBounded_iff_login :
    GuessesBounded transparentApp .issueTokens ∧ ¬ GuessesBounded transparentApp .changePassword :=
  ⟨(guessesBounded_iff rfl _).mpr rfl, fun bounded => nomatch (guessesBounded_iff rfl _).mp bounded⟩

/-- Six guesses, the last one right. -/
private def attempted (tid : Tid) : String :=
  ["123456", "qwerty", "letmein", "dragon", "secret"].getD tid "password"

/-- With a limit of five, six passwords are checked in one window by requests to change the email. -/
theorem email_change_unlimited :
    transparentApp.rateLimitSettings.ipLimit = 5 ∧
      (∃ config, Reaches answers (inOneWindow transparentApp bootstrappedWorld.clock.milliseconds)
        (guessing transparentApp (fun _ => plainHttp .changeEmail)
          (fun tid => adminGuess transparentApp (attempted tid) .changeEmail) bootstrappedWorld) config ∧
        config.past.countP (guesses transparentApp
          (fun tid => adminGuess transparentApp (attempted tid) .changeEmail) .changeEmail) = 6) ∧
      ¬ GuessesBounded transparentApp .changeEmail := by
  have gated : PasswordRoute.changeEmail ≠ .issueTokens := nofun
  obtain ⟨past, threads, run, _, counted⟩ := @guesses_unlimited _ transparentApp _ gated attempted 6
  refine ⟨rfl, ⟨_, run, counted⟩, ?_⟩
  intro bounded
  have sent : FromClient transparentApp (fun _ => plainHttp .changeEmail)
      (fun tid => adminGuess transparentApp (attempted tid) .changeEmail) "203.0.113.7" :=
    fun _ => ⟨rfl, rfl⟩
  have bound := bounded _ _ _ _ _ _ sent (fun _ => rfl) run
  rw [counted] at bound
  exact absurd bound (by decide)

end AuthApi
