import AuthApi.Run.Commits

/-! # How a login request ends

A login request that stored its state answers with the redirect to the provider, whose URL carries
the challenge of the stored verifier; every other one answers with an error.
-/

namespace AuthApi

open Interleaving Interleaving.Program YandexIdService

/-- The exchange stored something under a key of its own choice. -/
def stores : Exchange Reply → Bool
  | ⟨.redisSetex _ _ _, .ok _⟩ => true
  | _ => false

section Login

variable {Token : Type} (app : App Token)

/-- The redirect of a login request that drew this state and verifier. -/
def RedirectsTo (state : UUID4) (verifier : String) (response : HttpResponse Token) : Prop :=
  ∃ params, buildLoginParams app state.val verifier = .ok params ∧ response =
    loginRedirect app (app.yandexidSettings.authUrl ++ "?" ++ Encoding.urlencode params) state.val

/-- The outcome of the route of a login request: the redirect if it stored the state, else an error. -/
def LoginRouted (trace : Trace Reply) : Except Exn (HttpResponse Token) → Prop
  | .ok response => ∃ state verifier, ⟨.uuid4, state⟩ ∈ trace ∧
      ⟨.redisSetex (stateCacheKey state.val) app.yandexidSettings.confirmationCodeTtl
        (.codeVerifier verifier), .ok ()⟩ ∈ trace ∧ RedirectsTo app state verifier response
  | .error _ => ∀ exchange ∈ trace, stores exchange = false

/-- The outcome of a login request, once the middleware has dealt with it. -/
def LoginEnds (trace : Trace Reply) (outcome : Except Exn (HttpResponse Token)) : Prop :=
  ∃ requestId routed, outcome = .ok (app.sent requestId routed) ∧ LoginRouted app trace routed

variable {app}

theorem oauthLogin_ends (http : HttpRequest) :
    (oauthLogin app http).Along (fun _ _ => True) (LoginEnds app) [] := by
  refine along_requestIdMiddleware (q := LoginRouted app) (fun _ => trivial) ?_
    fun later routed requestId ends => ⟨requestId, routed, rfl, ends⟩
  intro drawn draws
  have quiet : ∀ exchange ∈ drawn ++ [], stores exchange = false := by
    simp only [List.append_nil]
    rintro ⟨request, reply⟩ member
    cases draws _ member
    rfl
  generalize drawn ++ [] = trace at quiet ⊢
  have limited : (rateLimitRouteByIp app http "/yandexid/login").Along
      (fun _ request => ∃ key windowMs, request = .redisIncrWithTtl key windowMs)
      (fun later _ => trace <:+ later ∧ ∀ exchange ∈ later, stores exchange = false) trace := by
    refine (rateLimitRouteByIp_along http _ fun identity windowMs => ⟨_, _, rfl⟩).keeps ?_ quiet
    rintro trace _ reply ⟨key, windowMs, rfl⟩ silent exchange (_ | ⟨_, member⟩)
    · rfl
    · exact silent exchange member
  refine Along.bind (limited.mono (fun _ _ _ => trivial) fun _ _ ends => ends) ?_
    fun error later ends => ends.2
  rintro _ later ⟨_, silent⟩
  refine ⟨trivial, fun state => along_withSession (fun _ => trivial) ⟨trivial, fun codeVerifier => ?_⟩⟩
  simp only [done_bind]
  cases built : buildLoginParams app state.val codeVerifier with
  | error error =>
    cases error <;>
      exact List.forall_mem_cons.mpr ⟨rfl, List.forall_mem_cons.mpr ⟨rfl,
        List.forall_mem_cons.mpr ⟨rfl, silent⟩⟩⟩
  | ok params =>
    refine ⟨trivial, fun reply => ?_⟩
    cases reply with
    | ok _ =>
      exact ⟨state, codeVerifier, by simp, by simp, params, built, rfl⟩
    | error error =>
      exact List.forall_mem_cons.mpr ⟨rfl, List.forall_mem_cons.mpr ⟨rfl,
        List.forall_mem_cons.mpr ⟨rfl, List.forall_mem_cons.mpr ⟨rfl, silent⟩⟩⟩⟩

theorem Request.loginEnds (app : App Token) (request : Request Token) :
    (request.program app).Along (fun _ _ => True) (fun trace outcome => ∀ http,
      request = .oauthLogin http → ∃ response, outcome = .ok (.response response) ∧
        LoginEnds app trace (.ok response)) [] := by
  cases request with
  | oauthLogin http =>
    refine (oauthLogin_ends http).bind ?_ ?_
    · exact fun response later ends _ _ => ⟨response, rfl, ends⟩
    · rintro error later ⟨_, _, ⟨⟩, _⟩
  | _ => exact along_any.mono (fun _ _ _ => trivial) fun _ _ _ => nofun

/-- The parameters of the redirect URL name the state and the challenge of the verifier. -/
theorem mem_buildLoginParams {state : UUID} {verifier : String} {params : List (String × String)}
    (built : buildLoginParams app state verifier = .ok params) (drawn : verifier ≠ "") :
    ("state", state.str) ∈ params ∧ ("code_challenge", generateCodeChallenge verifier) ∈ params ∧
      ("code_challenge_method", "S256") ∈ params := by
  unfold buildLoginParams at built
  split at built
  · cases built
    simp [drawn]
  · cases built

end Login

end AuthApi
