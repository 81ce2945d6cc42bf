import AuthApi.Encoding.QueryStrings
import AuthApi.Run.ApiEnds
import AuthApi.Run.Login
import Mathlib.Data.List.TakeWhile

/-! # The login URL

The redirect to the provider carries the parameters of the login through two encodings, the query string and the
`Location` header. They are read back as they were built, for any client id, redirect URL and verifier, and they agree
with the cookie and with what Redis keeps for the callback.
-/

namespace AuthApi

open Interleaving Interleaving.Program Encoding YandexIdService

/-- The characters that Starlette keeps in a location. -/
def locationChar (c : Char) : Bool :=
  unreserved c.toNat || c.toNat ∈ ":/%#?=@[]!$&'()*+,;".toList.map Char.toNat

theorem toNat_lt_of_locationChar {c : Char} (kept : locationChar c = true) : c.toNat < 0x7F := by
  have kept : unreserved c.toNat = true ∨ c.toNat ∈ ":/%#?=@[]!$&'()*+,;".toList.map Char.toNat := by
    simpa only [locationChar, Bool.or_eq_true, decide_eq_true_eq] using kept
  obtain plain | safe := kept
  · exact unreserved_lt plain
  · have small : ∀ n ∈ ":/%#?=@[]!$&'()*+,;".toList.map Char.toNat, n < 0x7F := by decide
    exact small _ safe

theorem quoteLocation_append (url rest : String) :
    quoteLocation (url ++ rest) = quoteLocation url ++ quoteLocation rest := by
  apply String.toList_inj.mp
  simp [quoteLocation, String.toList_append]

/-- Quoting writes no characters but those of percent escapes and those the text has. -/
theorem mem_quoteLocation {url : String} {c : Char} (member : c ∈ (quoteLocation url).toList) :
    queryChar c = true ∨ c ∈ url.toList := by
  obtain ⟨chars, rfl⟩ := url.exists_eq_ofList
  rw [quoteLocation, String.toList_ofList] at member
  obtain ⟨byte, source, written⟩ := List.mem_flatMap.mp member
  split at written
  · next safe =>
    obtain rfl := List.mem_singleton.mp written
    have small : ∀ n ∈ ":/%#?=@[]!$&'()*+,;".toList.map Char.toNat, n < 0x7F := by decide
    have ascii := small _ safe
    have bytes : (String.ofList chars).toUTF8.data.toList = chars.flatMap String.utf8EncodeChar := by
      simp [List.utf8Encode]
    rw [bytes] at source
    obtain ⟨other, present, encoded⟩ := List.mem_flatMap.mp source
    have same := toNat_of_mem_utf8EncodeChar encoded (by omega)
    rw [← same, Char.ofNat_toNat, String.toList_ofList]
    exact .inr present
  · split at written
    · have escaped : "%20".toList.all queryChar = true := by decide
      exact .inl (List.all_eq_true.mp escaped c written)
    · exact .inl (queryChar_of_mem_quoteByte written)

/-- A text of such characters is sent as it is. -/
theorem quoteLocation_of_kept {text : String} (kept : ∀ c ∈ text.toList, locationChar c = true) :
    quoteLocation text = text := by
  obtain ⟨chars, rfl⟩ := text.exists_eq_ofList
  rw [String.toList_ofList] at kept
  have bytes : (String.ofList chars).toUTF8.data.toList = chars.flatMap String.utf8EncodeChar := by
    simp [List.utf8Encode]
  rw [quoteLocation, bytes]
  clear bytes
  congr 1
  induction chars with
  | nil => rfl
  | cons c chars ih =>
    have sent := kept c List.mem_cons_self
    have ascii := toNat_lt_of_locationChar sent
    have value : (UInt8.ofNat c.toNat).toNat = c.toNat := by
      rw [UInt8.toNat_ofNat_of_lt' (Nat.lt_trans ascii (by decide))]
    rw [List.flatMap_cons, List.flatMap_append, utf8EncodeChar_of_lt ascii,
      ih fun other member => kept other (List.mem_cons_of_mem _ member)]
    simp only [List.flatMap_cons, List.flatMap_nil, List.append_nil, value]
    split
    · simp
    · next quoted =>
      have plain : unreserved c.toNat = true := by
        simpa only [locationChar, quoted, decide_false, Bool.or_false] using sent
      have visible : c.toNat ≠ 0x20 := by
        intro same
        rw [same] at plain
        exact absurd plain (by decide)
      simp [visible, quoteByte, value, plain]

theorem locationChar_of_queryChar {c : Char} (written : queryChar c = true) : locationChar c = true := by
  have written : (unreserved c.toNat = true ∨ c = '+') ∨ c = '%' := by simpa [queryChar] using written
  obtain (plain | rfl) | rfl := written
  · simp [locationChar, plain]
  · decide
  · decide

theorem locationChar_of_mem_urlencode {params : List (String × String)} {c : Char}
    (member : c ∈ (urlencode params).toList) : locationChar c = true := by
  obtain written | rfl | rfl := mem_urlencode member
  · exact locationChar_of_queryChar written
  · decide
  · decide

section Login

variable {Token : Type} {app : App Token}

/-- The login was prepared: a verifier was drawn and stored under the state, and the URL carries the parameters made of
both. -/
structure LoginPrepared (app : App Token) (trace : Trace Reply) (state : UUID) (codeVerifier : String)
    (loginParams : List (String × String)) (url : String) : Prop where
  drawn : ⟨.tokenUrlsafe 64, codeVerifier⟩ ∈ trace
  stored : ⟨.redisSetex (stateCacheKey state) app.yandexidSettings.confirmationCodeTtl (.codeVerifier codeVerifier),
    .ok ()⟩ ∈ trace
  built : buildLoginParams app state codeVerifier = .ok loginParams
  carries : url = app.yandexidSettings.authUrl ++ "?" ++ urlencode loginParams

theorem LoginPrepared.mono {trace later : Trace Reply} {state : UUID} {codeVerifier url : String}
    {loginParams : List (String × String)} (prepared : LoginPrepared app trace state codeVerifier loginParams url)
    (grown : ∀ exchange ∈ trace, exchange ∈ later) : LoginPrepared app later state codeVerifier loginParams url :=
  ⟨grown _ prepared.drawn, grown _ prepared.stored, prepared.built, prepared.carries⟩

theorem buildLoginRedirect_prepares (state : UUID) {trace : Trace Reply} :
    (buildLoginRedirect app state).Along (fun _ _ => True) (fun later outcome => ∀ url, outcome = .ok url →
      ∃ (codeVerifier : String) (loginParams : List (String × String)),
        LoginPrepared app later state codeVerifier loginParams url) trace := by
  refine ⟨trivial, fun codeVerifier => ?_⟩
  simp only [done_bind]
  cases built : buildLoginParams app state codeVerifier with
  | error error => rintro url ⟨⟩
  | ok loginParams =>
    refine ⟨trivial, fun reply => ?_⟩
    cases reply with
    | error fault => rintro url ⟨⟩
    | ok stored =>
      rintro url ⟨⟩
      exact ⟨codeVerifier, loginParams, by simp, by simp, built, rfl⟩

/-- What is known of the service of a login. -/
def Service.Prepares (app : App Token) (service : Service Token) (trace : Trace Reply)
    (outcome : Except Exn (ServiceResult Token)) : Prop :=
  ∀ state url, service = .buildLoginRedirect state → outcome = .ok (.redirect url) →
    ∃ (codeVerifier : String) (loginParams : List (String × String)),
      LoginPrepared app trace state codeVerifier loginParams url

theorem Service.prepares (service : Service Token) :
    (service.program app).Along (fun _ _ => True) (service.Prepares app) [] := by
  cases service with
  | buildLoginRedirect state =>
    apply along_withSession fun _ => trivial
    apply Along.bind (buildLoginRedirect_prepares state)
    · rintro url later prepared _ _ ⟨⟩ ⟨⟩
      obtain ⟨codeVerifier, loginParams, prepared⟩ := prepared url rfl
      exact ⟨codeVerifier, loginParams, prepared.mono fun _ => List.mem_cons_of_mem _⟩
    · rintro error later _ _ _ _ ⟨⟩
  | _ => exact along_any.mono (fun _ _ _ => trivial) (by rintro _ _ _ _ _ ⟨⟩)

/-- The query of a URL stands between its first question mark and its fragment. -/
def urlQuery (url : List Char) : List Char := ((url.takeWhile (· ≠ '#')).dropWhile (· ≠ '?')).drop 1

/-- The address of the provider has no query and no fragment of its own. -/
def App.HasPlainAuthUrl (app : App Token) : Prop :=
  '?' ∉ app.yandexidSettings.authUrl.toList ∧ '#' ∉ app.yandexidSettings.authUrl.toList

instance (app : App Token) : Decidable app.HasPlainAuthUrl :=
  inferInstanceAs (Decidable ('?' ∉ app.yandexidSettings.authUrl.toList ∧ '#' ∉ app.yandexidSettings.authUrl.toList))

/-- The query that was appended is what a receiver finds. -/
theorem urlQuery_append {address query : List Char} (unasked : '?' ∉ address) (unmarked : '#' ∉ address)
    (plain : '#' ∉ query) : urlQuery (address ++ '?' :: query) = query := by
  have whole : (address ++ '?' :: query).takeWhile (· ≠ '#') = address ++ '?' :: query := by
    apply List.takeWhile_eq_self_iff.mpr
    intro c member
    rw [decide_eq_true_eq]
    rintro rfl
    have within : '#' ∈ address ∨ '#' ∈ query := by simpa using member
    exact within.elim unmarked plain
  have before : ∀ c ∈ address, decide (c ≠ '?') = true := by
    intro c member
    rw [decide_eq_true_eq]
    rintro rfl
    exact unasked member
  rw [urlQuery, whole, List.dropWhile_append_of_pos before]
  simp

/-- A redirect that leads to the provider and back. -/
structure LeadsBack (app : App Token) (trace : Trace Reply) (response : ApiResponse Token) (state : UUID4)
    (codeVerifier : String) (loginParams : List (String × String)) (query : String) : Prop where
  stored : ⟨.redisSetex (stateCacheKey state.val) app.yandexidSettings.confirmationCodeTtl
    (.codeVerifier codeVerifier), .ok ()⟩ ∈ trace
  built : buildLoginParams app state.val codeVerifier = .ok loginParams
  location : ("location", quoteLocation app.yandexidSettings.authUrl ++ "?" ++ query) ∈ response.headers
  reads : parseQuery (urlQuery (quoteLocation app.yandexidSettings.authUrl ++ "?" ++ query).toList) =
    some loginParams
  sends : ("state", state.val.str) ∈ loginParams
  challenge : codeVerifier ≠ "" → ("code_challenge", generateCodeChallenge codeVerifier) ∈ loginParams
  cookie : ∃ cookie ∈ response.cookies, cookie.key = "state" ∧ cookie.value = .text state.val.str
  returns : ∀ callback : HttpRequest, callback.cookie? "state" = some state.val.str →
    validateLoginState callback state.val = .ok ()

/-- The parameters name the state. -/
theorem state_mem_buildLoginParams {state : UUID} {codeVerifier : String} {loginParams : List (String × String)}
    (built : buildLoginParams app state codeVerifier = .ok loginParams) : ("state", state.str) ∈ loginParams := by
  unfold buildLoginParams at built
  split at built
  · cases built
    simp
  · cases built

/-- Both encodings of the login URL are undone by their receivers. -/
theorem LoginPrepared.leadsBack {trace : Trace Reply} {state : UUID4} {codeVerifier url requestId : String}
    {loginParams : List (String × String)}
    (prepared : LoginPrepared app trace state.val codeVerifier loginParams url)
    (other : app.settings.requestIdHeader.toLower ≠ "location")
    (keeps : app.settings.requestIdHeader.toLower ≠ "set-cookie") (plain : app.HasPlainAuthUrl) :
    LeadsBack app trace (ApiRequest.sent app requestId (.ok { toHttpResponse := loginRedirect app url state.val }))
      state codeVerifier loginParams (urlencode loginParams) where
  stored := prepared.stored
  built := prepared.built
  location := by
    have query : quoteLocation (urlencode loginParams) = urlencode loginParams :=
      quoteLocation_of_kept fun c member => locationChar_of_mem_urlencode member
    have mark : quoteLocation "?" = "?" := quoteLocation_of_kept fun c member => by
      obtain rfl := List.mem_singleton.mp member
      decide
    have lower : "location".toLower = "location" := String.toList_inj.mp (String.toList_map.trans (by decide))
    have kept : ("location", quoteLocation url) ∈
        ((loginRedirect app url state.val : HttpResponse Token).withRequestId app.settings.requestIdHeader
          requestId).headers :=
      List.mem_append_left _ (List.mem_filter.mpr ⟨by simp [loginRedirect], by simpa [lower] using other.symm⟩)
    have sent : quoteLocation url = quoteLocation app.yandexidSettings.authUrl ++ "?" ++ urlencode loginParams := by
      rw [prepared.carries, quoteLocation_append, quoteLocation_append, mark, query]
    rw [← sent]
    exact kept
  reads := by
    have quoted {c : Char} (special : queryChar c = false) (absent : c ∉ app.yandexidSettings.authUrl.toList) :
        c ∉ (quoteLocation app.yandexidSettings.authUrl).toList := fun member =>
      (mem_quoteLocation member).elim (fun written => by simp [special] at written) absent
    have unmarked : '#' ∉ (urlencode loginParams).toList := fun member => by
      obtain written | same | same := mem_urlencode member
      · exact absurd written (by decide)
      · exact absurd same (by decide)
      · exact absurd same (by decide)
    rw [String.toList_append, String.toList_append, List.append_assoc]
    refine (congrArg parseQuery ?_).trans (parseQuery_urlencode loginParams)
    exact urlQuery_append (quoted (by decide) plain.1) (quoted (by decide) plain.2) unmarked
  sends := state_mem_buildLoginParams prepared.built
  challenge drawn := (mem_buildLoginParams prepared.built drawn).2.1
  cookie := by
    have kept := (loginRedirect app url state.val : HttpResponse Token).withRequestId_cookies requestId keeps
    have set : ∃ cookie ∈ (loginRedirect app url state.val : HttpResponse Token).cookies,
        cookie.key = "state" ∧ cookie.value = .text state.val.str := ⟨_, List.mem_singleton_self _, rfl, rfl⟩
    rw [← kept] at set
    exact set
  returns callback presented := by
    have filled : state.val.str ≠ "" := by
      intro empty
      have read := UUID.parse_str state.val
      rw [empty] at read
      exact absurd read (by simp [show UUID.parse "" = none by decide])
    simp [validateLoginState, presented, filled, UUID.parse_str]

theorem ApiRequest.Asks.of_oauthLogin {http : HttpRequest} {service : Service Token}
    (asks : (ApiRequest.oauthLogin http : ApiRequest Token).Asks app service) :
    ∃ state : UUID4, service = .buildLoginRedirect state.val := by
  cases asks with
  | oauthLogin _ state => exact ⟨state, rfl⟩
  | idle _ validates => cases validates
  | gate _ accessToken validates authenticated => cases validates
  | checkAccess _ accessToken validates authenticated => cases validates
  | role _ accessToken operation authenticated valid => cases authenticated

/-- The redirect of every login, in every run of the API, carries the parameters that were built for it: the provider
reads them back from the query of the `Location`, the state among them is the one in the cookie, the check of the
callback accepts the two together, and the challenge is that of the verifier that Redis keeps for this state. -/
theorem login_urls_lead_back {condition : Condition Tid Reply World} {world : World}
    {requests : Tid → ApiRequest Token} {config : ApiConfig Token}
    (other : app.settings.requestIdHeader.toLower ≠ "location")
    (keeps : app.settings.requestIdHeader.toLower ≠ "set-cookie") (plain : app.HasPlainAuthUrl)
    (run : Reaches answers condition (receivedAll app world requests) config) {tid : Tid} {http : HttpRequest}
    (login : requests tid = .oauthLogin http) {response : ApiResponse Token}
    (done : config.threads tid = .done response) (redirects : response.status = 302) :
    ∃ (state : UUID4) (codeVerifier : String) (loginParams : List (String × String)) (query : String),
      LeadsBack app (traceOf config.past tid) response state codeVerifier loginParams query := by
  have course := api_course _ _ run fun tid => (requests tid).along fun service asks =>
    (asks.ends.and service.prepares)
  have success : response.status ∈ [200, 302] := by
    rw [redirects]
    decide
  obtain ⟨_, same, answered⟩ := course.done done
  cases same
  rw [login] at answered
  cases answered with
  | turnedAway requestId has error away silent =>
    have routed := away.routed fun exchange member => ownWrites_of_hidden (silent exchange member)
    exact absurd success routed.failure
  | replied requestId has service asks shown shows image ends routed replies =>
    obtain ⟨ends, prepares⟩ := ends
    obtain ⟨state, rfl⟩ := asks.of_oauthLogin
    cases replies with
    | invalid nothing result params => cases nothing
    | failed error =>
      have routed := (ApiRequest.Replies.failed error).routed ends shows
      exact absurd success routed.failure
    | answered something result =>
      cases result with
      | outcome outcome =>
        have routed := (ApiRequest.Replies.answered something (.outcome outcome)).routed ends shows
        exact absurd success routed.failure
      | redirect url =>
        obtain ⟨codeVerifier, loginParams, prepared⟩ := prepares state.val url rfl rfl
        have prepared := prepared.mono fun exchange seen => shows.sublist.subset seen
        exact ⟨state, codeVerifier, loginParams, _, prepared.leadsBack other keeps plain⟩

/-- The exchange stores no other verifier than the one drawn. -/
private def storesDrawn (exchange : Exchange Reply) : Bool :=
  match exchange with
  | ⟨.redisSetex _ _ (.codeVerifier codeVerifier), _⟩ => codeVerifier = "verifier"
  | _ => true

/-- A login with the default settings that has drawn the text "verifier". -/
theorem login_urls_lead_back_default : ∃ (trace : Trace Reply) (response : ApiResponse Claims) (state : UUID4)
    (loginParams : List (String × String)) (query : String), response.status = 302 ∧
      LeadsBack transparentApp trace response state "verifier" loginParams query := by
  have played : ((receivedAll transparentApp bootstrappedWorld fun _ => .oauthLogin ⟨"GET", none, [], [], []⟩).playAll
      World.answer unrestricted [move 0, move 0, move 0 11, (0, { text := "verifier" }), move 0, move 0]).any
      (fun config => ((config.threads 0).value?.any fun response => response.status = 302) &&
        (traceOf config.past 0).all storesDrawn) = true := by
    decide +kernel
  obtain ⟨config, run, checked⟩ := Config.playAll_exists played
  obtain ⟨ended, drawn⟩ := Bool.and_eq_true_iff.mp checked
  obtain ⟨response, done, redirects⟩ := (Option.any_eq_true _ _).mp ended
  have redirects := of_decide_eq_true redirects
  have header (name : String) (differs : "x-request-id".toList.map Char.toLower ≠ name.toList) :
      transparentApp.settings.requestIdHeader.toLower ≠ name := by
    intro same
    have lower (text : String) : text.toLower.toList = text.toList.map Char.toLower := String.toList_map
    have letters := congrArg String.toList same
    rw [lower] at letters
    exact differs letters
  have found := login_urls_lead_back (header "location" (by decide)) (header "set-cookie" (by decide)) (by decide) run
    rfl (value?_eq_some.mp done) redirects
  obtain ⟨state, codeVerifier, loginParams, query, leads⟩ := found
  have same : codeVerifier = "verifier" := of_decide_eq_true (List.all_eq_true.mp drawn _ leads.stored)
  exact ⟨_, response, state, loginParams, query, redirects, same ▸ leads⟩

end Login

end AuthApi
