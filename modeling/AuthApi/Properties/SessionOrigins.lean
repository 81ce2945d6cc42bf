import AuthApi.Interleaving.Origins
import AuthApi.Run.TokenOrigins

/-! # Where sessions come from

No response hands out tokens of a user unless its request has shown a credential of that user. A credential may be a
token itself, so a session goes back through the tokens it was continued with, and begins with a login.
-/

namespace AuthApi

open Interleaving Interleaving.Program

variable {Token : Type} {app : App Token}

section Requests

variable {world : World} {requests : Tid → ApiRequest Token} {config : ApiConfig Token}

/-- Entitled clients have been shown to be users. -/
theorem ApiRequest.EntitledTo.saw {request : ApiRequest Token} {trace : Trace Reply} {copy : UserObject}
    (entitled : request.EntitledTo app trace copy) : SawUser trace copy := by
  cases entitled with
  | password http data shown => exact ⟨_, shown.1, rfl⟩
  | refreshToken http refreshToken shown =>
    obtain ⟨_, _, _, _, _, _, _, found, _, _⟩ := shown
    exact ⟨_, found, rfl⟩
  | accessToken http accessToken shown =>
    obtain ⟨_, _, _, _, found, _⟩ := shown
    exact ⟨_, found, rfl⟩
  | profile http state presented shown =>
    obtain ⟨_, profile, _, found | ⟨_, _, _, _, refreshed, _⟩⟩ := shown
    · exact ⟨_, found, rfl⟩
    · exact ⟨_, refreshed, rfl⟩

/-- A response with tokens goes to a client that has shown a credential of their user: its password, a refresh token
that is revoked with it, an access token, or the profile of a linked account. -/
theorem tokens_need_credentials (run : Reaches answers unrestricted (receivedAll app world requests) config) {tid : Tid}
    {response : ApiResponse Token} (done : config.threads tid = .done response) {token : Token}
    (carries : token ∈ response.tokens) :
    ∃ copy : UserObject, (requests tid).EntitledTo app (traceOf config.past tid) copy ∧
      (∃ older, older <:+ config.past ∧ (stateAfter world older).db.user? copy.id = some copy.toUser) ∧
      ∀ other ∈ response.tokens, ∃ claims, app.jwt.verify other = some claims ∧ claims.sub = copy.id := by
  have course := api_course _ _ run fun tid => (requests tid).grantsTokens
  obtain ⟨_, same, none | ⟨copy, entitled, signed⟩⟩ := course.done done
  · cases same
    rw [none] at carries
    cases carries
  · cases same
    refine ⟨copy, entitled, sawUser_state course.lawful entitled.saw, fun other among => ?_⟩
    obtain ⟨claims, _, signed⟩ := signed other among
    exact ⟨claims, signed.verified, signed.sub⟩

end Requests

/-- The token a request presents. -/
def ApiRequest.presented? : ApiRequest Token → Option Token
  | .refreshTokens _ refreshCookie => refreshCookie
  | .logout _ refreshCookie => refreshCookie
  | request =>
      match request.credentials? with
      | some (.bearer accessToken) => some accessToken
      | _ => none

section Lineages

variable (app) (requests : Tid → ApiRequest Token) (past : List ServiceEvent)

/-- By some moment of the past, a request has been answered with the token. -/
def HandedOut (token : Token) : Prop :=
  ∃ earlier, earlier <:+ past ∧ ∃ tid response,
    ((requests tid).program app).After (traceOf earlier tid) (.done response) ∧ token ∈ response.tokens

/-- By some moment of the past, a token of the user has been handed out. -/
def HasSession (userId : UUID4) : Prop :=
  ∃ token claims, HandedOut app requests past token ∧ app.jwt.verify token = some claims ∧ claims.sub = userId

/-- By some moment of the past, a request without a token has been answered as one of the user. -/
def HasLoggedIn (userId : UUID4) : Prop :=
  ∃ earlier, earlier <:+ past ∧ ∃ tid response copy,
    ((requests tid).program app).After (traceOf earlier tid) (.done response) ∧ (requests tid).presented? = none ∧
      (requests tid).EntitledTo app (traceOf earlier tid) copy ∧ copy.id = userId

/-- Only the service signs: a token with a valid signature has been handed out before it is presented. -/
def presentsHandedOut : Condition Tid Reply World := fun past event =>
  ∀ token, (requests event.thread).presented? = some token → (app.jwt.verify token).isSome = true →
    HandedOut app requests past token

end Lineages

section Runs

variable {condition : Condition Tid Reply World} {world : World} {requests : Tid → ApiRequest Token}
  {config : ApiConfig Token} {past later : List ServiceEvent}

theorem HandedOut.mono {token : Token} (handed : HandedOut app requests past token) (grown : past <:+ later) :
    HandedOut app requests later token := by
  obtain ⟨earlier, suffix, out⟩ := handed
  exact ⟨earlier, suffix.trans grown, out⟩

theorem HasLoggedIn.mono {userId : UUID4} (login : HasLoggedIn app requests past userId) (grown : past <:+ later) :
    HasLoggedIn app requests later userId := by
  obtain ⟨earlier, suffix, began⟩ := login
  exact ⟨earlier, suffix.trans grown, began⟩

/-- What a request has seen, it has seen at an event at which its token was presented. -/
theorem handedOut_of_seen {specs : Tid → Trace Reply → Call → Prop}
    (lawful : Lawful answers (presentsHandedOut app requests) specs world past) {tid : Tid} {token : Token}
    {claims : Claims} (presents : (requests tid).presented? = some token)
    (verified : app.jwt.verify token = some claims) {exchange : Exchange Reply} (seen : exchange ∈ traceOf past tid) :
    ∃ entry older, entry :: older <:+ past ∧ HandedOut app requests older token := by
  obtain ⟨newer, event, older, rfl, rfl, _⟩ := seen_event lawful seen
  refine ⟨event, older, List.suffix_append _ _, lawful.event.admitted token presents ?_⟩
  simp [verified]

theorem getUser_id {specs : Tid → Trace Reply → Call → Prop} {condition : Condition Tid Reply World}
    (lawful : Lawful answers condition specs world past) {tid : Tid} {id : UUID4} {user : UserObject}
    (seen : ⟨.getUser id, some user⟩ ∈ traceOf past tid) : user.id = id := by
  obtain ⟨older, after, _, answered⟩ := seen_answer lawful seen
  have row := answers_getUser answered
  obtain ⟨found, read, rfl⟩ := Option.map_eq_some_iff.mp row.symm
  exact Database.user?_id read

/-- Who is entitled has presented nothing, or a token of the user that was valid at the time. -/
theorem ApiRequest.EntitledTo.presents {specs : Tid → Trace Reply → Call → Prop} {condition : Condition Tid Reply World}
    (lawful : Lawful answers condition specs world past) {tid : Tid} {copy : UserObject}
    (entitled : (requests tid).EntitledTo app (traceOf past tid) copy) :
    (requests tid).presented? = none ∨ ∃ shown time claims, (requests tid).presented? = some shown ∧
      ⟨.now, time⟩ ∈ traceOf past tid ∧ app.jwt.decode shown time = .ok claims ∧ claims.sub = copy.id := by
  generalize requests tid = request at entitled ⊢
  cases entitled with
  | password http data shown => exact .inl rfl
  | profile http state stated shown => exact .inl rfl
  | refreshToken http refreshToken shown =>
    obtain ⟨time, claims, _, read, decoded, _, _, found, _⟩ := shown
    exact .inr ⟨refreshToken, time, claims, rfl, read, decoded, (selectUserById_id lawful found).symm⟩
  | accessToken http accessToken shown =>
    obtain ⟨time, payload, read, ⟨accepted, early, late⟩, found, _⟩ := shown
    obtain ⟨claims, opens, valid⟩ := Option.bind_eq_some_iff.mp accepted
    obtain ⟨sub, iat, exp, _⟩ := AccessTokenPayload.modelValidate_eq_some valid
    refine .inr ⟨accessToken, time, claims, rfl, read, PyJwt.decode_eq_ok.mpr ⟨opens, ?_, ?_⟩, ?_⟩
    · exact iat ▸ early
    · exact exp ▸ late
    · exact sub.symm.trans (getUser_id lawful found).symm

/-- A token that has been handed out was signed by an entitled request. -/
theorem HandedOut.signed {token : Token} (handed : HandedOut app requests later token) {claims : Claims}
    (verified : app.jwt.verify token = some claims) :
    ∃ earlier, earlier <:+ later ∧ ∃ tid response copy issued,
      ((requests tid).program app).After (traceOf earlier tid) (.done response) ∧
        (requests tid).EntitledTo app (traceOf earlier tid) copy ∧
          SignedAt app (traceOf earlier tid) copy.id token claims issued := by
  obtain ⟨earlier, within, tid, response, after, carries⟩ := handed
  refine ⟨earlier, within, tid, response, ?_⟩
  obtain ⟨_, same, none | ⟨copy, entitled, signed⟩⟩ := after.along (requests tid).grantsTokens
  · cases same
    rw [none] at carries
    cases carries
  · cases same
    obtain ⟨_, issued, signed⟩ := signed token carries
    obtain rfl := Option.some.inj (verified.symm.trans signed.verified)
    exact ⟨copy, issued, after, entitled, signed⟩

/-- A session is the one of a login, or continues one that its request has presented a token of. -/
theorem session_origin (run : Reaches answers (presentsHandedOut app requests) (receivedAll app world requests) config)
    {userId : UUID4} (suffix : later <:+ config.past) (session : HasSession app requests later userId) :
    HasLoggedIn app requests later userId ∨
      ∃ entry older, entry :: older <:+ later ∧ HasSession app requests older userId := by
  obtain ⟨token, claims, handed, verified, rfl⟩ := session
  obtain ⟨earlier, within, tid, response, copy, issued, after, entitled, signed⟩ := handed.signed verified
  have lawful := (api_lawful run).suffix (within.trans suffix)
  obtain bare | ⟨shown, time, shownClaims, presents, read, decoded, subject⟩ := entitled.presents lawful
  · exact .inl ⟨earlier, within, tid, response, copy, after, bare, entitled, signed.sub.symm⟩
  · have opens := (PyJwt.decode_eq_ok.mp decoded).1
    obtain ⟨entry, older, before, handed⟩ := handedOut_of_seen lawful presents opens read
    exact .inr ⟨entry, older, before.trans within, shown, shownClaims, handed, opens, subject.trans signed.sub.symm⟩

end Runs

/-- The times at which tokens of a user are signed in one session: it begins with a request that presented no token,
and is continued by requests that presented a token while it was valid. -/
inductive InSession (app : App Token) (requests : Tid → ApiRequest Token) : List ServiceEvent → UUID4 → Time → Prop
  | begins {past : List ServiceEvent} {tid : Tid} {response : ApiResponse Token} {copy : UserObject} {issued : Time}
      (answered : ((requests tid).program app).After (traceOf past tid) (.done response))
      (entitled : (requests tid).EntitledTo app (traceOf past tid) copy) (bare : (requests tid).presented? = none)
      (signs : ⟨.now, issued⟩ ∈ traceOf past tid) : InSession app requests past copy.id issued
  | continues {past older : List ServiceEvent} {tid : Tid} {response : ApiResponse Token} {copy : UserObject}
      {shown : Token} {claims : Claims} {earlier time issued : Time}
      (session : InSession app requests older copy.id earlier) (before : older <:+ past)
      (answered : ((requests tid).program app).After (traceOf past tid) (.done response))
      (entitled : (requests tid).EntitledTo app (traceOf past tid) copy)
      (presents : (requests tid).presented? = some shown) (read : ⟨.now, time⟩ ∈ traceOf past tid)
      (decoded : app.jwt.decode shown time = .ok claims)
      (within : (time.seconds : ℤ) < earlier.seconds + app.jwtSettings.lifetime claims.type)
      (signs : ⟨.now, issued⟩ ∈ traceOf past tid) : InSession app requests past copy.id issued

section Lifetimes

variable {world : World} {requests : Tid → ApiRequest Token} {config : ApiConfig Token}

/-- A token is accepted from the second it was issued in to the one before it expires. -/
theorem decode_within {token : Token} {time : Time} {claims : Claims}
    (decoded : app.jwt.decode token time = .ok claims) :
    claims.iat ≤ time.seconds ∧ (time.seconds : ℤ) < claims.exp := by
  obtain ⟨_, early, late⟩ := PyJwt.decode_eq_ok.mp decoded
  unfold Time.seconds
  omega

/-- A token that has been handed out was signed in a session of its user, for the lifetime of its type. -/
theorem handedOut_inSession
    (run : Reaches answers (presentsHandedOut app requests) (receivedAll app world requests) config)
    (later : List ServiceEvent) : later <:+ config.past → ∀ {token : Token} {claims : Claims},
      HandedOut app requests later token → app.jwt.verify token = some claims →
        ∃ older issued, older <:+ later ∧ InSession app requests older claims.sub issued ∧
          claims.iat = issued.seconds ∧ claims.exp = issued.seconds + app.jwtSettings.lifetime claims.type := by
  induction later using suffix_induction with
  | step later ih =>
    intro suffix token claims handed verified
    obtain ⟨past, within, tid, response, copy, issued, after, entitled, signed⟩ := handed.signed verified
    have lawful := (api_lawful run).suffix (within.trans suffix)
    refine ⟨past, issued, within, ?_, signed.iat, signed.exp⟩
    rw [signed.sub]
    obtain bare | ⟨shown, time, shownClaims, presents, read, decoded, subject⟩ := entitled.presents lawful
    · exact .begins after entitled bare signed.read
    · have opens := (PyJwt.decode_eq_ok.mp decoded).1
      obtain ⟨entry, front, before, handed⟩ := handedOut_of_seen lawful presents opens read
      have grown : front <:+ past := (List.suffix_cons entry front).trans before
      obtain ⟨older, earlier, further, session, _, exp⟩ :=
        ih entry front (before.trans within) ((grown.trans within).trans suffix) handed opens
      rw [subject] at session
      have timely := (decode_within decoded).2
      rw [exp] at timely
      exact .continues session (further.trans grown) after entitled presents read decoded timely signed.read

/-- Every session begins with a login: if only tokens that were handed out are presented, then each token that is
handed out goes back to a request of its user that presented no token, but a password or a profile, and was signed
in a session of its user: a chain of requests that begins so and goes on with tokens presented while they were valid. -/
theorem sessions_begin_with_logins
    (run : Reaches answers (presentsHandedOut app requests) (receivedAll app world requests) config) {token : Token}
    (handed : HandedOut app requests config.past token) {claims : Claims}
    (verified : app.jwt.verify token = some claims) :
    HasLoggedIn app requests config.past claims.sub ∧
      ∃ older issued, older <:+ config.past ∧ InSession app requests older claims.sub issued ∧
        claims.iat = issued.seconds := by
  constructor
  · obtain ⟨older, suffix, login⟩ := goes_back (fun _ => session_origin run) ⟨token, claims, handed, verified, rfl⟩
    exact login.mono suffix
  · obtain ⟨older, issued, suffix, session, iat, _⟩ :=
      handedOut_inSession run config.past (List.suffix_refl _) handed verified
    exact ⟨older, issued, suffix, session, iat⟩

/-- Sessions lapse: if only tokens that were handed out are presented, then a token is accepted only within its
lifetime after a signature in a session of its user, which goes back to a login without a gap longer than the lifetime
of the token that bridged it. -/
theorem sessions_lapse
    (run : Reaches answers (presentsHandedOut app requests) (receivedAll app world requests) config) {tid : Tid}
    {shown : Token} (presents : (requests tid).presented? = some shown) {time : Time}
    (read : ⟨.now, time⟩ ∈ traceOf config.past tid) {claims : Claims}
    (decoded : app.jwt.decode shown time = .ok claims) :
    ∃ older issued, older <:+ config.past ∧ InSession app requests older claims.sub issued ∧
      issued.seconds ≤ time.seconds ∧ (time.seconds : ℤ) < issued.seconds + app.jwtSettings.lifetime claims.type := by
  have opens := (PyJwt.decode_eq_ok.mp decoded).1
  obtain ⟨entry, front, before, handed⟩ := handedOut_of_seen (api_lawful run) presents opens read
  have grown : front <:+ config.past := (List.suffix_cons entry front).trans before
  obtain ⟨older, issued, further, session, iat, exp⟩ := handedOut_inSession run front grown handed opens
  obtain ⟨early, late⟩ := decode_within decoded
  refine ⟨older, issued, further.trans grown, session, ?_, exp ▸ late⟩
  omega

end Lifetimes

private def logsInAndOut (tid : Tid) : ApiRequest Claims :=
  match tid with
  | 0 => .issueTokens ⟨"POST", none, [], [], []⟩ (.data ⟨"admin@example.com", "password"⟩)
  | _ => .logoutOthers ⟨"POST", none, [], [], []⟩ (.bearer (adminAccess 1))

private def login : List (Tid × Choice) :=
  [move 0, move 0, move 0, move 0, move 0, move 0 3, move 0, move 0 4, move 0 5, move 0, move 0]

private theorem login_played : ∃ (config : ApiConfig Claims) (response : ApiResponse Claims),
    Reaches answers (fun _ event => event.thread = 0)
      (receivedAll transparentApp bootstrappedWorld logsInAndOut) config ∧
      config.threads 0 = .done response ∧ adminAccess 1 ∈ response.tokens ∧
      ((config.playAll World.answer (fun _ event => event.thread = 1)
        [move 1, move 1 6, move 1, move 1, move 1, move 1, move 1, move 1 7, move 1, move 1 8, move 1]).any
          fun last => (last.threads 1).value?.any fun response => response.tokens.any fun token => token.tv = 2) =
        true := by
  have played : ((receivedAll transparentApp bootstrappedWorld logsInAndOut).playAll World.answer
      (fun _ event => event.thread = 0) login).any (fun config =>
        ((config.threads 0).value?.any fun response => adminAccess 1 ∈ response.tokens) &&
        (config.playAll World.answer (fun _ event => event.thread = 1)
          [move 1, move 1 6, move 1, move 1, move 1, move 1, move 1, move 1 7, move 1, move 1 8, move 1]).any
          fun last => (last.threads 1).value?.any fun response => response.tokens.any fun token => token.tv = 2) =
        true := by
    decide
  obtain ⟨config, run, checked⟩ := Config.playAll_exists played
  rw [Bool.and_eq_true] at checked
  obtain ⟨response, returned, carries⟩ := (Option.any_eq_true _ _).mp checked.1
  exact ⟨config, response, run, value?_eq_some.mp returned, of_decide_eq_true carries, checked.2⟩

/-- The password of the superuser entitles to its tokens. -/
theorem tokens_need_credentials_login : ∃ (trace : Trace Reply) (copy : UserObject),
    ByPassword transparentApp trace copy ⟨"admin@example.com", "password"⟩ ∧ copy.id = numbered 2 := by
  obtain ⟨config, response, run, done, carries, _⟩ := login_played
  obtain ⟨copy, entitled, _, signed⟩ :=
    tokens_need_credentials (run.admits fun _ _ _ _ => trivial) done carries
  obtain ⟨claims, verified, sub⟩ := signed _ carries
  cases verified
  cases entitled with
  | password http data shown => exact ⟨_, copy, shown, sub.symm⟩

private theorem continued_played : ∃ (config : ApiConfig Claims) (response : ApiResponse Claims),
    Reaches answers (presentsHandedOut transparentApp logsInAndOut)
      (receivedAll transparentApp bootstrappedWorld logsInAndOut) config ∧
      config.threads 1 = .done response ∧ ∃ token ∈ response.tokens, token.tv = 2 := by
  obtain ⟨middle, response, run, done, carries, played⟩ := login_played
  obtain ⟨last, rest, checked⟩ := Config.playAll_exists played
  obtain ⟨renewed, returned, some⟩ := (Option.any_eq_true _ _).mp checked
  obtain ⟨token, among, version⟩ := List.any_eq_true.mp some
  have handed : HandedOut transparentApp logsInAndOut middle.past (adminAccess 1) :=
    ⟨middle.past, List.suffix_refl _, 0, response, done ▸ run.after 0, carries⟩
  have first : Reaches answers (presentsHandedOut transparentApp logsInAndOut)
      (receivedAll transparentApp bootstrappedWorld logsInAndOut) middle := by
    apply run.admits
    intro past event _ mover token presented
    rw [mover] at presented
    cases presented
  have second : Reaches answers (presentsHandedOut transparentApp logsInAndOut) middle last := by
    apply rest.admits
    intro past event grown mover token presented _
    rw [mover] at presented
    cases presented
    exact handed.mono grown
  exact ⟨last, renewed, first.trans second, value?_eq_some.mp returned, token, among, of_decide_eq_true version⟩

/-- The session continues with another pair, and still goes back to the password. -/
theorem sessions_begin_with_logins_continued : ∃ (config : ApiConfig Claims) (token : Claims), token.tv = 2 ∧
    HandedOut transparentApp logsInAndOut config.past token ∧
    HasLoggedIn transparentApp logsInAndOut config.past token.sub ∧
    ∃ older issued, older <:+ config.past ∧ InSession transparentApp logsInAndOut older token.sub issued ∧
      token.iat = issued.seconds := by
  obtain ⟨config, response, run, done, token, among, version⟩ := continued_played
  have handed : HandedOut transparentApp logsInAndOut config.past token :=
    ⟨config.past, List.suffix_refl _, 1, response, done ▸ run.after 1, among⟩
  exact ⟨config, token, version, handed, sessions_begin_with_logins run handed rfl⟩

/-- The access token of the login bridges less than half an hour. -/
theorem sessions_lapse_continued : ∃ (past older : List ServiceEvent) (time issued : Time),
    ⟨.now, time⟩ ∈ traceOf past 1 ∧ InSession transparentApp logsInAndOut older (numbered 2) issued ∧
      issued.seconds ≤ time.seconds ∧ (time.seconds : ℤ) < issued.seconds + 1800 := by
  obtain ⟨config, response, run, done, token, among, _⟩ := continued_played
  have after := run.after 1
  rw [done] at after
  obtain ⟨_, same, none | ⟨copy, entitled, _⟩⟩ := after.along (logsInAndOut 1).grantsTokens
  · cases same
    rw [none] at among
    cases among
  · obtain bare | ⟨shown, time, claims, presents, read, decoded, _⟩ := entitled.presents (api_lawful run)
    · cases bare
    · obtain ⟨older, issued, _, session, early, late⟩ := sessions_lapse run presents read decoded
      cases presents
      cases (PyJwt.decode_eq_ok.mp decoded).1
      exact ⟨config.past, older, time, issued, read, session, early, late⟩

end AuthApi
