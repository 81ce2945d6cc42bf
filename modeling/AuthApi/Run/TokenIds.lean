import AuthApi.Run.Issuance
import AuthApi.Run.StateCache

/-! # The ids of issued tokens

Every pair a request hands out comes from `_issue_token_pair`, so what that function ensures of its
pairs holds of all of them. In particular the ids of both tokens were drawn by the request, and
tokens with one id are tokens of one pair.
-/

namespace AuthApi

open Interleaving Interleaving.Program

section Programs

variable {Token : Type} {app : App Token} {trace : Trace Reply} {p : Trace Reply → TokenData Token → Prop}

/-- A pair that is handed out has the property. -/
def HandsOut {α : Type} (pair? : α → Option (TokenData Token)) (p : Trace Reply → TokenData Token → Prop)
    (trace : Trace Reply) (outcome : Except Exn α) : Prop :=
  ∀ value pair, outcome = .ok value → pair? value = some pair → p trace pair

/-- A property of traces and pairs that `_issue_token_pair` ensures and that later calls keep. -/
structure OfPairs (app : App Token) (p : Trace Reply → TokenData Token → Prop) : Prop where
  mono : ∀ {trace later pair}, p trace pair → trace <:+ later → p later pair
  issues : ∀ user trace, (issueTokenPair app user).Along (fun _ _ => True) (HandsOut some p) trace

theorem handsOut_error {α : Type} {pair? : α → Option (TokenData Token)} {error : Exn} :
    HandsOut pair? p trace (.error error) := by
  rintro value pair ⟨⟩

theorem handsOut_nothing {α : Type} {program : Action α} {pair? : α → Option (TokenData Token)}
    (nothing : ∀ value, pair? value = none) :
    program.Along (fun _ _ => True) (HandsOut pair? p) trace := by
  apply along_any.mono (fun _ _ _ => trivial)
  rintro later outcome _ value pair rfl handed
  rw [nothing value] at handed
  cases handed

theorem handsOut_user {user : UserObject} :
    HandsOut Outcome.pair? p trace (.ok (.user user : Outcome Token)) := by
  rintro value pair ⟨⟩ ⟨⟩

variable (of : OfPairs app p)
include of

theorem OfPairs.keep {α : Type} {pair? : α → Option (TokenData Token)} {outcome : Except Exn α}
    {later : Trace Reply} (hands : HandsOut pair? p trace outcome) (grown : trace <:+ later) :
    HandsOut pair? p later outcome :=
  fun value pair same handed => of.mono (hands value pair same handed) grown

theorem OfPairs.session {α : Type} {program : Action α} {pair? : α → Option (TokenData Token)}
    (along : program.Along (fun _ _ => True) (HandsOut pair? p) trace) :
    (withSession program).Along (fun _ _ => True) (HandsOut pair? p) trace :=
  along_withSession (fun _ => trivial)
    (along.mono (fun _ _ _ => trivial) fun _ _ hands => of.keep hands (List.suffix_cons _ _))

/-- The end of a login: a pair, and a record that may fail. -/
theorem OfPairs.issue_and_record (user : UserObject) (requestMeta : RequestMeta)
    (deviceInfo : Option DeviceInfo) :
    (do
      let tokens ← issueTokenPair app user
      saveLoginHistory user.id requestMeta deviceInfo
      return tokens : Action (TokenData Token)).Along (fun _ _ => True) (HandsOut some p) trace := by
  apply Along.bind (of.issues user trace)
  · intro tokens middle issued
    apply Along.bind (saveLoginHistory_along (fun _ => trivial) (fun _ => trivial) (fun _ _ => trivial)
      user.id requestMeta deviceInfo)
    · rintro _ later ⟨grown, _⟩ value pair ⟨⟩ ⟨⟩
      exact of.mono (issued tokens tokens rfl rfl) grown
    · exact fun _ _ _ => handsOut_error
  · exact fun _ _ _ => handsOut_error

theorem OfPairs.loginUser (data : UserLoginData) (requestMeta : RequestMeta)
    (deviceInfo : Option DeviceInfo) :
    (AuthService.loginUser app data requestMeta deviceInfo).Along (fun _ _ => True) (HandsOut some p)
      trace := by
  refine ⟨trivial, fun found => ?_⟩
  cases found with
  | none => exact handsOut_error
  | some user =>
    simp only [done_bind]
    split
    · exact of.issue_and_record user requestMeta deviceInfo
    · exact handsOut_error

theorem OfPairs.refreshTokens (token : Token) :
    (AuthService.refreshTokens app token).Along (fun _ _ => True) (HandsOut some p) trace := by
  refine ⟨trivial, fun decodedAt => ?_⟩
  simp only [done_bind]
  split
  · exact handsOut_error
  · exact handsOut_error
  · split
    · exact handsOut_error
    · apply Along.bind along_any
      · intro listed later _
        split
        · exact handsOut_error
        · refine ⟨trivial, fun found => ?_⟩
          cases found with
          | none => exact handsOut_error
          | some user =>
            simp only [done_bind]
            split
            · refine ⟨trivial, fun now => ?_⟩
              simp only [done_bind]
              apply Along.bind along_any
              · exact fun _ last _ => of.issues user last
              · exact fun _ _ _ => handsOut_error
            · exact handsOut_error
      · exact fun _ _ _ => handsOut_error

theorem OfPairs.logoutOthers (user : UserObject) :
    (AuthService.logoutOthers app user).Along (fun _ _ => True) (HandsOut some p) trace := by
  apply Along.bind along_any
  · intro _ later _
    refine ⟨trivial, fun found => ?_⟩
    cases found with
    | none => exact handsOut_error
    | some found => exact of.issues _ _
  · exact fun _ _ _ => handsOut_error

theorem OfPairs.authorize (code : String) (state : UUID) (requestMeta : RequestMeta)
    (deviceInfo : DeviceInfo) :
    (YandexIdService.authorize app code state requestMeta deviceInfo).Along (fun _ _ => True)
      (HandsOut some p) trace := by
  refine Along.bind along_any ?_ fun _ _ _ => handsOut_error
  intro codeVerifier _ _
  refine Along.bind along_any ?_ fun _ _ _ => handsOut_error
  intro tokenData _ _
  refine Along.bind along_any ?_ fun _ _ _ => handsOut_error
  intro profile _ _
  refine Along.bind along_any ?_ fun _ _ _ => handsOut_error
  intro resolved _ _
  cases resolved with
  | none => exact ⟨trivial, fun _ => handsOut_error⟩
  | some user => exact of.issue_and_record user requestMeta (some deviceInfo)

theorem OfPairs.confirmLoginYandex (http : HttpRequest) :
    (confirmLoginYandex app http).Along (fun _ _ => True) (HandsOut HttpResponse.pair? p) [] := by
  apply along_requestIdMiddleware (q := HandsOut HttpResponse.pair? p) (fun _ => trivial)
  · intro later _
    refine Along.bind along_any ?_ fun _ _ _ => handsOut_error
    intro _ later _
    simp only
    split
    · exact handsOut_error
    · refine Along.bind along_any ?_ fun _ _ _ => handsOut_error
      intro deviceId later _
      split
      · exact handsOut_error
      · apply of.session
        split
        · refine Along.bind (q := HandsOut some p) (Along.handle (of.authorize _ _ _ _)
            (fun _ _ hands => hands) fun _ _ _ => handsOut_error) ?_ fun _ _ _ => handsOut_error
          rintro tokens last hands value pair ⟨⟩ ⟨⟩
          exact hands tokens tokens rfl rfl
        · exact handsOut_error
  · rintro later outcome requestId hands value pair ⟨⟩ handed
    obtain ⟨response, rfl, shown⟩ := sent_pair handed
    exact hands response pair rfl shown

/-- The login route hands out no tokens. -/
theorem OfPairs.oauthLogin (http : HttpRequest) :
    (oauthLogin app http).Along (fun _ _ => True) (HandsOut HttpResponse.pair? p) [] := by
  apply along_requestIdMiddleware (q := HandsOut HttpResponse.pair? p) (fun _ => trivial)
  · intro later _
    refine Along.bind along_any ?_ fun _ _ _ => handsOut_error
    intro _ later _
    refine ⟨trivial, fun state => of.session (Along.bind along_any ?_ fun _ _ _ => handsOut_error)⟩
    rintro redirectUrl last _ value pair ⟨⟩ ⟨⟩
  · rintro later outcome requestId hands value pair ⟨⟩ handed
    obtain ⟨response, rfl, shown⟩ := sent_pair handed
    exact hands response pair rfl shown

omit of in
/-- A service whose results hand out what the request hands out. -/
theorem HandsOut.request {α : Type} {pair? : α → Option (TokenData Token)} {program : Action α}
    {result : α → Outcome Token} (same : ∀ value, (result value).pair? = pair? value)
    (along : program.Along (fun _ _ => True) (HandsOut pair? p) trace) :
    (do return result (← program)).Along (fun _ _ => True) (HandsOut Outcome.pair? p) trace := by
  apply Along.bind along
  · rintro returned later hands value pair ⟨⟩ handed
    exact hands returned pair rfl (same returned ▸ handed)
  · exact fun _ _ _ => handsOut_error

/-- Every pair a request hands out has the property. -/
theorem OfPairs.along (request : Request Token) :
    (request.program app).Along (fun _ _ => True) (HandsOut Outcome.pair? p) [] := by
  have nothing {α : Type} {program : Action α} {result : α → Outcome Token} {trace : Trace Reply}
      (other : ∀ value, (result value).pair? = none) :
      (do return result (← program)).Along (fun _ _ => True) (HandsOut Outcome.pair? p) trace :=
    HandsOut.request other (handsOut_nothing fun _ => rfl)
  have role (operation : RoleOperation) (trace : Trace Reply) :
      (withSession (operation.program app)).Along (fun _ _ => True)
        (HandsOut Outcome.pair? p) trace := by
    apply of.session
    cases operation <;> exact nothing fun _ => rfl
  cases request with
  | loginUser data requestMeta deviceInfo =>
    exact of.session (HandsOut.request (fun _ => rfl) (of.loginUser data requestMeta deviceInfo))
  | refreshTokens token => exact of.session (HandsOut.request (fun _ => rfl) (of.refreshTokens token))
  | logout token => exact of.session (nothing fun _ => rfl)
  | createUser data => exact of.session (nothing fun _ => rfl)
  | createSuperuser email password => exact of.session (nothing fun _ => rfl)
  | getOrCreateDefaultRole => exact nothing fun _ => rfl
  | userEndpoint token operation =>
    apply of.session
    apply Along.bind along_any
    · intro user later _
      cases operation with
      | checkAccess => exact handsOut_user
      | logoutOthers => exact HandsOut.request (fun _ => rfl) (of.logoutOthers user)
      | _ => exact nothing fun _ => rfl
    · exact fun _ _ _ => handsOut_error
  | role operation => exact role operation []
  | roleEndpoint token operation =>
    apply Along.bind along_any
    · exact fun _ later _ => role operation later
    · exact fun _ _ _ => handsOut_error
  | authorize code state requestMeta deviceInfo =>
    exact of.session (HandsOut.request (fun _ => rfl) (of.authorize code state requestMeta deviceInfo))
  | oauthLogin http =>
    exact HandsOut.request (fun _ => rfl) (of.oauthLogin http)
  | confirmLoginYandex http =>
    exact HandsOut.request (fun _ => rfl) (of.confirmLoginYandex http)

end Programs

section Tokens

variable {Token : Type} (app : App Token)

/-- Both tokens are signed, for one user, and carry ids that the request drew. -/
def PairDrawn (trace : Trace Reply) (pair : TokenData Token) : Prop :=
  ∃ userId, ∀ token ∈ [pair.access, pair.refresh], ∃ claims, app.jwt.verify token = some claims ∧
    claims.sub = userId ∧ ⟨.uuid4, claims.jti⟩ ∈ trace

theorem pairDrawn_ofPairs : OfPairs app (PairDrawn app) where
  mono := by
    rintro trace later pair ⟨userId, drawn⟩ grown
    refine ⟨userId, fun token member => ?_⟩
    obtain ⟨claims, verified, sub, draw⟩ := drawn token member
    exact ⟨claims, verified, sub, grown.subset draw⟩
  issues := by
    intro user trace
    refine ⟨trivial, fun accessTime => ?_⟩
    cases claims : resolveRoleClaims user with
    | error error => exact handsOut_error
    | ok roleClaims =>
      refine ⟨trivial, fun accessId => ⟨trivial, fun refreshTime => ⟨trivial, fun refreshId => ?_⟩⟩⟩
      rintro value pair ⟨⟩ ⟨⟩
      refine ⟨user.id, fun token member => ?_⟩
      rcases List.mem_pair.mp member with rfl | rfl
      · exact ⟨_, app.jwt.verify_encode _, rfl, by simp [AccessTokenPayload.modelDump]⟩
      · exact ⟨_, app.jwt.verify_encode _, rfl, by simp [RefreshTokenPayload.modelDump]⟩

/-- A finished request handed out the token, which is one of the user. -/
def IssuedTo (config : ServiceConfig Token) (token : Token) (userId : UUID4) : Prop :=
  ∃ tid value pair claims, (config.threads tid).outcome? = some (.ok value) ∧
    value.pair? = some pair ∧ token ∈ [pair.access, pair.refresh] ∧
    app.jwt.verify token = some claims ∧ claims.sub = userId

variable {app} {world : World} {requests : Tid → Request Token} {config : ServiceConfig Token}

theorem IssuedTo.claims {token : Token} {userId : UUID4} (issued : IssuedTo app config token userId) :
    ∃ claims, app.jwt.verify token = some claims ∧ claims.sub = userId := by
  obtain ⟨_, _, _, claims, _, _, _, verified, sub⟩ := issued
  exact ⟨claims, verified, sub⟩

/-- An id that two requests drew was drawn by one of them only. -/
theorem drawer_eq (run : Reaches answers freshDraws (started app world requests) config)
    {tid other : Tid} {id : UUID4} (first : ⟨.uuid4, id⟩ ∈ traceOf config.past tid)
    (second : ⟨.uuid4, id⟩ ∈ traceOf config.past other) : tid = other := by
  have lawful := (service_course run).lawful
  obtain ⟨newer, event, older, split, rfl, drew, _, _⟩ := seen_event lawful first
  obtain ⟨later, again, rest, cut, rfl, redrew, _, _⟩ := seen_event lawful second
  have drawn : drawnId? event.exchange = some id := by rw [drew]; rfl
  have redrawn : drawnId? again.exchange = some id := by rw [redrew]; rfl
  have once := drawn_once lawful ⟨newer, split.symm⟩ drawn ⟨later, cut.symm⟩ redrawn
  rw [(List.cons.inj once).1]

/-- Two issued tokens with one id belong to one user. -/
theorem issued_owner (run : Reaches answers freshDraws (started app world requests) config)
    {token other : Token} {userId otherId : UUID4} {claims otherClaims : Claims}
    (issued : IssuedTo app config token userId) (verified : app.jwt.verify token = some claims)
    (reissued : IssuedTo app config other otherId) (signed : app.jwt.verify other = some otherClaims)
    (same : claims.jti = otherClaims.jti) : userId = otherId := by
  have course := course_of_along _ _ run fun tid => (pairDrawn_ofPairs app).along (requests tid)
  obtain ⟨tid, value, pair, found, ended, handed, member, opened, rfl⟩ := issued
  obtain ⟨author, result, tokens, seen, finished, given, among, read, rfl⟩ := reissued
  rw [verified] at opened
  rw [signed] at read
  cases opened
  cases read
  obtain ⟨owner, drawn⟩ := course.finished ended value pair rfl handed
  obtain ⟨holder, redrawn⟩ := course.finished finished result tokens rfl given
  obtain ⟨_, opened, sub, draw⟩ := drawn token member
  obtain ⟨_, read, holds, redraw⟩ := redrawn other among
  rw [verified] at opened
  rw [signed] at read
  cases opened
  cases read
  rw [← same] at redraw
  -- the ids were drawn by one request, which has one outcome and so one pair
  obtain rfl := drawer_eq run draw redraw
  rw [ended] at finished
  cases finished
  rw [handed] at given
  cases given
  obtain ⟨_, read, shared, _⟩ := drawn other among
  rw [signed] at read
  cases read
  rw [sub, shared]

end Tokens

end AuthApi
