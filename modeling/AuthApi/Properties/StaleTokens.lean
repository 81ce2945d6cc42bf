import AuthApi.Properties.TokenVersions
import Mathlib.Data.List.TakeWhile

/-! # Tokens with an old version are turned away

When the bump requests of a user do not overlap, no update is lost, so after a bump the stored
version differs from every version read before it. A gate that reads the row after the bump compares
with the new version, whoever issued the token and whenever.
-/

namespace AuthApi

open Interleaving Interleaving.Program Relational

section Gates

variable {Token : Type} {app : App Token}

/-- The calls of a request up to the comparison of versions, and the closing of its session. -/
def Call.checks : Call → Bool
  | .now => true
  | .getUser _ => true
  | .selectUserById _ _ => true
  | .redisGet _ => true
  | .close => true
  | _ => false

/-- The token whose version a request compares with the stored one. -/
def Request.presents? : Request Token → Option Token
  | .userEndpoint accessToken _ => some accessToken
  | .refreshTokens refreshToken => some refreshToken
  | _ => none

/-- The request read the row its token names, and the versions agreed. -/
def VersionMatched (app : App Token) (token : Token) (trace : Trace Reply) : Prop :=
  ∃ claims user exchange, app.jwt.verify token = some claims ∧ exchange ∈ trace ∧
    userRead exchange = some user ∧
    (exchange.request = .getUser claims.sub ∨ exchange.request = .selectUserById claims.sub true) ∧
    claims.tv = user.tokenVersion

theorem VersionMatched.mono {token : Token} {trace later : Trace Reply}
    (matched : VersionMatched app token trace) (grown : trace <:+ later) :
    VersionMatched app token later := by
  obtain ⟨claims, user, exchange, verified, member, rest⟩ := matched
  exact ⟨claims, user, exchange, verified, grown.subset member, rest⟩

/-- Once the versions agreed a program may do anything. -/
private theorem along_matched {α : Type} {program : Action α} {token : Token} {trace : Trace Reply}
    (matched : VersionMatched app token trace) :
    program.Along (fun later call => call.checks = true ∨ VersionMatched app token later)
      (fun later _ => VersionMatched app token later) trace :=
  (along_of_stable (fun _ _ held => held.mono (List.suffix_cons _ _)) matched).mono
    (fun _ _ => .inr) fun _ _ held => held

private theorem refreshTokens_gated (token : Token) (trace : Trace Reply) :
    (AuthService.refreshTokens app token).Along
      (fun later call => call.checks = true ∨ VersionMatched app token later)
      (fun later outcome => (∃ error, outcome = .error error) ∨ VersionMatched app token later)
      trace := by
  refine ⟨.inl rfl, fun decodedAt => ?_⟩
  simp only [done_bind]
  split
  · exact .inl ⟨_, rfl⟩
  · exact .inl ⟨_, rfl⟩
  · next claims decoded =>
    split
    · exact .inl ⟨_, rfl⟩
    · next payload valid =>
      refine ⟨.inl rfl, fun entry => ?_⟩
      cases entry with
      | error error => exact .inl ⟨_, rfl⟩
      | ok entry =>
        simp only [attempt_ok, done_bind, pure_eq]
        split
        · exact .inl ⟨_, rfl⟩
        · refine ⟨.inl rfl, fun found => ?_⟩
          cases found with
          | none => exact .inl ⟨_, rfl⟩
          | some user =>
            simp only [done_bind]
            split
            · next same =>
              refine (along_matched ?_).mono (fun _ _ admitted => admitted) fun _ _ => .inr
              have made := RefreshTokenPayload.modelValidate_eq_some valid
              refine ⟨claims, user, _, (PyJwt.decode_eq_ok.mp decoded).1, List.mem_cons_self, rfl,
                .inr ?_, ?_⟩
              · rw [made]
              · rw [← same, made]
            · exact .inl ⟨_, rfl⟩

/-- A user endpoint and `refresh_tokens` do nothing before the versions agreed. -/
theorem Request.gated {request : Request Token} {token : Token}
    (presents : request.presents? = some token) :
    (request.program app).Along
      (fun trace call => call.checks = true ∨ VersionMatched app token trace)
      (fun trace outcome => (∃ error, outcome = .error error) ∨ VersionMatched app token trace)
      [] := by
  have closed {program : Action (Outcome Token)}
      (along : program.Along (fun trace call => call.checks = true ∨ VersionMatched app token trace)
        (fun trace outcome => (∃ error, outcome = .error error) ∨ VersionMatched app token trace) []) :
      (withSession program).Along
        (fun trace call => call.checks = true ∨ VersionMatched app token trace)
        (fun trace outcome => (∃ error, outcome = .error error) ∨ VersionMatched app token trace)
        [] :=
    along_withSession (fun _ => .inl rfl) <| along.mono (fun _ _ admitted => admitted)
      fun _ _ ends => ends.imp_right fun matched => matched.mono (List.suffix_cons _ _)
  cases request with
  | userEndpoint accessToken operation =>
    cases presents
    refine closed (Along.bind (getTokenUser_along (fun _ => .inl rfl) token
      fun _ _ _ => .inl rfl) ?_ fun error _ _ => .inl ⟨error, rfl⟩)
    rintro user _ ⟨time, payload, accepted, same, rfl⟩
    refine (along_matched ?_).mono (fun _ _ admitted => admitted) fun _ _ => .inr
    obtain ⟨claims, verified, valid⟩ := Option.bind_eq_some_iff.mp accepted.1
    obtain ⟨sub, _, _, tv⟩ := AccessTokenPayload.modelValidate_eq_some valid
    exact ⟨claims, user, _, verified, List.mem_cons_self, rfl, .inl (by rw [sub]),
      by rw [← tv, same]⟩
  | refreshTokens refreshToken =>
    cases presents
    refine closed (Along.bind (refreshTokens_gated token []) ?_ fun error _ _ => .inl ⟨error, rfl⟩)
    rintro pair later (⟨error, ⟨⟩⟩ | matched)
    exact .inr matched
  | _ => cases presents

end Gates

/-- Bump requests of the user do not overlap: when one of them acts, the others that have started
have closed their sessions. -/
def bumpsApart {Token : Type} (app : App Token) (requests : Tid → Request Token) (userId : UUID4) :
    Condition Tid Reply World := fun past event =>
  (requests event.thread).isBumpOf app userId = true →
    ∀ other ∈ past, other.thread ≠ event.thread →
      (requests other.thread).isBumpOf app userId = true →
        ∃ last ∈ past, last.thread = other.thread ∧ last.request = .close

instance {Token : Type} (app : App Token) (requests : Tid → Request Token) (userId : UUID4)
    (past : List ServiceEvent) (event : ServiceEvent) :
    Decidable (bumpsApart app requests userId past event) :=
  inferInstanceAs (Decidable (_ → ∀ other ∈ past, _ → _ → ∃ last ∈ past, _))

section Runs

variable {Token : Type} {app : App Token} {condition : Condition Tid Reply World} {world : World}
  {requests : Tid → Request Token} {older past : List ServiceEvent} {event : ServiceEvent}
  {config : ServiceConfig Token} {userId : UUID4}

/-- Only a bump request of the user bumps the version. -/
private theorem bumper_isBumpOf (lawful : ServiceLawful app condition world requests (event :: older))
    (disciplined : Lawful answers condition (fun tid => (requests tid).Disciplined app) world older)
    (bumped : bumps userId event = true) : (requests event.thread).isBumpOf app userId = true := by
  obtain ⟨_, loaded, _, token, operation, seen, owner, _, _, requested, bumping⟩ :=
    bump_cases lawful.1 bumped
  obtain ⟨newer, read, rest, rfl, mover, reads, _⟩ := own_read lawful.2 seen owner
  have issued := disciplined.event.specified
  rw [mover, requested, reads] at issued
  obtain ⟨⟨payload, carries, sub⟩, _⟩ := issued
  simp [requested, Request.isBumpOf, bumping, carries, sub]

/-- Bump requests that do not overlap lose no update. -/
theorem bumpsApart_fresh
    (lawful : ServiceLawful app (bumpsApart app requests userId) world requests (event :: older))
    (disciplined : Lawful answers (bumpsApart app requests userId)
      (fun tid => (requests tid).Disciplined app) world (event :: older)) :
    noLostUpdate userId older event := by
  intro bumped other window
  obtain ⟨_, loaded, _, token, operation, seen, owner, _, _, requested, _⟩ :=
    bump_cases lawful.1 bumped
  have commits : committed event ≠ [] := by
    intro none
    rw [bumps, none] at bumped
    cases bumped
  have once := commits_once disciplined.1 requested commits
  cases bumpedOther : bumps userId other with
  | false => rfl
  | true =>
    exfalso
    have present : other ∈ older := (List.takeWhile_prefix _).subset window
    by_cases mover : other.thread = event.thread
    · have silent : committed other = [] :=
        (once other.exchange (mem_traceOf.mpr ⟨other, present, mover, rfl⟩)).2
      rw [bumps, silent] at bumpedOther
      cases bumpedOther
    · -- the other request bumped after this one had read its row and before it closed
      obtain ⟨newer, read, rest, split, reader, reads, _⟩ := own_read lawful.2 seen owner
      obtain ⟨front, back, inside⟩ := List.append_of_mem window
      set seenFirst := fun other : ServiceEvent =>
        decide ¬ (other.thread = event.thread ∧ other.request = .getUser userId) with window_eq
      have whole : older = front ++ other :: (back ++ older.dropWhile seenFirst) := by
        rw [← List.cons_append, ← List.append_assoc, ← inside, List.takeWhile_append_dropWhile]
      have earlier : read ∈ back ++ older.dropWhile seenFirst := by
        have member : read ∈ older.takeWhile seenFirst ++ older.dropWhile seenFirst := by
          rw [List.takeWhile_append_dropWhile, split]
          simp
        refine List.mem_append_right _ ((List.mem_append.mp member).resolve_left fun early => ?_)
        have kept := List.mem_takeWhile_imp early
        simp [window_eq, reader, reads] at kept
      have past : ServiceLawful app (bumpsApart app requests userId) world requests
          (other :: (back ++ older.dropWhile seenFirst)) :=
        lawful.2.suffix ⟨front, whole.symm⟩
      have pastDisciplined : Lawful answers (bumpsApart app requests userId)
          (fun tid => (requests tid).Disciplined app) world
          (other :: (back ++ older.dropWhile seenFirst)) :=
        disciplined.2.suffix ⟨front, whole.symm⟩
      obtain ⟨last, member, closer, closing⟩ := past.1.admitted
        (bumper_isBumpOf past pastDisciplined.2 bumpedOther) read earlier
        (by rw [reader]; exact Ne.symm mover)
        (by rw [reader]; exact bumper_isBumpOf lawful disciplined.2 bumped)
      have seenClosed : last ∈ older := by
        rw [whole]
        exact List.mem_append_right _ (List.mem_cons_of_mem _ member)
      exact (once last.exchange
        (mem_traceOf.mpr ⟨last, seenClosed, closer.trans reader, rfl⟩)).1 closing

/-- A SELECT by id returns the row with that id. -/
private theorem read_names {tid : Tid} {before after : World} {exchange : Exchange Reply}
    (answered : answers tid exchange.request before exchange.reply after) {user : UserObject}
    (read : userRead exchange = some user) {id : UUID4}
    (names : exchange.request = .getUser id ∨ exchange.request = .selectUserById id true) :
    user.id = id := by
  obtain ⟨request, reply⟩ := exchange
  obtain rfl | rfl := names
  · obtain ⟨row, here, rfl⟩ := Option.map_eq_some_iff.mp ((answers_getUser answered).symm.trans read)
    exact Database.user?_id here
  · obtain ⟨row, here, rfl⟩ :=
      Option.map_eq_some_iff.mp ((answers_selectUserById answered).symm.trans read)
    exact Database.user?_id here

/-- The token carries a version of the user that some request had read in this history. -/
def CarriesRead (app : App Token) (userId : UUID4) (past : List ServiceEvent) (token : Token) :
    Prop :=
  ∃ claims reader copy, app.jwt.verify token = some claims ∧ claims.sub = userId ∧
    SawUser (traceOf past reader) copy ∧ copy.id = userId ∧ claims.tv = copy.tokenVersion

/-- The request only checked its token, and it returns nothing. -/
def TurnedAway (config : ServiceConfig Token) (gate : Tid) : Prop :=
  (∀ event ∈ config.past, event.thread = gate → event.request.checks = true) ∧
    ∀ value, config.threads gate ≠ .done value

/-- The versions cannot agree on a row read after a bump if the token's was read before it. -/
private theorem not_versionMatched
    (lawful : ServiceLawful app (bumpsApart app requests userId) world requests past)
    (disciplined : Lawful answers (bumpsApart app requests userId)
      (fun tid => (requests tid).Disciplined app) world past)
    {newer : List ServiceEvent} {bump : ServiceEvent} (history : past = newer ++ bump :: older)
    (bumped : bumps userId bump = true) {token : Token} (stale : CarriesRead app userId older token)
    {gate : Tid} (readAfter : ∀ user, ¬ SawUser (traceOf (bump :: older) gate) user) :
    ¬ VersionMatched app token (traceOf past gate) := by
  obtain ⟨claims, reader, copy, verified, sub, readBefore, owner, carries⟩ := stale
  rintro ⟨_, user, exchange, verified', member, read, names, same⟩
  rw [verified] at verified'
  cases verified'
  have grow : VersionsGrow world userId past :=
    versions_grow lawful disciplined fun newer event older split => by
      rw [split] at lawful disciplined
      exact bumpsApart_fresh lawful.append disciplined.append
  obtain ⟨recent, check, rest, split, mover, exchanged, _, answered⟩ := seen_event lawful member
  have named := (read_names answered read names).trans sub
  have now : (stateAfter world rest).version userId = some user.tokenVersion := by
    rw [World.version, ← named, (answers_userRead answered read).1]
    rfl
  obtain ⟨first, suffix, row⟩ := sawUser_state (history ▸ lawful : ServiceLawful app _ world
    requests (newer ++ bump :: older)).append.2 readBefore
  have before : (stateAfter world first).version userId = some copy.tokenVersion := by
    rw [World.version, ← owner, row]
    rfl
  have early : ¬ check :: rest <:+ bump :: older := fun within => readAfter user
    ⟨exchange, mem_traceOf.mpr ⟨check, within.subset List.mem_cons_self, mover, exchanged⟩, read⟩
  have checked : check :: rest <:+ past := ⟨recent, split.symm⟩
  have after : bump :: older <:+ rest := by
    obtain within | after := List.suffix_or_suffix_of_suffix checked ⟨newer, history.symm⟩
    · exact absurd within early
    · exact (List.suffix_cons_iff.mp after).resolve_left fun same =>
        early (same ▸ List.suffix_refl _)
  obtain ⟨between, rfl⟩ := after
  obtain ⟨front, rfl⟩ := suffix
  obtain ⟨last, stored, _, less⟩ := grow (between ++ bump :: front) first copy.tokenVersion
    (by simpa using (List.suffix_cons check _).trans checked) before
  rw [List.append_assoc, List.cons_append, now] at stored
  cases stored
  exact absurd (less ⟨bump, by simp, bumped⟩) (by omega)

/-- The pair of a request that bumped nothing carries a version it had read. -/
private theorem issued_carriesRead (lawful : ServiceLawful app condition world requests past)
    (disciplined : Lawful answers condition (fun tid => (requests tid).Disciplined app) world past)
    {issuer : Tid} (other : (requests issuer).isBumpOf app userId = false) {pair : TokenData Token}
    (issued : IssuedPair app (traceOf past issuer) pair)
    (readBefore : ∀ copy, SawUser (traceOf past issuer) copy → copy.id = userId →
      SawUser (traceOf older issuer) copy) {token : Token}
    (among : token ∈ [pair.access, pair.refresh]) {claims : Claims}
    (verified : app.jwt.verify token = some claims) (sub : claims.sub = userId) :
    CarriesRead app userId older token := by
  obtain ⟨copy, user, saw, id, _, version, pairs⟩ := issued
  obtain ⟨same, carries⟩ := pairs.claims among verified
  have owner : copy.id = userId := by rw [← id, ← same, sub]
  refine ⟨claims, issuer, copy, verified, sub, readBefore copy saw owner, owner, carries.trans ?_⟩
  obtain kept | ⟨_, bumped⟩ := version
  · exact kept
  · obtain ⟨newer, event, rest, rfl, rfl, exchanged, _⟩ := seen_event lawful bumped
    have bumps := bumps_of_next (committed_of_exchange exchanged) rfl owner
    rw [bumper_isBumpOf lawful.append disciplined.append.2 bumps] at other
    cases other

/-- If the bump requests of a user do not overlap, then after a bump a token with a version read
before it is turned away by every request that reads the row after the bump. Pairs of requests that
had read the row before the bump are such tokens, whenever they are handed out. -/
theorem stale_token_turned_away
    (run : Reaches answers (bumpsApart app requests userId) (started app world requests) config)
    {newer older : List ServiceEvent} {bump : ServiceEvent}
    (history : config.past = newer ++ bump :: older) (bumped : bumps userId bump = true) :
    (∀ token gate, CarriesRead app userId older token →
      (requests gate).presents? = some token →
      (∀ user, ¬ SawUser (traceOf (bump :: older) gate) user) → TurnedAway config gate) ∧
    ∀ issuer value pair token claims, config.threads issuer = .done value →
      value.pair? = some pair → token ∈ [pair.access, pair.refresh] →
      app.jwt.verify token = some claims → claims.sub = userId →
      (requests issuer).isBumpOf app userId = false →
      (∀ copy, SawUser (traceOf config.past issuer) copy → copy.id = userId →
        SawUser (traceOf older issuer) copy) → CarriesRead app userId older token := by
  have lawful := (service_course run).lawful
  have disciplined := (course_of_along (fun tid => (requests tid).Disciplined app)
    (fun _ _ _ => True) run fun tid => (requests tid).disciplined app).lawful
  refine ⟨fun token gate stale presents readAfter => ?_, ?_⟩
  · have gates := course_of_along
      (fun tid trace call => (requests tid).presents? = some token →
        call.checks = true ∨ VersionMatched app token trace)
      (fun tid trace outcome => (requests tid).presents? = some token →
        (∃ error, outcome = .error error) ∨ VersionMatched app token trace) run
      fun tid => along_forall fun presents => Request.gated presents
    have unmatched := not_versionMatched lawful disciplined history bumped stale readAfter
    refine ⟨fun event member mover => ?_, fun value ended => ?_⟩
    · obtain ⟨front, back, split⟩ := List.append_of_mem member
      have issued := (split ▸ gates.lawful : Lawful _ _ _ _ (front ++ event :: back)).event.specified
      subst mover
      refine (issued presents).resolve_right fun matched => unmatched (matched.mono ?_)
      rw [split]
      exact traceOf_suffix (List.suffix_append_of_suffix (List.suffix_cons _ _)) _
    · obtain ⟨_, ⟨⟩⟩ | matched := gates.done ended presents
      exact unmatched matched
  · intro issuer value pair token claims ended handed among verified sub other readBefore
    have issued := (course_of_along (fun _ _ _ => True) (fun _ => OutcomeIssued app) run
      fun tid => (requests tid).issues).done ended value pair rfl handed
    exact issued_carriesRead lawful disciplined other issued readBefore among verified sub

end Runs

private def staleRequests : Tid → Request Claims :=
  pool [.loginUser ⟨"admin@example.com", "password"⟩ ⟨none, none⟩ none,
    .userEndpoint (adminAccess 1) (.changePassword ⟨"password", "changed"⟩),
    .userEndpoint (adminAccess 1) .checkAccess]

/-- A bump of the superuser's version, with an earlier read of the row and no call of the check. -/
private def bumpsAfterRead : List ServiceEvent → Bool
  | bump :: older => bumps (numbered 2) bump &&
      (older.any fun event => event.thread = 0 &&
        userRead event.exchange = some { adminRow with role := .loaded none }) &&
      (bump :: older).all fun event => event.thread ≠ 2
  | [] => false

/-- The user row is read, the password changes, the pair is handed out, and its access token is
turned away. -/
theorem stale_token_turned_away_login : ∃ (config : ServiceConfig Claims) (pair : TokenData Claims),
    config.threads 0 = .done (.tokens pair) ∧ pair.access = adminAccess 1 ∧ TurnedAway config 2 := by
  have played : ((started transparentApp bootstrappedWorld staleRequests).playAll World.answer
      (bumpsApart transparentApp staleRequests (numbered 2))
      [move 0, move 1, move 1, move 1, move 1, move 1, move 0, move 0 3, move 0, move 0 4, move 0 5,
        move 0, move 0, move 2, move 2, move 2]).any (fun config =>
      ((returnedPair? (config.threads 0)).any fun pair => pair.access = adminAccess 1) &&
        bumpsAfterRead (config.past.drop 11)) = true := by decide
  obtain ⟨config, run, checked⟩ := Config.playAll_exists played
  rw [Bool.and_eq_true] at checked
  obtain ⟨handed, history⟩ := checked
  obtain ⟨pair, ended, access⟩ := (Option.any_eq_true _ _).mp handed
  cases split : config.past.drop 11 with
  | nil => rw [split] at history; cases history
  | cons bump older =>
    rw [split] at history
    simp only [bumpsAfterRead, Bool.and_eq_true, List.any_eq_true, List.all_eq_true,
      decide_eq_true_iff] at history
    obtain ⟨⟨bumped, event, member, mover, read⟩, others⟩ := history
    have whole : config.past = config.past.take 11 ++ bump :: older := by
      rw [← split, List.take_append_drop]
    refine ⟨config, pair, returnedPair?_eq_some.mp ended, of_decide_eq_true access, ?_⟩
    refine (stale_token_turned_away run whole bumped).1 (adminAccess 1) 2 ?_ rfl ?_
    · exact ⟨_, 0, _, rfl, rfl,
        ⟨event.exchange, mem_traceOf.mpr ⟨event, member, mover, rfl⟩, read⟩, rfl, rfl⟩
    · rintro user ⟨exchange, seen, _⟩
      obtain ⟨event, member, mover, _⟩ := mem_traceOf.mp seen
      exact others event member mover

end AuthApi
