import AuthApi.Run.Keyspace

/-! # Refresh tokens and their blacklist

`refresh_tokens` looks the token up in the blacklist, reads the user and then writes the entry. An
entry outlives its token, so whoever looks it up later and in time is refused; two requests that
both look it up before either writes are both served.
-/

namespace AuthApi

open Interleaving Interleaving.Program AuthService

section Programs

variable {Token : Type} {app : App Token}

/-- The request wrote the blacklist entry of its token. -/
def Rotated (app : App Token) (token : Token) (trace : Trace Reply) : Prop :=
  ∃ claims ttl, app.jwt.verify token = some claims ∧
    ⟨.redisSetex (blacklistKey claims.jti.val.str) ttl (.text "true"), .ok ()⟩ ∈ trace

/-- The blacklist entry is written right after a look-up that found none and a read of the user. -/
def Request.LooksUpFirst (app : App Token) : Request Token → Trace Reply → Call → Prop
  | .refreshTokens token, trace, .redisSetex key _ _ => ∃ claims decodedAt user now,
      app.jwt.decode token decodedAt = .ok claims ∧ key = blacklistKey claims.jti.val.str ∧
        trace = [⟨.now, now⟩, ⟨.selectUserById claims.sub true, some user⟩,
          ⟨.redisGet (blacklistKey claims.jti.val.str), .ok none⟩, ⟨.now, decodedAt⟩]
  | _, _, _ => True

theorem refreshTokens_rotates (token : Token) :
    (AuthService.refreshTokens app token).Along
      (Request.LooksUpFirst app (.refreshTokens token))
      (fun trace outcome => ∀ pair, outcome = .ok pair → Rotated app token trace) [] := by
  refine ⟨trivial, fun decodedAt => ?_⟩
  simp only [done_bind]
  split
  · exact nofun
  · exact nofun
  · next claims decoded =>
    split
    · exact nofun
    · next payload valid =>
      rw [RefreshTokenPayload.modelValidate_eq_some valid]
      refine ⟨trivial, fun entry => ?_⟩
      cases entry with
      | error error => exact nofun
      | ok entry =>
        simp only [attempt_ok, done_bind, pure_eq]
        cases entry with
        | some entry => exact nofun
        | none =>
          refine ⟨trivial, fun found => ?_⟩
          cases found with
          | none => exact nofun
          | some user =>
            simp only [done_bind]
            split
            · refine ⟨trivial, fun now => ⟨?_, fun reply => ?_⟩⟩
              · exact ⟨claims, decodedAt, user, now, decoded, rfl, rfl⟩
              · cases reply with
                | error error => exact nofun
                | ok _ =>
                  refine (issueTokenPair_along (fun _ => trivial) (fun _ => trivial) user).mono
                    (fun _ _ admitted => admitted) fun later outcome ends pair _ => ?_
                  exact ⟨claims, _, (PyJwt.decode_eq_ok.mp decoded).1,
                    ends.1.subset List.mem_cons_self⟩
            · exact nofun

/-- `logout` returns after writing the entry, or because the token has expired meanwhile. -/
theorem logout_revokes (token : Token) (trace : Trace Reply) :
    (AuthService.logout app token).Along (fun _ _ => True)
      (fun later outcome => outcome = .ok () → Rotated app token later ∨
        ∃ claims now, app.jwt.verify token = some claims ∧ ⟨.now, now⟩ ∈ later ∧
          claims.exp ≤ Time.seconds now) trace := by
  refine ⟨trivial, fun decodedAt => ?_⟩
  simp only [done_bind]
  split
  · exact nofun
  · next claims decoded =>
    split
    · exact nofun
    · next payload valid =>
      rw [RefreshTokenPayload.modelValidate_eq_some valid]
      have verified := (PyJwt.decode_eq_ok.mp decoded).1
      refine ⟨trivial, fun now => ?_⟩
      simp only [done_bind]
      split
      · next spent =>
        exact fun _ => .inr ⟨claims, now, verified, List.mem_cons_self, by omega⟩
      · refine ⟨trivial, fun reply => ?_⟩
        cases reply with
        | error error => exact nofun
        | ok _ => exact fun _ => .inl ⟨claims, _, verified, List.mem_cons_self⟩

theorem Rotated.mono {token : Token} {trace later : Trace Reply} (rotated : Rotated app token trace)
    (grown : trace <:+ later) : Rotated app token later := by
  obtain ⟨claims, ttl, verified, stored⟩ := rotated
  exact ⟨claims, ttl, verified, grown.subset stored⟩

theorem Request.looksUpFirst (app : App Token) (request : Request Token) :
    (request.program app).Along (request.LooksUpFirst app)
      (fun trace outcome => ∀ token value, request = .refreshTokens token → outcome = .ok value →
        Rotated app token trace) [] := by
  cases request with
  | refreshTokens token =>
    refine along_withSession (fun _ => trivial) (Along.bind (refreshTokens_rotates token) ?_ ?_)
    · rintro pair later rotated _ _ ⟨⟩ _
      exact (rotated pair rfl).mono (List.suffix_cons _ _)
    · exact fun _ _ _ => nofun
  | _ => exact along_any.mono (fun _ _ _ => trivial) fun _ _ _ => nofun

/-- How a request that returned has dealt with the refresh token it was given. -/
theorem Request.revokes (request : Request Token) :
    (request.program app).Along (fun _ _ => True)
      (fun trace outcome => ∀ token value, request.revokes? = some token → outcome = .ok value →
        Rotated app token trace ∨ ∃ claims now, app.jwt.verify token = some claims ∧
          ⟨.now, now⟩ ∈ trace ∧ claims.exp ≤ Time.seconds now) [] := by
  cases request with
  | refreshTokens token =>
    refine (Request.looksUpFirst app (.refreshTokens token)).mono (fun _ _ _ => trivial) ?_
    rintro trace outcome rotated _ value ⟨⟩ ended
    exact .inl (rotated token value rfl ended)
  | logout token =>
    refine along_withSession (fun _ => trivial) (Along.bind (logout_revokes token []) ?_ ?_)
    · rintro _ later ends _ _ ⟨⟩ _
      obtain rotated | ⟨claims, now, verified, seen, spent⟩ := ends rfl
      · exact .inl (rotated.mono (List.suffix_cons _ _))
      · exact .inr ⟨claims, now, verified, List.mem_cons_of_mem _ seen, spent⟩
    · exact fun _ _ _ => nofun
  | _ => exact along_any.mono (fun _ _ _ => trivial) fun _ _ _ => nofun

end Programs

section Runs

variable {Token : Type} {app : App Token} {condition : Condition Tid Reply World} {world : World}
  {requests : Tid → Request Token} {older past : List ServiceEvent} {event : ServiceEvent}
  {earlier config : ServiceConfig Token}

/-- The look-up of the token's blacklist entry. -/
abbrev blacklistLookup (claims : Claims) : Call := .redisGet (blacklistKey claims.jti.val.str)

private theorem rotated_event {tid : Tid} {token : Token} {claims : Claims}
    (verified : app.jwt.verify token = some claims) (rotated : Rotated app token (traceOf past tid)) :
    ∃ (newer : List ServiceEvent) (event : ServiceEvent) (older : List ServiceEvent),
      past = newer ++ event :: older ∧ event.thread = tid ∧
        blacklists claims.jti event.exchange = true := by
  obtain ⟨_, ttl, verified', stored⟩ := rotated
  rw [verified] at verified'
  cases verified'
  obtain ⟨event, member, mover, same⟩ := mem_traceOf.mp stored
  obtain ⟨newer, older, rfl⟩ := List.append_of_mem member
  exact ⟨newer, event, older, rfl, mover, by rw [same]; simp [blacklists]⟩

/-- The look-up a rotation rests on, the only one of its request. -/
private theorem lookup_event {specs : Tid → Trace Reply → Call → Prop}
    (lawful : Lawful answers condition specs world older)
    (looksUp : LawfulEvent answers condition (fun tid => (requests tid).LooksUpFirst app) world older
      event) {token : Token} (requested : requests event.thread = .refreshTokens token)
    {claims : Claims} (verified : app.jwt.verify token = some claims)
    (wrote : blacklists claims.jti event.exchange = true) :
    ∃ (newer : List ServiceEvent) (read : ServiceEvent) (rest : List ServiceEvent),
      older = newer ++ read :: rest ∧ read.thread = event.thread ∧
      read.exchange = ⟨blacklistLookup claims, .ok none⟩ ∧
      (∀ other ∈ newer, ¬ (other.thread = event.thread ∧ other.request = blacklistLookup claims)) ∧
      answers event.thread (blacklistLookup claims) (stateAfter world rest) (.ok none) read.after := by
  obtain ⟨found, decodedAt, user, now, decoded, trace⟩ : ∃ found decodedAt user now,
      app.jwt.decode token decodedAt = .ok found ∧ traceOf older event.thread =
        [⟨.now, now⟩, ⟨.selectUserById found.sub true, some user⟩, ⟨blacklistLookup found, .ok none⟩,
          ⟨.now, decodedAt⟩] := by
    obtain ⟨thread, request, reply, before, after⟩ := event
    cases request with
    | redisSetex key ttl value =>
      have issued := looksUp.specified
      simp only [requested, Request.LooksUpFirst] at issued
      obtain ⟨found, decodedAt, user, now, decoded, _, trace⟩ := issued
      exact ⟨found, decodedAt, user, now, decoded, trace⟩
    | _ => cases wrote
  have same := (PyJwt.decode_eq_ok.mp decoded).1.symm.trans verified
  cases same
  have seen : ⟨blacklistLookup claims, .ok none⟩ ∈ traceOf older event.thread := by
    rw [trace]
    simp
  obtain ⟨newer, read, rest, rfl, mover, exchanged, _, answered⟩ := seen_event lawful seen
  refine ⟨newer, read, rest, rfl, mover, exchanged, ?_, answered⟩
  rintro other member ⟨same, again⟩
  -- a second look-up would show up in the trace
  let isLookup (exchange : Exchange Reply) : Bool := exchange.request = blacklistLookup claims
  have once : (traceOf (newer ++ read :: rest) event.thread).countP isLookup = 1 := by
    rw [trace]
    simp [isLookup]
  have first : 0 < (traceOf newer event.thread).countP isLookup := List.countP_pos_iff.mpr
    ⟨other.exchange, mem_traceOf.mpr ⟨other, member, same, rfl⟩, decide_eq_true again⟩
  have second : 0 < (traceOf (read :: rest) event.thread).countP isLookup := List.countP_pos_iff.mpr
    ⟨read.exchange, mem_traceOf.mpr ⟨read, List.mem_cons_self, mover, rfl⟩, by
      rw [exchanged]; simp [isLookup]⟩
  rw [traceOf_append, List.countP_append] at once
  omega

/-- A request is not served if its look-up came, in time, after a revocation of its token. -/
private theorem served_not_after {newer : List ServiceEvent} {tid : Tid} {claims : Claims}
    (lawful : ServiceLawful app condition world requests (newer ++ older))
    (unique : ∀ tid token found, (requests tid).revokes? = some token →
      app.jwt.verify token = some found → found.jti = claims.jti → found.exp = claims.exp)
    (covered : Blacklisted (stateAfter world older) claims.jti claims.exp) {after : World}
    (timely : (after.clock : ℤ) ≤ claims.exp * 1000000)
    (answered : answers tid (blacklistLookup claims) (stateAfter world (newer ++ older)) (.ok none) after) :
    False := by
  have found := lookup_finds
    (blacklisted_kept lawful unique (List.suffix_append newer older) covered) timely answered
  cases found

/-- When a request writes the entry of this token nobody has written it since the request looked it
up, and a look-up that follows such a write comes before the token expires. -/
def rotatesAlone (app : App Token) (token : Token) : Condition Tid Reply World := fun past event =>
  ∀ claims ∈ app.jwt.verify token,
    (blacklists claims.jti event.exchange = true →
      ∀ other ∈ past.takeWhile fun other =>
        ¬ (other.thread = event.thread ∧ other.request = blacklistLookup claims),
      blacklists claims.jti other.exchange = false) ∧
    (event.request = blacklistLookup claims →
      (∃ other ∈ past, blacklists claims.jti other.exchange = true) →
      (event.after.clock : ℤ) ≤ claims.exp * 1000000)

instance (app : App Token) (token : Token) (past : List ServiceEvent) (event : ServiceEvent) :
    Decidable (rotatesAlone app token past event) :=
  inferInstanceAs (Decidable (∀ claims ∈ app.jwt.verify token, _))

/-- The later of two revocations of one token would have been refused. -/
private theorem later_revocation {token : Token} {claims : Claims}
    (verified : app.jwt.verify token = some claims)
    (same : ∀ tid, requests tid = .refreshTokens token)
    (lawful : ServiceLawful app (rotatesAlone app token) world requests (event :: older))
    (looksUp : LawfulEvent answers (rotatesAlone app token)
      (fun tid => (requests tid).LooksUpFirst app) world older event)
    (wrote : blacklists claims.jti event.exchange = true) {first : ServiceEvent}
    (earlier : first ∈ older) (wroteFirst : blacklists claims.jti first.exchange = true) : False := by
  have unique (tid : Tid) (other : Token) (found : Claims)
      (presented : (requests tid).revokes? = some other) (carries : app.jwt.verify other = some found)
      (_ : found.jti = claims.jti) : found.exp = claims.exp := by
    rw [same tid] at presented
    cases presented
    rw [verified] at carries
    cases carries
    rfl
  obtain ⟨newer, read, rest, rfl, _, exchanged, fresh, answered⟩ :=
    lookup_event lawful.2 looksUp (same _) verified wrote
  rcases List.mem_append.mp earlier with between | before
  · have silent := (lawful.1.admitted claims verified).1 wrote first (by
      rw [List.takeWhile_append_of_pos fun other member => by
        simpa only [decide_eq_true_iff] using fresh other member]
      exact List.mem_append_left _ between)
    rw [wroteFirst] at silent
    cases silent
  · obtain rfl | before := List.mem_cons.mp before
    · rw [exchanged] at wroteFirst
      cases wroteFirst
    · obtain ⟨middle, last, rfl⟩ := List.append_of_mem before
      have history := lawful.2.append.2
      have covered := blacklisted_of_revokes history.append (unique first.thread)
        (revokes_of_blacklists history.append.1 wroteFirst)
      exact served_not_after history unique covered
        ((lawful.2.event.admitted claims verified).2 (congrArg Exchange.request exchanged)
          ⟨first, before, wroteFirst⟩) answered

/-- Requests that refresh one token, each of them writing its entry before any other that has not
looked it up since, and looking it up before it expires once one was written: at most one succeeds. -/
theorem refresh_served_once {token : Token} (same : ∀ tid, requests tid = .refreshTokens token)
    (run : Reaches answers (rotatesAlone app token) (started app world requests) config)
    {first second : Tid} {value other : Outcome Token} (served : config.threads first = .done value)
    (servedToo : config.threads second = .done other) : first = second := by
  have lawful := (service_course run).lawful
  have course := course_of_along (fun tid => (requests tid).LooksUpFirst app)
    (fun tid trace outcome => ∀ token value, requests tid = .refreshTokens token →
      outcome = .ok value → Rotated app token trace) run fun tid => (requests tid).looksUpFirst app
  have rotated := course.done served token value (same first) rfl
  have rotatedToo := course.done servedToo token other (same second) rfl
  obtain ⟨claims, ttl, verified, _⟩ := rotated
  obtain ⟨newer, event, older, split, mover, wrote⟩ :=
    rotated_event verified (course.done served token value (same first) rfl)
  obtain ⟨newer', event', older', split', mover', wrote'⟩ := rotated_event verified rotatedToo
  have position : event :: older = event' :: older' := by
    refine eq_of_unique (p := fun event _ => blacklists claims.jti event.exchange = true) ?_
      ⟨newer, split.symm⟩ wrote ⟨newer', split'.symm⟩ wrote'
    intro event older earlier rest suffix wrote within wroteFirst
    exact later_revocation verified same (lawful.suffix suffix) (course.lawful.suffix suffix).1 wrote
      (within.subset List.mem_cons_self) wroteFirst
  rw [← mover, ← mover', (List.cons.inj position).1]

/-- A request that has dealt with a live token has put it on the blacklist for the rest of its life. -/
private theorem revoked_blacklisted {token : Token} {claims : Claims}
    (verified : app.jwt.verify token = some claims)
    (unique : ∀ tid other found, (requests tid).revokes? = some other →
      app.jwt.verify other = some found → found.jti = claims.jti → found.exp = claims.exp)
    (run : Reaches answers condition (started app world requests) earlier) {first : Tid}
    (presented : (requests first).revokes? = some token) {value : Outcome Token}
    (ended : earlier.threads first = .done value)
    (alive : (earlier.now.clock : ℤ) < claims.exp * 1000000) :
    Blacklisted (stateAfter world earlier.past) claims.jti claims.exp := by
  have course := service_course run
  obtain rotated | ⟨found, now, verified', seen, spent⟩ := (course_of_along (fun _ _ _ => True)
      _ run fun tid => (requests tid).revokes).done ended token value presented rfl
  · obtain ⟨newer, event, older, split, _, wrote⟩ := rotated_event verified rotated
    have suffix : event :: older <:+ earlier.past := ⟨newer, split.symm⟩
    have lawful := course.lawful.suffix suffix
    exact blacklisted_kept course.lawful unique suffix
      (blacklisted_of_revokes lawful (unique _) (revokes_of_blacklists lawful.1 wrote))
  · rw [verified] at verified'
    cases verified'
    have late : (now : ℤ) ≤ earlier.now.clock :=
      Int.ofNat_le.mpr (course.now_eq ▸ saw_now course.lawful seen)
    unfold Time.seconds at spent
    omega

/-- A live token that was refreshed or logged out is not refreshed again by a request that starts
later, provided its look-up comes before the token expires; and whatever Redis commands fail, a
request that refreshed has put the token on the blacklist. -/
theorem revoked_token_refused {token : Token} {claims : Claims}
    (verified : app.jwt.verify token = some claims)
    (unique : ∀ tid other found, (requests tid).revokes? = some other →
      app.jwt.verify other = some found → found.jti = claims.jti → found.exp = claims.exp)
    (run : Reaches answers condition (started app world requests) earlier)
    (rest : Reaches answers condition earlier config) :
    (∀ first value later, (requests first).revokes? = some token →
      earlier.threads first = .done value → (earlier.now.clock : ℤ) < claims.exp * 1000000 →
      requests later = .refreshTokens token → (∀ event ∈ earlier.past, event.thread ≠ later) →
      (∀ event ∈ config.past, event.thread = later → event.request = blacklistLookup claims →
        (event.after.clock : ℤ) ≤ claims.exp * 1000000) →
      ∀ other, config.threads later ≠ .done other) ∧
    ∀ tid value, requests tid = .refreshTokens token → config.threads tid = .done value →
      ∃ event ∈ config.past, event.thread = tid ∧ blacklists claims.jti event.exchange = true ∧
        Blacklisted event.after claims.jti claims.exp := by
  have course := service_course (run.trans rest)
  have looksUp := course_of_along (fun tid => (requests tid).LooksUpFirst app) _ (run.trans rest)
    fun tid => (requests tid).looksUpFirst app
  have written {tid : Tid} {value : Outcome Token} (again : requests tid = .refreshTokens token)
      (served : config.threads tid = .done value) :
      ∃ newer event older, config.past = newer ++ event :: older ∧ event.thread = tid ∧
        blacklists claims.jti event.exchange = true :=
    rotated_event verified (looksUp.done served token value again rfl)
  constructor
  · intro first value later presented ended alive again starts timely other served
    obtain ⟨newer, event, older, split, mover, wrote⟩ := written again served
    have suffix : event :: older <:+ config.past := ⟨newer, split.symm⟩
    subst mover
    obtain ⟨middle, read, past, rfl, mover, exchanged, _, answered⟩ :=
      lookup_event (course.lawful.suffix suffix).2 (looksUp.lawful.suffix suffix).1 again verified wrote
    have member : read ∈ config.past := by simp [split]
    have grown : earlier.past <:+ (newer ++ event :: middle) ++ read :: past := by
      have grown : earlier.past <:+ config.past := rest.extends
      simpa [split] using grown
    have before : earlier.past <:+ past :=
      suffix_of_not_mem grown fun early => starts read early mover
    obtain ⟨between, rfl⟩ := before
    have lawful : ServiceLawful app condition world requests (between ++ earlier.past) :=
      course.lawful.suffix ⟨newer ++ event :: (middle ++ [read]), by simp [split]⟩
    exact served_not_after lawful unique
      (revoked_blacklisted verified unique run presented ended alive)
      (timely read member mover (congrArg Exchange.request exchanged)) answered
  · intro tid value again served
    obtain ⟨newer, event, older, split, mover, wrote⟩ := written again served
    have suffix : event :: older <:+ config.past := ⟨newer, split.symm⟩
    have lawful := course.lawful.suffix suffix
    refine ⟨event, suffix.subset List.mem_cons_self, mover, wrote, ?_⟩
    refine blacklisted_of_revokes lawful (fun other found presented carries _ => ?_)
      (revokes_of_blacklists lawful.1 wrote)
    rw [mover, again] at presented
    cases presented
    rw [verified] at carries
    cases carries
    rfl

end Runs

/-- The second of two refreshes in a row is refused. -/
theorem refresh_served_once_sequential : ∃ config : ServiceConfig Claims,
    (∃ pair, config.threads 0 = .done (.tokens pair)) ∧
      ∀ tid value, config.threads tid = .done value → tid = 0 := by
  have played : ((started transparentApp bootstrappedWorld fun _ => .refreshTokens adminRefresh).playAll
      World.answer (rotatesAlone transparentApp adminRefresh)
      (List.replicate 10 (move 0) ++ List.replicate 3 (move 1))).any (fun config =>
        (returnedPair? (config.threads 0)).isSome) = true := by decide
  obtain ⟨config, run, served⟩ := Config.playAll_exists played
  obtain ⟨pair, ended⟩ := Option.isSome_iff_exists.mp served
  have ended := returnedPair?_eq_some.mp ended
  exact ⟨config, ⟨pair, ended⟩, fun tid value finished =>
    refresh_served_once (fun _ => rfl) run finished ended⟩

/-- Two requests look the token up before either writes its entry, and both are served. -/
theorem refresh_served_twice : ∃ (token : Claims) (requests : Tid → Request Claims)
    (config : ServiceConfig Claims) (first second : Tid) (pair other : TokenData Claims),
    (∀ tid, requests tid = .refreshTokens token) ∧
      Reaches answers unrestricted (started transparentApp bootstrappedWorld requests) config ∧
      first ≠ second ∧ config.threads first = .done (.tokens pair) ∧
      config.threads second = .done (.tokens other) := by
  have played : ((started transparentApp bootstrappedWorld fun _ => .refreshTokens adminRefresh).playAll
      World.answer unrestricted ([move 0, move 0, move 1, move 1] ++ List.replicate 8 (move 0) ++
        List.replicate 8 (move 1))).any (fun config =>
        (returnedPair? (config.threads 0)).isSome && (returnedPair? (config.threads 1)).isSome) =
      true := by decide
  obtain ⟨config, run, served⟩ := Config.playAll_exists played
  rw [Bool.and_eq_true, Option.isSome_iff_exists, Option.isSome_iff_exists] at served
  obtain ⟨⟨pair, ended⟩, other, endedToo⟩ := served
  exact ⟨adminRefresh, fun _ => .refreshTokens adminRefresh, config, 0, 1, pair, other,
    fun _ => rfl, run, by decide, returnedPair?_eq_some.mp ended, returnedPair?_eq_some.mp endedToo⟩

/-- A refresh in time after a refresh is refused, and the first one left its entry. -/
theorem revoked_token_refused_refresh : ∃ config : ServiceConfig Claims,
    (∀ value, config.threads 1 ≠ .done value) ∧
      ∃ event ∈ config.past, event.thread = 0 ∧
        blacklists adminRefresh.jti event.exchange = true ∧
        Blacklisted event.after adminRefresh.jti adminRefresh.exp := by
  have played : ((started transparentApp bootstrappedWorld fun _ => .refreshTokens adminRefresh).playAll
      World.answer unrestricted (List.replicate 10 (move 0))).any (fun earlier =>
        (earlier.playAll World.answer unrestricted (List.replicate 3 (move 1))).any fun config =>
          (earlier.threads 0).value?.isSome && (config.threads 0).value?.isSome &&
          decide ((earlier.now.clock : ℤ) < adminRefresh.exp * 1000000) &&
          (earlier.past.all fun event => event.thread ≠ 1) &&
          config.past.all fun event => (event.after.clock : ℤ) ≤ adminRefresh.exp * 1000000) = true := by
    decide
  obtain ⟨earlier, config, run, rest, checked⟩ := Config.playAll_exists_exists played
  simp only [Bool.and_eq_true, decide_eq_true_iff, List.all_eq_true, Option.isSome_iff_exists,
    value?_eq_some] at checked
  obtain ⟨⟨⟨⟨⟨value, ended⟩, other, served⟩, alive⟩, starts⟩, timely⟩ := checked
  have verified : transparentApp.jwt.verify adminRefresh = some adminRefresh := rfl
  obtain ⟨refused, written⟩ :=
    revoked_token_refused verified (by rintro _ _ _ ⟨⟩ ⟨⟩ _; rfl) run rest
  exact ⟨config, refused 0 value 1 rfl ended alive rfl starts fun event member _ _ =>
    timely event member, written 0 other rfl served⟩

/-- A refresh that decodes the token just before it expires and looks it up just after the entry has
gone is served, although the token was logged out. -/
theorem refresh_served_after_logout : ∃ (token : Claims) (requests : Tid → Request Claims)
    (earlier config : ServiceConfig Claims) (first later : Tid) (value other : Outcome Claims),
    Reaches answers unrestricted (started transparentApp bootstrappedWorld requests) earlier ∧
      Reaches answers unrestricted earlier config ∧
      requests first = .logout token ∧ earlier.threads first = .done value ∧
      (earlier.now.clock : ℤ) < token.exp * 1000000 ∧ requests later = .refreshTokens token ∧
      (∀ event ∈ earlier.past, event.thread ≠ later) ∧ config.threads later = .done other := by
  have played : ((started transparentApp bootstrappedWorld
      (pool [.logout adminRefresh, .refreshTokens adminRefresh])).playAll World.answer unrestricted
      [(0, { delay := 2591998000000 }), move 0, move 0, move 0]).any (fun earlier =>
        (earlier.playAll World.answer unrestricted ([(1, { delay := 1000000 }),
          (1, { delay := 2000000 })] ++ List.replicate 8 (move 1))).any fun config =>
          (earlier.threads 0).value?.isSome && (config.threads 1).value?.isSome &&
          decide ((earlier.now.clock : ℤ) < adminRefresh.exp * 1000000) &&
          earlier.past.all fun event => event.thread ≠ 1) = true := by decide
  obtain ⟨earlier, config, run, rest, checked⟩ := Config.playAll_exists_exists played
  simp only [Bool.and_eq_true, decide_eq_true_iff, List.all_eq_true, Option.isSome_iff_exists,
    value?_eq_some] at checked
  obtain ⟨⟨⟨⟨value, ended⟩, other, served⟩, alive⟩, starts⟩ := checked
  exact ⟨adminRefresh, _, earlier, config, 0, 1, value, other, run, rest, rfl, ended, alive, rfl,
    starts, served⟩

end AuthApi
