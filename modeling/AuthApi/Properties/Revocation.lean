import AuthApi.Run.Issuance
import AuthApi.Run.Versions

/-! # Revoking the tokens of a superuser

A bump of `token_version` revokes every token issued before it on the endpoints behind
`get_token_user`. The role endpoints are behind `ensure_superuser`, which decides from the token
alone, so there a superuser's token works until it expires.
-/

namespace AuthApi

open Interleaving Interleaving.Program

section Gate

variable {Token : Type} {app : App Token}

/-- The role gate lets the token pass at a time. -/
def App.opensRoleGate (app : App Token) (token : Token) (now : Time) : Prop :=
  ∃ payload, app.acceptsAt token now payload ∧ payload.isSuperuser = true

/-- The request was refused with a credentials error. -/
def Refused {α : Type} (outcome : Except Exn α) : Prop :=
  ∃ detail, outcome = .error (.httpException (credentialsHttpException detail))

/-- No operation raises the error of the gate. -/
theorem RoleEnds.unrefused {α : Type} {operation : RoleOperation} {trace : Trace Reply}
    {outcome : Except Exn α} (ends : RoleEnds app operation trace outcome) : ¬ Refused outcome := by
  rintro ⟨detail, rfl⟩
  cases ends with
  | reported _ reports _ =>
    have known := reports.1
    simp at known

/-- The first thing the request did was to read this time. -/
def decidedAt (trace : Trace Reply) (time : Time) : Prop := [⟨.now, time⟩] <:+ trace

/-- A role endpoint refuses its caller exactly if the gate does not open for the token when the
request starts; nothing it does later can refuse the credentials. -/
theorem roleEndpoint_along (token : Token) (operation : RoleOperation) :
    ((Request.roleEndpoint token operation).program app).Along (fun _ _ => True)
      (fun trace outcome => ∃ time, decidedAt trace time ∧
        (Refused outcome ↔ ¬ app.opensRoleGate token time)) [] := by
  apply Along.bind (ensureSuperuser_along (fun _ => trivial) token)
  · rintro _ _ ⟨time, rfl, opened⟩
    have quiet : operation.Quiet app [⟨.now, time⟩] := by
      simp [RoleOperation.Quiet, RoleOperation.escapedCommit, RoleOperation.unstorable]
    apply along_withSession fun _ => trivial
    apply (operation.ends quiet).extends.mono fun _ _ _ => trivial
    rintro last outcome ⟨ends, grown⟩
    refine ⟨time, grown.trans (List.suffix_cons _ _), ?_⟩
    exact iff_of_false ends.unrefused (not_not_intro opened)
  · rintro error _ ⟨time, rfl, closed, detail, rfl⟩
    refine ⟨time, List.suffix_refl _, iff_of_true ⟨detail, rfl⟩ ?_⟩
    rintro ⟨payload, accepted, flag⟩
    rw [closed payload accepted] at flag
    cases flag

end Gate

section Runs

variable {Token : Type} {app : App Token} {world : World} {requests : Tid → Request Token}
  {earlier config : ServiceConfig Token}

/-- The access token of an issued pair opens the role gate from its issue to its expiry. -/
private theorem issued_opens {issue past : List ServiceEvent} {tid : Tid}
    (lawful : ServiceLawful app unrestricted world requests past) (suffix : issue <:+ past)
    {pair : TokenData Token} (issued : IssuedPair app (traceOf issue tid) pair)
    {payload : AccessTokenPayload} (carries : app.accessPayload pair.access = some payload)
    {admin : User} (found : (stateAfter world past).db.user? payload.sub = some admin)
    (superuser : admin.isSuperuser = true) {time : Time}
    (after : (stateAfter world issue).clock ≤ time) :
    app.opensRoleGate pair.access time ↔ (time : ℤ) < payload.exp * 1000000 := by
  obtain ⟨copy, user, saw, id, flag, _, accessTime, _, jti, _, roleClaims, seen, _, _, made, _⟩ := issued
  have claims : payload = ⟨user.id, Time.seconds accessTime, Time.seconds accessTime +
      app.jwtSettings.accessTokenExpireMinutes * 60, jti, user.tokenVersion, user.isSuperuser,
      roleClaims.1, roleClaims.2⟩ := by
    rw [made, App.accessPayload, app.jwt.verify_encode, accessClaims] at carries
    exact (Option.some.inj ((AccessTokenPayload.modelValidate_modelDump _).symm.trans carries)).symm
  have marked : payload.isSuperuser = true := by
    obtain ⟨older, before, read⟩ := sawUser_state (lawful.suffix suffix) saw
    obtain ⟨row, here, same⟩ := flags_kept lawful (before.trans suffix) _ _ read
    rw [claims, id, here] at found
    cases found
    rw [claims, flag, ← superuser, same]
  have issuedBefore : payload.iat * 1000000 ≤ (time : ℤ) := by
    have seenBefore := le_trans (saw_now (lawful.suffix suffix) seen) after
    have rounded := Nat.div_mul_le_self accessTime 1000000
    rw [claims]
    simp only [Time.seconds]
    exact_mod_cast le_trans rounded seenBefore
  constructor
  · rintro ⟨other, ⟨carries', _, late⟩, _⟩
    rw [carries] at carries'
    cases carries'
    exact late
  · exact fun late => ⟨payload, ⟨carries, issuedBefore, late⟩, marked⟩

/-- A superuser's access token was handed out, then a bump of that user committed, and then the
token was presented to a role endpoint. -/
structure PresentedStale (app : App Token) (requests : Tid → Request Token)
    (earlier config : ServiceConfig Token) (token : Token) (payload : AccessTokenPayload)
    (gate : Tid) : Prop where
  issued : ∃ issuer value pair, earlier.threads issuer = .done value ∧
    Outcome.pair? value = some pair ∧ pair.access = token
  carries : app.accessPayload token = some payload
  superuser : ∃ admin, config.now.db.user? payload.sub = some admin ∧ admin.isSuperuser = true
  bumped : ∃ newer bump older, config.past = newer ++ bump :: older ∧
    bumps payload.sub bump = true ∧ earlier.past <:+ older ∧
    ∀ event ∈ bump :: older, event.thread ≠ gate
  presents : ∃ operation, requests gate = .roleEndpoint token operation

/-- A role endpoint refuses such a token exactly from its expiry on: the new token version makes no
difference to it. -/
theorem roleEndpoint_refuses_iff_expired
    (run : Reaches answers unrestricted (started app world requests) earlier)
    (rest : Reaches answers unrestricted earlier config) {token : Token}
    {payload : AccessTokenPayload} {gate : Tid}
    (stale : PresentedStale app requests earlier config token payload gate)
    {outcome : Except Exn (Outcome Token)}
    (finished : (config.threads gate).outcome? = some outcome) :
    ∃ time, decidedAt (traceOf config.past gate) time ∧
      (Refused outcome ↔ payload.exp * 1000000 ≤ (time : ℤ)) := by
  obtain ⟨issuer, value, pair, ended, handed, rfl⟩ := stale.issued
  obtain ⟨admin, found, superuser⟩ := stale.superuser
  obtain ⟨newer, bump, older, history, _, before, late⟩ := stale.bumped
  obtain ⟨operation, presents⟩ := stale.presents
  have course := service_course (run.trans rest)
  have issued := (course_of_along (fun _ _ _ => True) (fun _ => OutcomeIssued app) run
    fun tid => (requests tid).issues).done ended value pair rfl handed
  have gates := course_of_along (fun _ _ _ => True)
    (fun tid trace outcome => ∀ token operation, requests tid = .roleEndpoint token operation →
      ∃ time, decidedAt trace time ∧ (Refused outcome ↔ ¬ app.opensRoleGate token time))
    (run.trans rest) fun tid => by
      refine along_ends fun token => along_ends fun operation => along_ends fun presents => ?_
      rw [presents]
      exact roleEndpoint_along token operation
  obtain ⟨time, decided, refused⟩ := gates.finished finished _ _ presents
  refine ⟨time, decided, refused.trans ?_⟩
  have after : (stateAfter world earlier.past).clock ≤ time := by
    obtain ⟨recent, check, rest, split, mover, same, _, answered⟩ :=
      seen_event course.lawful (decided.subset List.mem_cons_self)
    have moment : time = check.after.clock := answers_now answered
    have checked : check :: rest <:+ config.past := split ▸ List.suffix_append _ _
    have bumped : bump :: older <:+ config.past := history ▸ List.suffix_append _ _
    rw [moment]
    obtain early | ordered := List.suffix_or_suffix_of_suffix checked bumped
    · exact absurd mover (late check (early.subset List.mem_cons_self))
    · exact clock_mono (course.lawful.suffix checked)
        ((before.trans (List.suffix_cons _ _)).trans ordered)
  rw [issued_opens course.lawful ?_ issued stale.carries (course.now_eq ▸ found) superuser after]
  · omega
  · rw [history]
    exact (before.trans (List.suffix_cons _ _)).trans (List.suffix_append _ _)

end Runs

private def adminRequests : Tid → Request Claims :=
  pool [.loginUser ⟨"admin@example.com", "password"⟩ ⟨none, none⟩ none,
    .userEndpoint (adminAccess 1) (.changePassword ⟨"password", "changed"⟩),
    .roleEndpoint (adminAccess 1) .getAllRoles]

/-- A bump of the superuser's version, with no call of the role endpoint up to it. -/
private def bumpsBeforeGate : List ServiceEvent → Bool
  | bump :: older => bumps (numbered 2) bump && decide (8 ≤ older.length) &&
      (bump :: older).all fun event => event.thread ≠ 2
  | [] => false

private theorem admin_run : ∃ (earlier config : ServiceConfig Claims) (payload : AccessTokenPayload),
    Reaches answers unrestricted (started transparentApp bootstrappedWorld adminRequests) earlier ∧
      Reaches answers unrestricted earlier config ∧
      PresentedStale transparentApp adminRequests earlier config (adminAccess 1) payload 2 ∧
      (config.threads 2).outcome? = some (.ok (.roles
        [⟨numbered 1, DEFAULT_ROLE_TITLE, DEFAULT_ROLE_ACCESS_LABELS⟩])) := by
  have played : ((started transparentApp bootstrappedWorld adminRequests).playAll World.answer
      unrestricted [move 0, move 0, move 0 3, move 0, move 0 4, move 0 5, move 0, move 0]).any
      (fun earlier => (earlier.playAll World.answer unrestricted
        [move 1, move 1, move 1, move 1, move 1, move 2, move 2, move 2]).any fun config =>
        ((earlier.threads 0).value?.any fun value =>
          value.pair?.any fun pair => pair.access = adminAccess 1) &&
        decide (earlier.past.length = 8) &&
        (config.now.db.user? (numbered 2)).any User.isSuperuser &&
        bumpsBeforeGate (config.past.drop 4) &&
        decide ((config.threads 2).outcome? = some (.ok (.roles
          [⟨numbered 1, DEFAULT_ROLE_TITLE, DEFAULT_ROLE_ACCESS_LABELS⟩])))) = true := by decide
  obtain ⟨earlier, config, run, rest, checked⟩ := Config.playAll_exists_exists played
  simp only [Bool.and_eq_true, decide_eq_true_iff] at checked
  obtain ⟨⟨⟨⟨issued, length⟩, superuser⟩, bumped⟩, accepted⟩ := checked
  refine ⟨earlier, config, _, run, rest, ⟨?_, AccessTokenPayload.modelValidate_modelDump _, ?_, ?_,
    .getAllRoles, rfl⟩, accepted⟩
  · obtain ⟨value, ended, issued⟩ := (Option.any_eq_true _ _).mp issued
    obtain ⟨pair, handed, same⟩ := (Option.any_eq_true _ _).mp issued
    exact ⟨0, value, pair, value?_eq_some.mp ended, handed, of_decide_eq_true same⟩
  · exact (Option.any_eq_true _ _).mp superuser
  · cases split : config.past.drop 4 with
    | nil => rw [split] at bumped; cases bumped
    | cons bump older =>
      rw [split] at bumped
      simp only [bumpsBeforeGate, Bool.and_eq_true, decide_eq_true_iff, List.all_eq_true] at bumped
      obtain ⟨⟨bumped, long⟩, others⟩ := bumped
      have history : config.past = config.past.take 4 ++ bump :: older := by
        rw [← split, List.take_append_drop]
      refine ⟨config.past.take 4, bump, older, history, bumped, ?_, others⟩
      have suffix : older <:+ config.past :=
        ⟨config.past.take 4 ++ [bump], by simpa using history.symm⟩
      exact List.suffix_of_suffix_length_le rest.extends suffix (by omega)

theorem roleEndpoint_refuses_iff_expired_listed : ∃ (config : ServiceConfig Claims)
    (payload : AccessTokenPayload) (outcome : Except Exn (Outcome Claims)) (time : Time),
    (config.threads 2).outcome? = some outcome ∧ decidedAt (traceOf config.past 2) time ∧
      (Refused outcome ↔ payload.exp * 1000000 ≤ (time : ℤ)) := by
  obtain ⟨earlier, config, payload, run, rest, stale, finished⟩ := admin_run
  obtain ⟨time, decided, refused⟩ := roleEndpoint_refuses_iff_expired run rest stale finished
  exact ⟨config, payload, _, time, finished, decided, refused⟩

/-- A superuser logs in and changes the password; the old access token still lists the roles. -/
theorem roleEndpoint_accepts_stale : ∃ (requests : Tid → Request Claims)
    (earlier config : ServiceConfig Claims) (token : Claims) (payload : AccessTokenPayload)
    (gate : Tid) (roles : List RoleCreateOut),
    Reaches answers unrestricted (started transparentApp bootstrappedWorld requests) earlier ∧
      Reaches answers unrestricted earlier config ∧
      PresentedStale transparentApp requests earlier config token payload gate ∧
      config.threads gate = .done (.roles roles) := by
  obtain ⟨earlier, config, payload, run, rest, stale, finished⟩ := admin_run
  exact ⟨adminRequests, earlier, config, adminAccess 1, payload, 2, _, run, rest, stale,
    outcome?_eq_ok.mp finished⟩

end AuthApi
