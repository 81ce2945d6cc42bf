import AuthApi.Run.Issuance
import AuthApi.Run.Versions
import Mathlib.Data.Finset.Card

/-! # The version counts the bumps

`change_password` and `logout_others` read the version in `get_token_user` and commit its successor
later. Runs that interleave them freely lose updates; if no bump commits between a request's read
and its own commit, the version counts the successful requests, and a revoked pair stays revoked.
-/

namespace AuthApi

open Interleaving Interleaving.Program Relational

/-- The versions of a user never decrease along a history, and every bump makes a larger one. -/
def VersionsGrow (world : World) (userId : UUID4) (past : List ServiceEvent) : Prop :=
  ∀ newer older first, newer ++ older <:+ past →
    (stateAfter world older).version userId = some first →
    ∃ last, (stateAfter world (newer ++ older)).version userId = some last ∧ first ≤ last ∧
      ((∃ event ∈ newer, bumps userId event = true) → first < last)

section Endings

variable {Token : Type} {app : App Token}

/-- The request is a logout of the other sessions. -/
def Request.LogsOutOthers (request : Request Token) : Prop := ∃ token, request = .userEndpoint token .logoutOthers

/-- How a bump request ends: successfully after its commit, with an error before any commit, or, a logout of the other
sessions, with an error because the row or its role could not be read again. -/
def BumpEnds (app : App Token) (request : Request Token) (trace : Trace Reply) :
    Except Exn (Outcome Token) → Prop
  | .ok value => ∃ id copy changed, ⟨.getUser id, some copy⟩ ∈ trace ∧
      ⟨.commit .request (userUpdate (UserObject.toUser copy) changed), .ok ()⟩ ∈ trace ∧
      changed.tokenVersion = copy.tokenVersion + 1 ∧
      ∀ pair, value.pair? = some pair → ∃ user, user.tokenVersion = copy.tokenVersion + 1 ∧
        IssuedFor app trace user pair
  | .error _ => (∀ exchange ∈ trace, committedBy exchange.request exchange.reply = []) ∨
      request.LogsOutOthers ∧ ∃ id copy reply, ⟨.getUser id, some copy⟩ ∈ trace ∧
        ⟨.selectUserById (UserObject.toUser copy).id true, reply⟩ ∈ trace ∧
        ∀ found, reply = some found → ∃ user error, user.isSuperuser = copy.isSuperuser ∧
          user.role = found.role ∧ resolveRoleClaims user = .error error

private theorem changePassword_ends (token : Token) (data : UserChangePasswordIn) (id : UUID4) (user : UserObject)
    (time : Time) :
    ((UserOperation.changePassword data).program app user).Along (fun _ _ => True)
      (fun later outcome => BumpEnds app (.userEndpoint token (.changePassword data)) (⟨.close, ()⟩ :: later) outcome)
      [⟨.getUser id, some user⟩, ⟨.now, time⟩] := by
  refine Along.bind (q := fun later outcome =>
    BumpEnds app (.userEndpoint token (.changePassword data)) (⟨.close, ()⟩ :: later) (outcome.map fun _ => .unit)) ?_
    (fun _ _ ends => ends) fun _ _ ends => ends
  unfold UserService.changePassword
  split
  · refine ⟨trivial, fun salt => ⟨trivial, fun reply => ?_⟩⟩
    cases reply with
    | ok _ =>
      refine ⟨id, user, _, by simp, List.mem_cons_of_mem _ List.mem_cons_self, rfl, ?_⟩
      rintro pair ⟨⟩
    | error error => exact .inl (by simp [committedBy])
  · exact .inl (by simp [committedBy])

private theorem logoutOthers_ends (token : Token) (id : UUID4) (user : UserObject) (time : Time) :
    (UserOperation.logoutOthers.program app user).Along (fun _ _ => True)
      (fun later outcome => BumpEnds app (.userEndpoint token .logoutOthers) (⟨.close, ()⟩ :: later) outcome)
      [⟨.getUser id, some user⟩, ⟨.now, time⟩] := by
  refine Along.bind (q := fun later outcome =>
    BumpEnds app (.userEndpoint token .logoutOthers) (⟨.close, ()⟩ :: later) (outcome.map .tokens))
    ⟨trivial, fun reply => ?_⟩ (fun _ _ ends => ends) fun _ _ ends => ends
  cases reply with
  | error error => exact .inl (by simp [committedBy])
  | ok _ =>
    refine ⟨trivial, fun found => ?_⟩
    cases found with
    | none => exact .inr ⟨⟨token, rfl⟩, id, user, none, by simp, by simp, by simp⟩
    | some found =>
      refine (issueTokenPair_along (fun _ => trivial) (fun _ => trivial) _).mono
        (fun _ _ admitted => admitted) ?_
      rintro later outcome ⟨grown, ends⟩
      let bumped : UserObject :=
        { user with tokenVersion := user.tokenVersion + 1, role := found.role }
      cases outcome with
      | ok pair =>
        refine ⟨id, user, bumped.toUser, ?_, ?_, rfl, ?_⟩
        · exact List.mem_cons_of_mem _ (grown.subset (by simp))
        · exact List.mem_cons_of_mem _
            (grown.subset (List.mem_cons_of_mem _ List.mem_cons_self))
        · rintro _ ⟨⟩
          exact ⟨bumped, rfl, ends.mono (List.suffix_cons _ _)⟩
      | error error =>
        refine .inr ⟨⟨token, rfl⟩, id, user, some found, ?_, ?_, ?_⟩
        · exact List.mem_cons_of_mem _ (grown.subset (by simp))
        · exact List.mem_cons_of_mem _ (grown.subset (by simp))
        · rintro _ ⟨⟩
          exact ⟨bumped, error, rfl, rfl, ends⟩

theorem Request.bumpEnds {userId : UUID4} {request : Request Token}
    (bump : request.isBumpOf app userId = true) :
    (request.program app).Along (fun _ _ => True) (BumpEnds app request) [] := by
  cases request with
  | userEndpoint token operation =>
    refine along_withSession (fun _ => trivial) (Along.bind
      (getTokenUser_along (fun _ => trivial) token fun _ _ _ => trivial) ?_ ?_)
    · rintro user _ ⟨time, payload, _, _, rfl⟩
      cases operation with
      | changePassword data => exact changePassword_ends token data payload.sub user time
      | logoutOthers => exact logoutOthers_ends token payload.sub user time
      | _ => cases bump
    · rintro error _ (⟨time, _, rfl, _, _⟩ | ⟨time, _, found, _, rfl, _⟩) <;>
        exact .inl (by simp [committedBy])
  | _ => cases bump

end Endings

section Counting

variable {Token : Type} {app : App Token} {condition : Condition Tid Reply World} {world : World}
  {requests : Tid → Request Token} {older past : List ServiceEvent} {event : ServiceEvent}
  {config : ServiceConfig Token} {userId : UUID4}

/-- Bump requests change nothing of a user row but the password and the version. -/
private theorem bump_keeps_role
    (lawful : LawfulEvent answers condition (fun tid => Allowed app (requests tid)) world older
      event) (bump : (requests event.thread).isBumpOf app userId = true) {id : UUID4} {user : User}
    (found : event.before.db.user? id = some user) :
    ∃ later, event.after.db.user? id = some later ∧ later.roleId = user.roleId ∧
      later.isSuperuser = user.isSuperuser := by
  have written := event_db lawful
  obtain none | commits := event_commits lawful
  · rw [db_of_committed_nil lawful none]
    exact ⟨user, found, rfl, rfl⟩
  · generalize committed event = writes at written commits
    generalize requests event.thread = request at bump commits
    cases request with
    | userEndpoint token operation =>
      cases commits with
      | defaultRole roleId absent =>
        refine ⟨user, ?_, rfl, rfl⟩
        rw [Database.user?, Database.writeAll_insertRole written]
        exact found
      | loginHistory entry =>
        refine ⟨user, ?_, rfl, rfl⟩
        rw [Database.user?, Database.writeAll_insertLoginHistory written]
        exact found
      | changeUser readId loaded seen changed allowed =>
        obtain ⟨change, described, tables⟩ := Database.writeAll_userUpdate written
        rw [Database.user?, tables, lookup_amend described.id]
        have roleKept : (UserPatch.diff loaded.toUser changed).roleId = none := by
          cases allowed with
          | assign _ _ _ requested _ => cases requested
          | strip _ requested _ => cases requested
          | revoke _ _ requested _ => cases requested
          | _ => exact changed_self _
        have flagKept : (UserPatch.diff loaded.toUser changed).isSuperuser = none := by
          cases allowed <;> exact changed_self _
        unfold Database.user? at found
        split
        · next same =>
          rw [← same, found]
          refine ⟨_, rfl, ?_, ?_⟩
          · rw [described.roleId, roleKept]; rfl
          · rw [described.isSuperuser, flagKept]; rfl
        · exact ⟨user, found, rfl, rfl⟩
      | createUser _ _ _ _ _ _ requested => cases requested
      | createSuperuser _ _ _ _ requested => cases requested
      | createRole _ requested => cases requested
      | removeRole _ _ _ _ requested => cases requested
      | modifyRole _ _ _ _ _ requested => cases requested
      | link _ _ _ callback => cases callback
      | newLink _ _ _ _ callback => cases callback
    | _ => cases bump

private theorem bumps_keep_role (lawful : ServiceLawful app condition world requests past)
    (bumpsOnly : ∀ tid, (requests tid).isBumpOf app userId = true) (suffix : older <:+ past)
    {id : UUID4} {user : User} (found : (stateAfter world older).db.user? id = some user) :
    ∃ later, (stateAfter world past).db.user? id = some later ∧ later.roleId = user.roleId ∧
      later.isSuperuser = user.isSuperuser := by
  refine Lawful.relates (r := fun first last => ∀ id user, first.db.user? id = some user →
    ∃ later, last.db.user? id = some later ∧ later.roleId = user.roleId ∧
      later.isSuperuser = user.isSuperuser) ?_ ?_ ?_ lawful suffix id user found
  · exact fun state id user found => ⟨user, found, rfl, rfl⟩
  · intro first middle last left right id user found
    obtain ⟨next, there, role, flag⟩ := left id user found
    obtain ⟨later, here, roleLater, flagLater⟩ := right id next there
    exact ⟨later, here, roleLater.trans role, flagLater.trans flag⟩
  · exact fun older event _ lawful id user found => bump_keeps_role lawful (bumpsOnly _) found

/-- Every request bumps at most once. -/
private theorem bumpers_nodup (lawful : ServiceLawful app condition world requests past)
    (disciplined : Lawful answers condition (fun tid => (requests tid).Disciplined app) world past) :
    ((past.filter (bumps userId)).map Event.thread).Nodup := by
  induction past with
  | nil => exact List.nodup_nil
  | cons event past ih =>
    cases bumped : bumps userId event with
    | false => simpa [bumped] using ih lawful.2 disciplined.2
    | true =>
      rw [List.filter_cons_of_pos bumped, List.map_cons, List.nodup_cons]
      refine ⟨fun again => ?_, ih lawful.2 disciplined.2⟩
      obtain ⟨other, member, same⟩ := List.mem_map.mp again
      obtain ⟨present, bumpedOther⟩ := List.mem_filter.mp member
      obtain ⟨_, _, _, token, operation, _, _, _, _, requested, _⟩ := bump_cases lawful.1 bumped
      have commits : committed event ≠ [] := by
        intro none
        rw [bumps, none] at bumped
        cases bumped
      have silent := (commits_once disciplined.1 requested commits other.exchange
        (mem_traceOf.mpr ⟨other, present, same, rfl⟩)).2
      have none : committed other = [] := silent
      rw [bumps, none] at bumpedOther
      cases bumpedOther

/-- A request that succeeded has bumped the version. -/
private theorem succeeded_bumped
    (disciplined : Lawful answers condition (fun tid => (requests tid).Disciplined app) world past)
    {tid : Tid} (bump : (requests tid).isBumpOf app userId = true) {value : Outcome Token}
    (ends : BumpEnds app (requests tid) (traceOf past tid) (.ok value)) :
    ∃ event ∈ past, event.thread = tid ∧ bumps userId event = true := by
  obtain ⟨id, copy, altered, seen, committed, next, _⟩ := ends
  obtain ⟨event, member, rfl, same⟩ := mem_traceOf.mp committed
  refine ⟨event, member, rfl, ?_⟩
  exact bumps_of_next (committed_of_exchange same) next (bump_reads_own disciplined bump seen)

/-- A request that failed has not, if the user has a role or needs none where it logs out elsewhere. -/
private theorem failed_bumped_not (lawful : ServiceLawful app condition world requests past)
    (disciplined : Lawful answers condition (fun tid => (requests tid).Disciplined app) world past)
    (bumpsOnly : ∀ tid, (requests tid).isBumpOf app userId = true) {user : User}
    (found : world.db.user? userId = some user)
    {tid : Tid} (role : (requests tid).LogsOutOthers → user.isSuperuser = true ∨ user.roleId ≠ none) {error : Exn}
    (ends : BumpEnds app (requests tid) (traceOf past tid) (.error error)) :
    ∀ event ∈ past, event.thread = tid → bumps userId event = false := by
  obtain silent | ⟨logsOut, id, copy, reply, seen, joined, failed⟩ := ends
  · intro event member mover
    have none : committed event = [] := silent event.exchange (mem_traceOf.mpr ⟨event, member, mover, rfl⟩)
    rw [bumps, none]
    rfl
  · exfalso
    have own := bump_reads_own disciplined (bumpsOnly tid) seen
    obtain ⟨newer, event, older, rfl, _, _, _, answered⟩ := seen_event lawful joined
    obtain ⟨row, here, roleKept, flagKept⟩ := bumps_keep_role (lawful.suffix ⟨newer ++ [event], by simp⟩)
      bumpsOnly (List.nil_suffix : [] <:+ older) found
    obtain ⟨copied, copySuffix, read⟩ := sawUser_state lawful ⟨_, seen, rfl⟩
    obtain ⟨_, there, _, flagCopy⟩ := bumps_keep_role (lawful.suffix copySuffix) bumpsOnly
      (List.nil_suffix : [] <:+ copied) found
    rw [own, there] at read
    cases read
    have row' := answers_selectUserById answered
    rw [own, here, Option.map_some] at row'
    obtain ⟨again, error, flag, joinedRole, claims⟩ := failed _ row'
    have member := Database.user?_mem here
    simp only [World.userObject, if_pos] at joinedRole
    cases assigned : (stateAfter world older).db.roleOf row with
    | some role => simp [resolveRoleClaims, joinedRole, assigned] at claims
    | none =>
      obtain superuser | held := role logsOut
      · simp [resolveRoleClaims, joinedRole, assigned, flag, flagCopy, superuser] at claims
      · have present := (stateAfter world older).db.roleOf_isSome member
          (by rw [roleKept]; exact Option.isSome_iff_ne_none.mpr held)
        rw [assigned] at present
        cases present

/-- Without lost updates the versions grow with every bump. -/
theorem versions_grow (lawful : ServiceLawful app condition world requests past)
    (disciplined : Lawful answers condition (fun tid => (requests tid).Disciplined app) world past)
    (fresh : ∀ newer event older, past = newer ++ event :: older →
      noLostUpdate userId older event) : VersionsGrow world userId past := by
  rintro newer older first ⟨recent, rfl⟩ found
  have fresh (front : List ServiceEvent) (event : ServiceEvent) (back : List ServiceEvent)
      (split : newer ++ older = front ++ event :: back) : noLostUpdate userId back event :=
    fresh (recent ++ front) event back (by rw [List.append_assoc, split])
  refine ⟨_, version_counts lawful.append disciplined.append fresh found, Nat.le_add_right _ _, ?_⟩
  rintro ⟨event, member, bumped⟩
  have counted : 0 < newer.countP (bumps userId) := List.countP_pos_iff.mpr ⟨event, member, bumped⟩
  omega

/-- A pair handed out by a request that bumped carries the version it stored. -/
private theorem bumped_pair_version {newer : List ServiceEvent}
    (lawful : ServiceLawful app condition world requests (newer ++ event :: older))
    (disciplined : Lawful answers condition (fun tid => (requests tid).Disciplined app) world
      (newer ++ event :: older))
    {value : Outcome Token} {pair : TokenData Token}
    (ends : BumpEnds app (requests event.thread) (traceOf (newer ++ event :: older) event.thread) (.ok value))
    (handed : value.pair? = some pair) (bumped : bumps userId event = true) {version : ℕ}
    (found : event.before.version userId = some version) {token : Token}
    (among : token ∈ [pair.access, pair.refresh]) {claims : Claims}
    (verified : app.jwt.verify token = some claims) :
    event.after.version userId = some claims.tv := by
  obtain ⟨readId, loaded, altered, _, _, seen, id, writes, next, requested, _⟩ :=
    bump_cases lawful.event bumped
  obtain ⟨copyId, copy, _, seenCopy, _, _, pairs⟩ := ends
  obtain ⟨user, version, issued⟩ := pairs pair handed
  have grown : traceOf older event.thread <:+ traceOf (newer ++ event :: older) event.thread :=
    traceOf_suffix (List.suffix_append_of_suffix (List.suffix_cons _ _)) _
  have same := reads_once disciplined requested (grown.subset seen) seenCopy
  rw [version_written id lawful.event writes next found, (issued.claims among verified).2, version,
    same]

/-- If no update is lost, the version counts the successful bump requests of a user who has a role
or needs none, or logs out nowhere else; it only grows, so no revoked pair becomes valid again and no pair of one
`logout_others` survives a later bump. -/
theorem token_version_counts (bumpsOnly : ∀ tid, (requests tid).isBumpOf app userId = true)
    {user : User} (found : world.db.user? userId = some user)
    (role : (∃ tid, (requests tid).LogsOutOthers) → user.isSuperuser = true ∨ user.roleId ≠ none)
    (run : Reaches answers (noLostUpdate userId) (started app world requests) config) :
    (∀ succeeded : Finset Tid,
      (∀ tid, tid ∈ succeeded ↔ ∃ value, config.threads tid = .done value) →
      (∀ event ∈ config.past, (config.threads event.thread).outcome?.isSome) →
      config.now.version userId = some (user.tokenVersion + succeeded.card)) ∧
    VersionsGrow world userId config.past ∧
    ∀ issuer value pair newer bump older own, config.threads issuer = .done value →
      value.pair? = some pair → config.past = newer ++ bump :: older →
      bumps userId bump = true → own ∈ older → own.thread = issuer → bumps userId own = true →
      ∀ token ∈ [pair.access, pair.refresh], ∀ claims, app.jwt.verify token = some claims →
      ∀ version, config.now.version userId = some version → claims.tv < version := by
  have course := service_course run
  have lawful := course.lawful
  have disciplined := (course_of_along (fun tid => (requests tid).Disciplined app)
    (fun _ _ _ => True) run fun tid => (requests tid).disciplined app).lawful
  have ends := course_of_along (fun _ _ _ => True) (fun tid => BumpEnds app (requests tid)) run
    fun tid => Request.bumpEnds (bumpsOnly tid)
  have fresh (newer : List ServiceEvent) (event : ServiceEvent) (older : List ServiceEvent)
      (split : config.past = newer ++ event :: older) : noLostUpdate userId older event :=
    (split ▸ lawful : ServiceLawful app (noLostUpdate userId) world requests _).event.admitted
  have grow := versions_grow lawful disciplined fresh
  have initial : (stateAfter world ([] : List ServiceEvent)).version userId = some user.tokenVersion := by
    simp [World.version, stateAfter, found]
  refine ⟨fun succeeded exact finished => ?_, grow, ?_⟩
  · have whole : ServiceLawful app (noLostUpdate userId) world requests (config.past ++ []) := by
      simpa using lawful
    have counts := version_counts whole (by simpa using disciplined) (by simpa using fresh) initial
    rw [List.append_nil, ← course.now_eq] at counts
    have same : succeeded = ((config.past.filter (bumps userId)).map Event.thread).toFinset := by
      ext tid
      rw [exact tid, List.mem_toFinset, List.mem_map]
      constructor
      · rintro ⟨value, ended⟩
        obtain ⟨event, member, mover, bumped⟩ :=
          succeeded_bumped disciplined (bumpsOnly tid) (ends.done ended)
        exact ⟨event, List.mem_filter.mpr ⟨member, bumped⟩, mover⟩
      · rintro ⟨event, member, rfl⟩
        obtain ⟨member, bumped⟩ := List.mem_filter.mp member
        obtain ⟨outcome, ended⟩ := Option.isSome_iff_exists.mp (finished event member)
        cases outcome with
        | ok value => exact ⟨value, outcome?_eq_ok.mp ended⟩
        | error error =>
          have silent := failed_bumped_not lawful disciplined bumpsOnly found (fun logsOut => role ⟨_, logsOut⟩)
            (ends.finished ended) event member rfl
          rw [bumped] at silent
          cases silent
    rw [counts, same, List.toFinset_card_of_nodup (bumpers_nodup lawful disciplined),
      List.length_map, List.countP_eq_length_filter]
  · rintro issuer value pair newer bump older own ended handed history bumped member rfl ownBumped
      token among claims verified version now
    obtain ⟨front, back, rfl⟩ := List.append_of_mem member
    have split : config.past = (newer ++ bump :: front) ++ own :: back := by simp [history]
    rw [split] at lawful disciplined
    obtain ⟨before, here⟩ := version_persists lawful.append.2 List.nil_suffix initial
    rw [← lawful.event.follows] at here
    have stored := bumped_pair_version lawful disciplined (split ▸ ends.done ended) handed ownBumped
      here among verified
    have whole : (newer ++ bump :: front) ++ own :: back <:+ config.past := ⟨[], split.symm⟩
    obtain ⟨last, recent, _, less⟩ := grow _ _ _ whole stored
    rw [← split, ← course.now_eq, now] at recent
    cases recent
    exact less ⟨bump, by simp, bumped⟩

/-- A request that succeeded took part in the run. -/
private theorem done_moved (bumpsOnly : ∀ tid, (requests tid).isBumpOf app userId = true)
    (run : Reaches answers condition (started app world requests) config) {tid : Tid}
    {value : Outcome Token} (ended : config.threads tid = .done value) :
    ∃ event ∈ config.past, event.thread = tid := by
  have disciplined := (course_of_along (fun tid => (requests tid).Disciplined app)
    (fun _ _ _ => True) run fun tid => (requests tid).disciplined app).lawful
  have ends := course_of_along (fun _ _ _ => True) (fun tid => BumpEnds app (requests tid)) run
    fun tid => Request.bumpEnds (bumpsOnly tid)
  obtain ⟨event, member, mover, _⟩ := succeeded_bumped disciplined (bumpsOnly tid) (ends.done ended)
  exact ⟨event, member, mover⟩

end Counting

/-- Only the first two requests took part, and both succeeded. -/
private def bothSucceeded (config : ServiceConfig Claims) : Bool :=
  (config.past.all fun event => event.thread = 0 || event.thread = 1) &&
    [0, 1].all fun tid => match (config.threads tid).outcome? with
      | some (.ok _) => true
      | _ => false

private theorem bothSucceeded_iff {condition : Condition Tid Reply World}
    {requests : Tid → Request Claims} {config : ServiceConfig Claims}
    (bumpsOnly : ∀ tid, (requests tid).isBumpOf transparentApp (numbered 2) = true)
    (run : Reaches answers condition (started transparentApp bootstrappedWorld requests) config)
    (both : bothSucceeded config = true) :
    (∀ tid, tid ∈ ({0, 1} : Finset Tid) ↔ ∃ value, config.threads tid = .done value) ∧
      ∀ event ∈ config.past, (config.threads event.thread).outcome?.isSome := by
  simp only [bothSucceeded, Bool.and_eq_true, List.all_eq_true, Bool.or_eq_true,
    decide_eq_true_iff] at both
  obtain ⟨movers, succeeded⟩ := both
  have ended (tid : Tid) (member : tid ∈ [0, 1]) : ∃ value, config.threads tid = .done value := by
    have here := succeeded tid member
    split at here
    · next value outcome => exact ⟨value, outcome?_eq_ok.mp outcome⟩
    · cases here
  refine ⟨fun tid => ⟨fun member => ended tid (by simpa using member), ?_⟩, fun event member => ?_⟩
  · rintro ⟨value, done⟩
    obtain ⟨event, member, rfl⟩ := done_moved bumpsOnly run done
    simpa using movers event member
  · obtain ⟨value, done⟩ := ended event.thread (by simpa using movers event member)
    rw [done]
    rfl

/-- Two requests one after the other raise the version from 1 to 3. -/
theorem token_version_counts_twice : ∃ config : ServiceConfig Claims,
    config.now.version (numbered 2) = some 3 ∧
      VersionsGrow bootstrappedWorld (numbered 2) config.past := by
  let requests (tid : Tid) : Request Claims :=
    .userEndpoint (adminAccess (if tid = 0 then 1 else 2)) .logoutOthers
  have bumpsOnly (tid : Tid) : (requests tid).isBumpOf transparentApp (numbered 2) = true := by
    simp [requests, Request.isBumpOf, UserOperation.bumps, App.accessPayload, transparentApp,
      adminAccess]
  have played : ((started transparentApp bootstrappedWorld requests).playAll World.answer
      (noLostUpdate (numbered 2))
      ((List.replicate 9 (move 0)) ++ (List.replicate 9 (move 1)))).any bothSucceeded = true := by
    decide
  obtain ⟨config, run, both⟩ := Config.playAll_exists played
  obtain ⟨exact, finished⟩ := bothSucceeded_iff bumpsOnly run both
  have present : bootstrappedWorld.db.user? (numbered 2) = some adminRow := rfl
  obtain ⟨counts, grow, _⟩ := token_version_counts bumpsOnly present (fun _ => .inl rfl) run
  exact ⟨config, counts {0, 1} exact finished, grow⟩

/-- Two overlapping requests both succeed and raise the version by one only. -/
theorem token_version_loses_update : ∃ (requests : Tid → Request Claims)
    (config : ServiceConfig Claims) (succeeded : Finset Tid),
    (∀ tid, (requests tid).isBumpOf transparentApp (numbered 2) = true) ∧
      Reaches answers unrestricted (started transparentApp bootstrappedWorld requests) config ∧
      (∀ tid, tid ∈ succeeded ↔ ∃ value, config.threads tid = .done value) ∧
      (∀ event ∈ config.past, (config.threads event.thread).outcome?.isSome) ∧
      bootstrappedWorld.version (numbered 2) = some 1 ∧ succeeded.card = 2 ∧
      config.now.version (numbered 2) = some 2 := by
  let requests (tid : Tid) : Request Claims :=
    .userEndpoint (adminAccess 1)
      (if tid = 0 then .changePassword ⟨"password", "changed"⟩ else .logoutOthers)
  have bumpsOnly (tid : Tid) : (requests tid).isBumpOf transparentApp (numbered 2) = true := by
    by_cases first : tid = 0 <;> simp [requests, Request.isBumpOf, UserOperation.bumps,
      App.accessPayload, transparentApp, adminAccess, first]
  have played : ((started transparentApp bootstrappedWorld requests).playAll World.answer
      unrestricted ([move 0, move 0, move 1, move 1, move 0, move 0, move 0] ++
        List.replicate 7 (move 1))).any
      (fun config => bothSucceeded config &&
        decide (config.now.version (numbered 2) = some 2)) = true := by decide
  obtain ⟨config, run, checked⟩ := Config.playAll_exists played
  rw [Bool.and_eq_true, decide_eq_true_iff] at checked
  obtain ⟨exact, finished⟩ := bothSucceeded_iff bumpsOnly run checked.1
  exact ⟨requests, config, {0, 1}, bumpsOnly, run, exact, finished, rfl, rfl, checked.2⟩

end AuthApi
