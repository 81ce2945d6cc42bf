import AuthApi.Model.Requests
import AuthApi.Run.LoginRecords

/-! # Login histories

A successful login adds one row to `login_history` when the migrations made the table, and none when
`create_all` did: then the table has no partition, every INSERT is refused and the login succeeds all
the same.
-/

namespace AuthApi

open Interleaving Interleaving.Program Relational

/-- A history row with a fresh key, an existing user and a partition keeps every constraint. -/
theorem Tables.Consistent.insertHistory {tables : Tables} (consistent : tables.Consistent)
    {row : LoginHistory} (fresh : ∀ other ∈ tables.loginHistory, other.id ≠ row.id)
    (user : row.userId ∈ tables.users.map User.id)
    (covered : ∃ part ∈ tables.partitions, part.covers row.loggedInAt = true) :
    { tables with loginHistory := tables.loginHistory ++ [row] }.Consistent :=
  { consistent with
    historyKeys := by
      rw [List.map_append, List.map_singleton, List.nodup_append_comm]
      refine List.nodup_cons.mpr ⟨?_, consistent.historyKeys⟩
      intro present
      obtain ⟨other, member, same⟩ := List.mem_map.mp present
      exact fresh other member (congrArg Prod.fst same)
    historyUsers := by
      intro entry member
      rcases List.mem_append.mp member with old | new
      · exact consistent.historyUsers entry old
      · rw [List.mem_singleton.mp new]
        exact user
    historyPartitions := by
      intro entry member
      rcases List.mem_append.mp member with old | new
      · exact consistent.historyPartitions entry old
      · rw [List.mem_singleton.mp new]
        exact covered }

namespace Database

variable {db next : Database} {defaults : ModelDefaults} {now : Time}

theorem write_history {statement : Write} (written : db.write defaults now statement = .ok next) :
    next.loginHistory = db.loginHistory ++ (statement.historyRow? now).toList ∧
      next.partitions = db.partitions := by
  have tables := write_ok written
  cases statement with
  | updateUser id patch =>
    simp only [Tables.write] at tables
    split at tables
    · rw [← Except.ok.inj tables]
      simp [Write.historyRow?]
    · cases tables
  | updateRole id patch =>
    simp only [Tables.write] at tables
    split at tables
    · rw [← Except.ok.inj tables]
      simp [Write.historyRow?]
    · cases tables
  | _ =>
    rw [← Except.ok.inj tables]
    simp [Write.historyRow?]

/-- A transaction appends the history rows it inserts, and leaves the partitions. -/
theorem writeAll_history {writes : List Write} (written : db.writeAll defaults now writes = .ok next) :
    next.loginHistory = db.loginHistory ++ writes.filterMap (Write.historyRow? now) ∧
      next.partitions = db.partitions := by
  induction writes generalizing db with
  | nil =>
    cases written
    simp
  | cons first rest ih =>
    rw [writeAll] at written
    split at written
    · cases written
    · next middle done =>
      obtain ⟨rows, parts⟩ := write_history done
      obtain ⟨others, same⟩ := ih written
      refine ⟨?_, same.trans parts⟩
      rw [others, rows, List.append_assoc, List.filterMap_cons]
      cases Write.historyRow? now first <;> rfl

end Database

section Events

/-- The rows an event added to `login_history`. -/
def recorded (event : ServiceEvent) : List LoginHistory :=
  (committed event).filterMap (Write.historyRow? event.after.clock)

/-- The rows a request added, newest first. -/
def recordedBy (past : List ServiceEvent) (tid : Tid) : List LoginHistory :=
  (past.filter fun event => event.thread = tid).flatMap recorded

variable {specs : Tid → Trace Reply → Call → Prop} {condition : Condition Tid Reply World}
  {world : World} {older past : List ServiceEvent} {event : ServiceEvent}

theorem history_step (lawful : LawfulEvent answers condition specs world older event) :
    event.after.db.loginHistory = event.before.db.loginHistory ++ recorded event ∧
      event.after.db.partitions = event.before.db.partitions :=
  Database.writeAll_history (event_db lawful)

theorem partitions_kept (lawful : Lawful answers condition specs world past) :
    (stateAfter world past).db.partitions = world.db.partitions := by
  induction past with
  | nil => rfl
  | cons event older ih =>
    have kept := (history_step lawful.1).2
    rw [lawful.1.follows, ih lawful.2] at kept
    exact kept

/-- Rows stay in the history. -/
theorem history_kept (lawful : Lawful answers condition specs world past) (suffix : older <:+ past) :
    (stateAfter world older).db.loginHistory <+: (stateAfter world past).db.loginHistory := by
  refine Lawful.relates (r := fun first last => first.db.loginHistory <+: last.db.loginHistory)
    (fun _ => List.prefix_refl _) ?_ ?_ lawful suffix
  · intro first middle last left right
    exact List.IsPrefix.trans left right
  · intro older event _ here
    rw [(history_step here).1]
    exact List.prefix_append _ _

/-- An event that adds a row is a commit with a history row. -/
theorem records_of_recorded (adds : recorded event ≠ []) : event.request.records = true := by
  obtain ⟨thread, request, reply, before, after⟩ := event
  cases request with
  | commit session writes =>
    cases reply with
    | error error => exact absurd rfl adds
    | ok _ =>
      obtain ⟨row, member⟩ := List.exists_mem_of_ne_nil _ adds
      obtain ⟨statement, present, adding⟩ := List.mem_filterMap.mp member
      apply List.any_eq_true.mpr
      refine ⟨statement, present, ?_⟩
      cases statement <;> first | rfl | cases adding
  | _ => exact absurd rfl adds

end Events

/-- Every entry is on one of the pages. -/
theorem mem_page {α : Type} {entries : List α} {entry : α} (member : entry ∈ entries) {size : ℕ}
    (positive : 1 ≤ size) :
    ∃ page, page * size < entries.length ∧ entry ∈ (entries.drop (page * size)).take size := by
  obtain ⟨position, found⟩ := List.mem_iff_getElem?.mp member
  refine ⟨position / size, ?_, List.mem_of_getElem? (i := position % size) ?_⟩
  · exact lt_of_le_of_lt (Nat.div_mul_le_self position size) (List.getElem?_eq_some_iff.mp found).1
  rw [List.getElem?_take_of_lt (Nat.mod_lt position positive), List.getElem?_drop, Nat.mul_comm,
    Nat.div_add_mod]
  exact found

/-- The row as `get_login_history` returns it. -/
def LoginHistory.out (row : LoginHistory) : LoginDataOut :=
  ⟨row.ipAddress, row.userAgent, row.deviceId, row.loggedInAt⟩

/-- `get_login_history` returns a page of the rows it selects, or fails if its offset is no bigint. -/
theorem getLoginHistory_runs {userId : UUID4} {page pageSize : ℕ} {before after : World}
    {step : (call : Call) → World → Reply call → World → Prop} {outcome : Except Exn (List LoginDataOut)} :
    (UserService.getLoginHistory userId page pageSize).Runs step before outcome after ↔
      if (page - 1) * pageSize < 2 ^ 63 then
        ∃ rows, step (.selectLoginHistory userId ((page - 1) * pageSize) pageSize) before rows after ∧
          outcome = .ok (rows.map LoginHistory.out)
      else outcome = .error (.dbError .data) ∧ after = before := by
  by_cases bigint : (page - 1) * pageSize < 2 ^ 63
  · have accepted : accept ((page - 1) * pageSize < 2 ^ 63) = .done () := if_pos (decide_eq_true bigint)
    rw [if_pos bigint, UserService.getLoginHistory, accepted]
    constructor
    · rintro ⟨rows, _, selected, ended, rfl⟩
      exact ⟨rows, selected, ended⟩
    · rintro ⟨rows, selected, ended⟩
      exact ⟨rows, after, selected, ended, rfl⟩
  · have refused : accept ((page - 1) * pageSize < 2 ^ 63) = .raise (.dbError .data) :=
      if_neg (by simpa using bigint)
    rw [if_neg bigint, UserService.getLoginHistory, refused]
    exact Iff.rfl

/-- In whatever order the database lists the user's rows, whose numbers are bigints, and for every size of the
pages, one of the pages of `get_login_history` has the row. -/
def Listed (world : World) (row : LoginHistory) : Prop :=
  ∀ reader order pageSize, world.HistoryOrder row.userId order → order.length ≤ 2 ^ 63 →
    1 ≤ pageSize →
    ∃ page entries, 1 ≤ page ∧ row.out ∈ entries ∧
      (UserService.getLoginHistory row.userId page pageSize).Runs
        (fun call before reply after => World.answer reader { uuid := numbered 0, rows := order } call
          before = some (reply, after)) world (.ok entries) world

theorem listed_of_mem {world : World} {row : LoginHistory} (member : row ∈ world.db.loginHistory) :
    Listed world row := by
  intro reader order pageSize ordered numbered positive
  have listed : row ∈ order := ordered.1.mem_iff.mpr (List.mem_filter.mpr ⟨member, by simp⟩)
  obtain ⟨page, within, shown⟩ := mem_page listed positive
  refine ⟨page + 1, _, Nat.le_add_left 1 page, List.mem_map.mpr ⟨row, shown, rfl⟩, getLoginHistory_runs.mpr ?_⟩
  rw [Nat.add_sub_cancel, if_pos (by omega)]
  exact ⟨_, if_pos ordered, rfl⟩

section Runs

variable {Token : Type} {app : App Token} {setup : SchemaSetup} {world : World}
  {requests : Tid → Request Token} {past older rest : List ServiceEvent} {event other : ServiceEvent}
  {config : ServiceConfig Token} {tid : Tid}

/-- A history in which every request records a login once. -/
private abbrev RecordsLawful (world : World) (past : List ServiceEvent) : Prop :=
  Lawful answers freshDraws (fun _ => RecordsOnce) world past

/-- The event commits this entry for its request. -/
private def Enters (event : ServiceEvent) (entry : NewLoginHistory) : Prop :=
  event.request = .commit .request [.insertLoginHistory entry]

private theorem enters_records {entry : NewLoginHistory} (enters : Enters event entry) :
    event.request.records = true := by
  rw [enters]
  rfl

/-- An id is entered once: it was drawn right before, and by a request that enters nothing else. -/
private theorem entered_once (lawful : RecordsLawful world past) {entry another : NewLoginHistory}
    (first : event :: older <:+ past) (enters : Enters event entry)
    (second : other :: rest <:+ older) (entersToo : Enters other another) :
    another.id ≠ entry.id := by
  intro same
  have here := (lawful.suffix first).1.specified (enters_records enters)
  have within : other :: rest <:+ past := (second.trans (List.suffix_cons _ _)).trans first
  have there := (lawful.suffix within).1.specified (enters_records entersToo)
  obtain ⟨unrecorded, _, _, _, shape, drawn, _⟩ := here
  obtain ⟨_, _, _, _, shape', drawn', _⟩ := there
  rw [enters] at shape
  rw [entersToo] at shape'
  cases shape
  cases shape'
  obtain ⟨newer, draw, back, split, mover, drew, _⟩ := traceOf_eq_cons drawn
  obtain ⟨newer', draw', back', split', mover', drew', _⟩ := traceOf_eq_cons drawn'
  have position : draw :: back = draw' :: back' := by
    apply drawn_once lawful
    · exact (split ▸ List.suffix_append newer _ : draw :: back <:+ older).trans
        ((List.suffix_cons _ _).trans first)
    · rw [drew]
      rfl
    · exact (split' ▸ List.suffix_append newer' _ : draw' :: back' <:+ rest).trans
        ((List.suffix_cons _ _).trans within)
    · rw [drew', same]
      rfl
  obtain ⟨rfl, _⟩ := List.cons.inj position
  have seen : other.exchange ∈ traceOf older event.thread :=
    mem_traceOf.mpr ⟨other, second.subset List.mem_cons_self, mover'.symm.trans mover, rfl⟩
  have quiet := unrecorded _ seen
  have loud : other.exchange.request.records = true := enters_records entersToo
  rw [quiet] at loud
  cases loud

/-- Every row of a history that began empty was entered. -/
private theorem row_entered (lawful : RecordsLawful world past) (empty : world.db.loginHistory = [])
    {row : LoginHistory} (member : row ∈ (stateAfter world past).db.loginHistory) :
    ∃ event older entry, event :: older <:+ past ∧ Enters event entry ∧ row.id = entry.id := by
  induction past with
  | nil =>
    rw [stateAfter, empty] at member
    cases member
  | cons event older ih =>
    change row ∈ event.after.db.loginHistory at member
    rw [(history_step lawful.1).1, List.mem_append, lawful.1.follows] at member
    rcases member with old | new
    · obtain ⟨first, before, entry, suffix, facts⟩ := ih lawful.2 old
      exact ⟨first, before, entry, suffix.trans (List.suffix_cons _ _), facts⟩
    · obtain ⟨_, entry, _, _, shape, _⟩ :=
        lawful.1.specified (records_of_recorded (List.ne_nil_of_mem new))
      refine ⟨event, older, entry, List.suffix_refl _, shape, ?_⟩
      obtain ⟨thread, request, reply, before, after⟩ := event
      dsimp only at shape
      subst shape
      cases reply with
      | ok _ => rw [List.mem_singleton.mp new]; rfl
      | error error => cases new

/-- With a default partition the history row of a login is never refused. -/
private theorem record_accepted (lawful : RecordsLawful world past)
    (service : ServiceLawful app freshDraws world requests past) (empty : world.db.loginHistory = [])
    (covers : .default ∈ world.db.partitions) (first : event :: older <:+ past)
    {entry : NewLoginHistory} {reply : Except DbError Unit}
    (entered : event.exchange = ⟨.commit .request [.insertLoginHistory entry], reply⟩) :
    reply = .ok () := by
  cases reply with
  | ok _ => rfl
  | error error =>
    have here := (lawful.suffix first).1
    have enters : Enters event entry := congrArg Exchange.request entered
    have later : Lawful answers freshDraws (fun _ => RecordsOnce) world older := (lawful.suffix first).2
    obtain ⟨now, refused⟩ := answers_commit_error (event_answers here entered)
    have fresh : ∀ row ∈ (stateAfter world older).db.loginHistory, row.id ≠ entry.id := by
      intro row member same
      obtain ⟨other, rest, another, suffix, entersToo, sameId⟩ := row_entered later empty member
      exact entered_once lawful first enters suffix entersToo (sameId.symm.trans same)
    have present : entry.userId ∈ (stateAfter world older).db.users.map User.id := by
      obtain ⟨_, _, _, user, shape, _, saw, same⟩ := here.specified (enters_records enters)
      rw [enters] at shape
      cases shape
      obtain ⟨earlier, before, read⟩ := sawUser_state later saw
      obtain ⟨row, found, _⟩ := flags_kept (service.suffix first).2 before _ _ read
      rw [same]
      exact lookup_isSome.mp (Option.isSome_iff_exists.mpr ⟨row, found⟩)
    have part : .default ∈ (stateAfter world older).db.partitions := partitions_kept later ▸ covers
    have written : (stateAfter world older).db.write
        ((stateAfter world older).defaults event.thread) now (.insertLoginHistory entry) = .ok _ :=
      Database.write_of_consistent rfl ((stateAfter world older).db.consistent.insertHistory fresh
        present ⟨.default, part, rfl⟩)
    rw [Database.writeAll, written] at refused
    cases refused

/-- A login enters one row. -/
private theorem recordedBy_eq (lawful : RecordsLawful world (older ++ event :: rest))
    (adds : recorded event ≠ []) : recordedBy (older ++ event :: rest) event.thread = recorded event := by
  have unrecorded := (lawful.event.specified (records_of_recorded adds)).1
  have later : ∀ other ∈ older, other.thread = event.thread → recorded other = [] := by
    intro other member mover
    by_contra addsToo
    obtain ⟨newer, between, rfl⟩ := List.append_of_mem member
    rw [List.append_assoc, List.cons_append] at lawful
    have quiet := (lawful.event.specified (records_of_recorded addsToo)).1
    have seen : event.exchange ∈ traceOf (between ++ event :: rest) other.thread :=
      mem_traceOf.mpr ⟨event, by simp, mover.symm, rfl⟩
    have loud : event.exchange.request.records = true := records_of_recorded adds
    rw [quiet _ seen] at loud
    cases loud
  have earlier : ∀ other ∈ rest, other.thread = event.thread → recorded other = [] := by
    intro other member mover
    by_contra addsToo
    have quiet := unrecorded _ (mem_traceOf.mpr ⟨other, member, mover, rfl⟩)
    have loud : other.exchange.request.records = true := records_of_recorded addsToo
    rw [quiet] at loud
    cases loud
  have silent {part : List ServiceEvent}
      (none : ∀ other ∈ part, other.thread = event.thread → recorded other = []) :
      recordedBy part event.thread = [] := by
    apply List.flatMap_eq_nil_iff.mpr
    intro other member
    obtain ⟨present, mover⟩ := List.mem_filter.mp member
    exact none other present (of_decide_eq_true mover)
  have split : recordedBy (older ++ event :: rest) event.thread =
      recordedBy older event.thread ++ recorded event ++ recordedBy rest event.thread := by
    simp [recordedBy]
  rw [split, silent later, silent earlier, List.nil_append, List.append_nil]

/-- The request has added exactly one row, for the user of its pair, and the history shows it. -/
def LoginRecorded (app : App Token) (config : ServiceConfig Token) (tid : Tid)
    (pair : TokenData Token) : Prop :=
  ∃ row, recordedBy config.past tid = [row] ∧
    (∃ claims, app.jwt.verify pair.access = some claims ∧ claims.sub = row.userId) ∧
    row ∈ config.now.db.loginHistory ∧ Listed config.now row

/-- In every run from a freshly created schema a successful login is recorded if and only if the
migrations created the schema. -/
theorem login_recorded_iff (created : world.db = setup.database)
    (run : Reaches answers freshDraws (started app world requests) config)
    (login : (requests tid).isLogin = true) {pair : TokenData Token}
    (returned : returnedPair? (config.threads tid) = some pair) :
    LoginRecorded app config tid pair ↔ ∃ ranges, setup = .alembicUpgrade ranges := by
  have service := (service_course run).lawful
  have course := course_of_along (fun _ => RecordsOnce) _ run fun tid => (requests tid).records
  have lawful : RecordsLawful world config.past := course.lawful
  have empty : world.db.loginHistory = [] := by
    rw [created]
    cases setup <;> rfl
  constructor
  · rintro ⟨row, _, _, member, _⟩
    cases setup with
    | alembicUpgrade ranges => exact ⟨ranges, rfl⟩
    | setupForDevelopment =>
      obtain ⟨part, present, _⟩ := config.now.db.consistent.historyPartitions row member
      rw [course.now_eq, partitions_kept lawful, created] at present
      cases present
  · rintro ⟨ranges, rfl⟩
    have covers : .default ∈ world.db.partitions := by
      rw [created]
      exact List.mem_cons_self
    obtain ⟨entry, reply, user, issued, same, member⟩ :=
      course.done (returnedPair?_eq_some.mp returned) login pair rfl pair rfl
    obtain ⟨event, present, mover, entered⟩ := mem_traceOf.mp member
    obtain ⟨newer, older, split⟩ := List.append_of_mem present
    have suffix : event :: older <:+ config.past := split ▸ List.suffix_append newer _
    obtain rfl := record_accepted lawful service empty covers suffix entered
    have added : recorded event = [entry.row event.after.clock] := by
      unfold recorded
      rw [committed_of_exchange entered]
      rfl
    have kept : entry.row event.after.clock ∈ config.now.db.loginHistory := by
      rw [course.now_eq]
      apply (history_kept lawful suffix).subset
      have step := (history_step (lawful.suffix suffix).1).1
      rw [added] at step
      change _ ∈ event.after.db.loginHistory
      rw [step]
      exact List.mem_append_right _ List.mem_cons_self
    refine ⟨entry.row event.after.clock, ?_, ?_, kept, listed_of_mem kept⟩
    · rw [← added, ← mover, split]
      apply recordedBy_eq (split ▸ lawful)
      rw [added]
      exact List.cons_ne_nil _ _
    · obtain ⟨_, _, _, _, _, _, _, _, access, _⟩ := issued
      exact ⟨_, access ▸ app.jwt.verify_encode _, same.symm⟩

end Runs

/-- The start of the service over a new schema, and a login. -/
private def firstLogin : Tid → Request Claims :=
  pool [.createSuperuser "admin@example.com" "password",
    .loginUser ⟨"admin@example.com", "password"⟩ ⟨some "203.0.113.7", none⟩ none]

private def createdBy (setup : SchemaSetup) : World := { bootstrappedWorld with db := setup.database }

private def superuserCreated : List (Tid × Choice) := [move 0, move 0, move 0 2, move 0, move 0]

/-- After `setup_for_development` the superuser logs in and the history stays empty. -/
theorem development_login_unrecorded : ∃ config pair,
    Reaches answers freshDraws
      (started transparentApp (createdBy .setupForDevelopment) firstLogin) config ∧
    returnedPair? (config.threads 1) = some pair ∧ config.now.db.loginHistory = [] ∧
    ¬ LoginRecorded transparentApp config 1 pair := by
  have played : ((started transparentApp (createdBy .setupForDevelopment) firstLogin).playAll
      World.answer freshDraws (superuserCreated ++
        [move 1, move 1, move 1 3, move 1, move 1 4, move 1 5, move 1, move 1, move 1])).any (fun config =>
          decide ((returnedPair? (config.threads 1)).isSome = true ∧ config.now.db.loginHistory = [])) =
      true := by decide
  obtain ⟨config, run, checked⟩ := Config.playAll_exists played
  obtain ⟨returned, empty⟩ := of_decide_eq_true checked
  obtain ⟨pair, returned⟩ := Option.isSome_iff_exists.mp returned
  refine ⟨config, pair, run, returned, empty, ?_⟩
  rintro ⟨row, _, _, member, _⟩
  rw [empty] at member
  cases member

/-- After the migrations the same login is recorded, also outside the premade ranges. -/
theorem login_recorded_iff_migrated : ∃ config pair,
    returnedPair? (config.threads 1) = some pair ∧ LoginRecorded transparentApp config 1 pair := by
  have played : ((started transparentApp (createdBy (.alembicUpgrade [.range 0 1000])) firstLogin).playAll
      World.answer freshDraws (superuserCreated ++
        [move 1, move 1, move 1 3, move 1, move 1 4, move 1 5, move 1, move 1])).any (fun config =>
          (returnedPair? (config.threads 1)).isSome) = true := by decide
  obtain ⟨config, run, returned⟩ := Config.playAll_exists played
  obtain ⟨pair, returned⟩ := Option.isSome_iff_exists.mp returned
  exact ⟨config, pair, returned, (login_recorded_iff rfl run rfl returned).mpr ⟨_, rfl⟩⟩

end AuthApi
