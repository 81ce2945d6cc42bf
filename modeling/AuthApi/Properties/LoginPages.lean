import AuthApi.Properties.LoginHistories
import AuthApi.Relational.Paging

/-! # Pages of the login history

`get_login_history` sorts by `logged_in_at` alone, and every page is a query of its own. So the pages
show every row once exactly when no page ends among logins of one moment that a reader can tell apart. The
offset of a page is a bigint, and a page beyond is no empty one: the query fails.
-/

namespace AuthApi

open Interleaving Interleaving.Program Relational

/-- The recorded logins of a user. -/
def World.loginsOf (world : World) (userId : UUID4) : List LoginHistory :=
  world.db.loginHistory.filter fun entry => entry.userId = userId

section Pages

variable {world : World} {userId : UUID4} {number size last : ℕ}
  {outcome : Except Exn (List LoginDataOut)}

theorem historyOrder_iff {rows : List LoginHistory} :
    world.HistoryOrder userId rows ↔ Descending LoginHistory.loggedInAt (world.loginsOf userId) rows :=
  ⟨fun order => ⟨order.1, order.2⟩, fun sorted => ⟨sorted.perm, sorted.ordered⟩⟩

/-- A query answers with a page of some sort of the rows it met. -/
theorem answers_selectLoginHistory {tid : Tid} {before after : World} {offset limit : ℕ}
    {reply : List LoginHistory}
    (answered : answers tid (.selectLoginHistory userId offset limit) before reply after) :
    ∃ sorted, Descending LoginHistory.loggedInAt (before.loginsOf userId) sorted ∧
      reply = (sorted.drop offset).take limit := by
  obtain ⟨choice, answered⟩ := answered
  simp only [World.answer, World.respond] at answered
  split at answered
  · next order =>
    cases answered
    exact ⟨choice.rows, historyOrder_iff.mp order, rfl⟩
  · cases answered

/-- How `get_login_history` may end for a page in a world. -/
def PageEnds (world : World) (userId : UUID4) (number size : ℕ) (outcome : Except Exn (List LoginDataOut)) :
    Prop :=
  ∃ tid after, (UserService.getLoginHistory userId number size).Runs (answers tid) world outcome after

theorem pageEnds_iff : PageEnds world userId number size outcome ↔
    if (number - 1) * size < 2 ^ 63 then
      ∃ sorted, Descending LoginHistory.loggedInAt (world.loginsOf userId) sorted ∧
        outcome = .ok (((sorted.drop ((number - 1) * size)).take size).map LoginHistory.out)
    else outcome = .error (.dbError .data) := by
  simp only [PageEnds, getLoginHistory_runs]
  split
  · constructor
    · rintro ⟨tid, after, reply, answered, rfl⟩
      obtain ⟨sorted, descending, rfl⟩ := answers_selectLoginHistory answered
      exact ⟨sorted, descending, rfl⟩
    · rintro ⟨sorted, descending, rfl⟩
      have order : world.HistoryOrder userId sorted := historyOrder_iff.mpr descending
      exact ⟨0, world.advance 0, _, ⟨{ uuid := numbered 0, rows := sorted }, if_pos order⟩, rfl⟩
  · exact ⟨fun ⟨_, _, failed, _⟩ => failed, fun failed => ⟨0, world, failed, rfl⟩⟩

/-- A page returned is one of some sort of the rows. -/
theorem pageEnds_ok {entries : List LoginDataOut} : PageEnds world userId number size (.ok entries) ↔
    (number - 1) * size < 2 ^ 63 ∧
      ∃ sorted, Descending LoginHistory.loggedInAt (world.loginsOf userId) sorted ∧
        entries = ((sorted.drop ((number - 1) * size)).take size).map LoginHistory.out := by
  rw [pageEnds_iff]
  split
  · next bigint =>
    constructor
    · rintro ⟨sorted, descending, same⟩
      exact ⟨bigint, sorted, descending, Except.ok.inj same⟩
    · rintro ⟨_, sorted, descending, rfl⟩
      exact ⟨sorted, descending, rfl⟩
  · next beyond => exact iff_of_false nofun fun both => beyond both.1

/-- Answers for the pages from 1 to `last`, while no login of the user is recorded. -/
def RequestedPages (world : World) (userId : UUID4) (size last : ℕ)
    (pages : ℕ → Except Exn (List LoginDataOut)) : Prop :=
  ∀ index < last, ∃ later : World, (later.loginsOf userId).Perm (world.loginsOf userId) ∧
    PageEnds later userId (index + 1) size (pages index)

/-- However the queries order tied rows, each of the pages is returned, those that hold the rows show every
row once and from newest to oldest, and the later ones are empty. -/
def PagesComplete (world : World) (userId : UUID4) (size last : ℕ) : Prop :=
  ∀ pages, RequestedPages world userId size last pages →
    ∃ shown : ℕ → List LoginDataOut, (∀ index < last, pages index = .ok (shown index)) ∧
      (concatenated (pageCount size (world.loginsOf userId).length) shown).Perm
        ((world.loginsOf userId).map LoginHistory.out) ∧
      ((concatenated (pageCount size (world.loginsOf userId).length) shown).Pairwise
        fun newer older => older.loggedInAt ≤ newer.loggedInAt) ∧
      ∀ index < last, pageCount size (world.loginsOf userId).length ≤ index → shown index = []

/-- With offsets that are bigints the requested pages are pages of sorts of the rows. -/
theorem requestedPages_iff {pages : ℕ → Except Exn (List LoginDataOut)}
    (bigint : ∀ index < last, index * size < 2 ^ 63) : RequestedPages world userId size last pages ↔
    ∃ sorts : ℕ → List LoginHistory,
      (∀ index, Descending LoginHistory.loggedInAt (world.loginsOf userId) (sorts index)) ∧
      ∀ index < last, pages index = .ok ((page size index (sorts index)).map LoginHistory.out) := by
  constructor
  · intro requested
    have found : ∀ index, ∃ sorted,
        Descending LoginHistory.loggedInAt (world.loginsOf userId) sorted ∧
        (index < last → pages index = .ok ((page size index sorted).map LoginHistory.out)) := by
      intro index
      by_cases within : index < last
      · obtain ⟨later, same, returned⟩ := requested index within
        rw [pageEnds_iff, Nat.add_sub_cancel, if_pos (bigint index within)] at returned
        obtain ⟨sorted, descending, shown⟩ := returned
        exact ⟨sorted, ⟨descending.perm.trans same, descending.ordered⟩, fun _ => shown⟩
      · exact ⟨_, descending_mergeSort _ _, fun requested => absurd requested within⟩
    choose sorts descending shown using found
    exact ⟨sorts, descending, shown⟩
  · rintro ⟨sorts, descending, shown⟩ index within
    refine ⟨world, List.Perm.refl _, pageEnds_iff.mpr ?_⟩
    rw [Nat.add_sub_cancel, if_pos (bigint index within)]
    exact ⟨_, descending index, shown index within⟩

/-- A requested page beyond the bigints fails. -/
theorem not_complete_beyond {index : ℕ} (requested : index < last) (beyond : 2 ^ 63 ≤ index * size) :
    ¬ PagesComplete world userId size last := by
  intro complete
  have sort := descending_mergeSort LoginHistory.loggedInAt (world.loginsOf userId)
  obtain ⟨shown, returned, _⟩ := complete
    (fun index => if index * size < 2 ^ 63 then
      .ok ((page size index ((world.loginsOf userId).mergeSort
        fun larger smaller => smaller.loggedInAt ≤ larger.loggedInAt)).map LoginHistory.out)
      else .error (.dbError .data))
    fun index _ => by
      refine ⟨world, List.Perm.refl _, pageEnds_iff.mpr ?_⟩
      rw [Nat.add_sub_cancel]
      by_cases bigint : index * size < 2 ^ 63
      · rw [if_pos bigint]
        exact ⟨_, sort, if_pos bigint⟩
      · rw [if_neg bigint]
        exact if_neg bigint
  have failed := returned index requested
  rw [if_neg (by omega)] at failed
  cases failed

theorem concatenated_map {α β : Type} (render : α → β) (count : ℕ) (pages : ℕ → List α) :
    concatenated count (fun index => (pages index).map render) =
      (concatenated count pages).map render := by
  simp [concatenated, List.map_flatMap]

/-- The order of the pages and the end of the history never depend on the ties. -/
theorem pages_ordered (positive : 0 < size) {sorts : ℕ → List LoginHistory}
    (descending : ∀ index, Descending LoginHistory.loggedInAt (world.loginsOf userId) (sorts index)) :
    ((concatenated (pageCount size (world.loginsOf userId).length) fun index =>
        page size index (sorts index)).Pairwise fun newer older =>
          older.loggedInAt ≤ newer.loggedInAt) ∧
      ∀ index, pageCount size (world.loginsOf userId).length ≤ index →
        page size index (sorts index) = [] := by
  constructor
  · have keys := @concatenated_keys _ _ _ _ _ size _ descending
      (pageCount size (world.loginsOf userId).length)
    have ordered : (((sorts 0).take (pageCount size (world.loginsOf userId).length * size)).map
        LoginHistory.loggedInAt).Pairwise fun newer older => older ≤ newer :=
      List.pairwise_map.mpr ((descending 0).ordered.sublist (List.take_sublist _ _))
    rw [← keys] at ordered
    exact List.pairwise_map.mp ordered
  · intro index later
    apply page_eq_nil positive
    rw [(descending index).perm.length_eq]
    exact later

/-- Of the pages from 1 to `last`, as many as hold a user's history or more, each is returned and together they
show every row exactly once if and only if the offset of the last one is a bigint and no page ends among logins
of one moment that differ in what is shown. -/
theorem pages_complete_iff (positive : 0 < size)
    (enough : pageCount size (world.loginsOf userId).length ≤ last) : PagesComplete world userId size last ↔
    (last - 1) * size < 2 ^ 63 ∧
      ∀ index, TiesAlike LoginHistory.loggedInAt LoginHistory.out (world.loginsOf userId) (index * size) := by
  by_cases bigint : (last - 1) * size < 2 ^ 63
  · have offsets : ∀ index < last, index * size < 2 ^ 63 := fun index within =>
      lt_of_le_of_lt (Nat.mul_le_mul_right size (by omega)) bigint
    rw [and_iff_right bigint, ← complete_iff positive]
    constructor
    · intro complete sorts descending
      obtain ⟨shown, returned, once, _⟩ := complete
        (fun index => .ok ((page size index (sorts index)).map LoginHistory.out))
        ((requestedPages_iff offsets).mpr ⟨sorts, descending, fun _ _ => rfl⟩)
      have same : concatenated (pageCount size (world.loginsOf userId).length) shown =
          concatenated (pageCount size (world.loginsOf userId).length)
            fun index => (page size index (sorts index)).map LoginHistory.out := by
        apply List.flatMap_congr
        intro index member
        exact (Except.ok.inj (returned index (by have := List.mem_range.mp member; omega))).symm
      rw [same, concatenated_map] at once
      exact once
    · intro complete pages requested
      obtain ⟨sorts, descending, shown⟩ := (requestedPages_iff offsets).mp requested
      obtain ⟨ordered, ended⟩ := pages_ordered positive descending
      refine ⟨_, shown, ?_⟩
      rw [concatenated_map]
      refine ⟨complete sorts descending, List.pairwise_map.mpr ordered, ?_⟩
      intro index _ later
      exact congrArg (List.map LoginHistory.out) (ended index later)
  · refine iff_of_false ?_ fun both => bigint both.1
    have some_page : last - 1 < last := by
      by_contra none
      obtain rfl : last = 0 := by omega
      simp at bigint
    exact not_complete_beyond some_page (by omega)

end Pages

section Runs

variable {Token : Type} {app : App Token} {condition : Condition Tid Reply World} {world : World}
  {requests : Tid → Request Token} {config : ServiceConfig Token} {userId : UUID4}

/-- The logins of a user stay as they are until one more is recorded. -/
theorem loginsOf_kept {specs : Tid → Trace Reply → Call → Prop} {newer older : List ServiceEvent}
    (lawful : Lawful answers condition specs world (newer ++ older))
    (quiet : ∀ event ∈ newer, ∀ row ∈ recorded event, row.userId ≠ userId) :
    (stateAfter world (newer ++ older)).loginsOf userId = (stateAfter world older).loginsOf userId := by
  induction newer with
  | nil => rfl
  | cons event newer ih =>
    have none : (recorded event).filter (fun row => row.userId = userId) = [] := by
      apply List.filter_eq_nil_iff.mpr
      intro row member
      simpa using quiet event List.mem_cons_self row member
    have step := (history_step lawful.1).1
    rw [lawful.1.follows] at step
    have kept := ih lawful.2 fun other member => quiet other (List.mem_cons_of_mem _ member)
    change event.after.db.loginHistory.filter _ = _
    rw [step, List.filter_append, none, List.append_nil]
    exact kept

/-- A request has answered with rows it selected, for the user its token names. -/
private def SelectedPage (app : App Token) (token : Token) (number size : ℕ) (trace : Trace Reply)
    (outcome : Except Exn (Outcome Token)) : Prop :=
  ∀ entries, outcome = .ok (.loginHistory entries) → ∃ payload user rows,
    app.accessPayload token = some payload ∧ ⟨.getUser payload.sub, some user⟩ ∈ trace ∧
    ⟨.selectLoginHistory user.id ((number - 1) * size) size, rows⟩ ∈ trace ∧
    entries = rows.map LoginHistory.out ∧ (number - 1) * size < 2 ^ 63

/-- `get_login_history` returns what one query selected at an offset that is a bigint. -/
private theorem getLoginHistory_selects {trace : Trace Reply} :
    (UserService.getLoginHistory userId number size).Along (fun _ _ => True)
      (fun later outcome => ∀ entries, outcome = .ok entries → ∃ rows,
        later = ⟨.selectLoginHistory userId ((number - 1) * size) size, rows⟩ :: trace ∧
        entries = rows.map LoginHistory.out ∧ (number - 1) * size < 2 ^ 63) trace := by
  refine along_accept (fun bigint => ⟨trivial, fun rows => ?_⟩) fun _ => ?_
  · rintro entries ⟨⟩
    exact ⟨rows, rfl, rfl, of_decide_eq_true bigint⟩
  · exact fun _ failed => by cases failed

private theorem historyPage_selects (token : Token) (number size : ℕ) :
    ((Request.userEndpoint token (.getLoginHistory number size)).program app).Along (fun _ _ => True)
      (SelectedPage app token number size) [] := by
  apply along_withSession fun _ => trivial
  apply Along.bind (getTokenUser_along (fun _ => trivial) token fun _ _ _ => trivial)
  · rintro user _ ⟨time, payload, accepted, _, rfl⟩
    apply Along.bind getLoginHistory_selects
    · intro shown later selected entries ended
      cases ended
      obtain ⟨rows, rfl, same, bigint⟩ := selected shown rfl
      exact ⟨payload, user, rows, accepted.1, by simp, by simp, same, bigint⟩
    · exact fun error _ _ entries ended => by cases ended
  · exact fun error _ _ entries ended => by cases ended

/-- In every run a request for a page returns a page of the history as it was at any moment before the
request, unless a login of the user has been recorded since. -/
theorem history_page_returned
    (run : Reaches answers condition (started app world requests) config) {tid : Tid} {token : Token}
    {number size : ℕ} {entries : List LoginDataOut} {newer older : List ServiceEvent}
    (requested : requests tid = .userEndpoint token (.getLoginHistory number size))
    (returned : config.threads tid = .done (.loginHistory entries))
    (split : config.past = newer ++ older) (later : ∀ event ∈ older, event.thread ≠ tid) :
    ∃ payload, app.accessPayload token = some payload ∧
      ((∀ event ∈ newer, ∀ row ∈ recorded event, row.userId ≠ payload.sub) →
        PageEnds (stateAfter world older) payload.sub number size (.ok entries)) := by
  have course := course_of_along (fun _ _ _ => True)
    (fun other trace outcome => other = tid → SelectedPage app token number size trace outcome) run
    fun other => by
      apply along_ends
      rintro rfl
      rw [requested]
      exact historyPage_selects token number size
  obtain ⟨payload, user, rows, accepted, read, selected, rfl, bigint⟩ := course.done returned rfl entries rfl
  have lawful := course.lawful
  refine ⟨payload, accepted, fun quiet => ?_⟩
  obtain ⟨_, _, _, found⟩ := seen_answer lawful read
  obtain ⟨row, stored, same⟩ := Option.map_eq_some_iff.mp (answers_getUser found).symm
  have owner : user.id = payload.sub := same ▸ Database.user?_id stored
  obtain ⟨after, event, before, cut, mover, _, _, answered⟩ := seen_event lawful selected
  rw [owner] at answered
  -- The query comes after the given moment, so it met the same logins.
  obtain ⟨between, rfl⟩ := suffix_of_not_mem (cut ▸ split ▸ List.suffix_append newer older)
    fun member => later event member mover
  have included : ∀ event ∈ between, event ∈ newer := by
    have same : after ++ event :: between = newer := by
      apply (List.append_left_inj older).mp
      rw [← split, cut, List.append_assoc, List.cons_append]
    intro event member
    rw [← same]
    simp [member]
  have suffix : between ++ older <:+ config.past :=
    cut ▸ (List.suffix_cons _ _).trans (List.suffix_append _ _)
  have kept := loginsOf_kept (lawful.suffix suffix) fun event member => quiet event (included event member)
  obtain ⟨sorted, descending, shown⟩ := answers_selectLoginHistory answered
  rw [kept] at descending
  exact pageEnds_ok.mpr ⟨bigint, sorted, descending, congrArg (List.map LoginHistory.out) shown⟩

end Runs

/-- The superuser logs in from two addresses and then asks for two pages of one login each. -/
private def twoLogins : Tid → Request Claims :=
  pool [.loginUser ⟨"admin@example.com", "password"⟩ ⟨some "203.0.113.7", none⟩ none,
    .loginUser ⟨"admin@example.com", "password"⟩ ⟨some "198.51.100.4", none⟩ none,
    .userEndpoint (adminAccess 1) (.getLoginHistory 1 1),
    .userEndpoint (adminAccess 1) (.getLoginHistory 2 1)]

private def loginFrom (id : ℕ) (address : String) : LoginHistory where
  id := numbered id
  userId := numbered 2
  ipAddress := address
  userAgent := none
  deviceId := none
  loggedInAt := 1700000000000000

private def home : LoginHistory := loginFrom 23 "203.0.113.7"

private def office : LoginHistory := loginFrom 26 "198.51.100.4"

/-- A request for a page, with the order in which the database lists the tied logins. -/
private def fetchPage (tid : Tid) (rows : List LoginHistory) : List (Tid × Choice) :=
  [move tid, move tid, (tid, { uuid := numbered 0, rows }), move tid]

private def loginMoves (tid : Tid) (access refresh row : ℕ) : List (Tid × Choice) :=
  [move tid, move tid, move tid access, move tid, move tid refresh, move tid row, move tid, move tid]

/-- Both pages show the login from home, and none the one from the office. -/
theorem tied_login_repeated : ∃ config,
    Reaches answers freshDraws (started transparentApp bootstrappedWorld twoLogins) config ∧
    config.now.db.loginHistory = [home, office] ∧
    (config.threads 2).value? = some (.loginHistory [home.out]) ∧
    (config.threads 3).value? = some (.loginHistory [home.out]) ∧
    ¬ PagesComplete config.now (numbered 2) 1 2 := by
  have played : ((started transparentApp bootstrappedWorld twoLogins).playAll World.answer freshDraws
      (loginMoves 0 21 22 23 ++ loginMoves 1 24 25 26 ++ fetchPage 2 [home, office] ++
        fetchPage 3 [office, home])).any (fun config => decide (
          config.now.db.loginHistory = [home, office] ∧
          (config.threads 2).value? = some (.loginHistory [home.out]) ∧
          (config.threads 3).value? = some (.loginHistory [home.out]))) = true := by decide
  obtain ⟨config, run, checked⟩ := Config.playAll_exists played
  obtain ⟨history, first, second⟩ := of_decide_eq_true checked
  refine ⟨config, run, history, first, second, fun complete => ?_⟩
  have logins : config.now.loginsOf (numbered 2) = [home, office] := by
    rw [World.loginsOf, history]
    decide
  have sort (index : ℕ) : Descending LoginHistory.loggedInAt [home, office]
      (if index = 0 then [home, office] else [office, home]) := by
    split
    · exact ⟨List.Perm.refl _, by decide⟩
    · exact ⟨List.Perm.swap _ _ _, by decide⟩
  have requested : RequestedPages config.now (numbered 2) 1 2 fun index =>
      .ok ((page 1 index (if index = 0 then [home, office] else [office, home])).map LoginHistory.out) :=
    (requestedPages_iff fun index within => by omega).mpr
      ⟨_, fun index => by rw [logins]; exact sort index, fun _ _ => rfl⟩
  obtain ⟨shown, returned, once, _⟩ := complete _ requested
  have first := Except.ok.inj (returned 0 (by decide))
  have second := Except.ok.inj (returned 1 (by decide))
  have pages : concatenated 2 shown = [home.out, home.out] := by
    rw [concatenated, List.range_succ, List.range_one, List.cons_append, List.nil_append, List.flatMap_cons,
      List.flatMap_singleton, ← first, ← second]
    rfl
  rw [logins] at once
  change (concatenated 2 shown).Perm _ at once
  rw [pages] at once
  revert once
  decide

/-- The same two logins, in a world of their own. -/
private def tiedWorld : World :=
  { bootstrappedWorld with
    db := { bootstrappedDb with
      loginHistory := [home, office]
      consistent := by decide } }

/-- On one page of two they are both shown, on two pages of one they need not be. -/
theorem pages_complete_iff_tied :
    PagesComplete tiedWorld (numbered 2) 2 1 ∧ ¬ PagesComplete tiedWorld (numbered 2) 1 2 := by
  constructor
  · apply (pages_complete_iff (by decide) (by decide)).mpr
    refine ⟨by decide, ?_⟩
    intro index bound straddles
    have after := straddles.1
    have before : index * 2 < 2 := straddles.lt_length
    omega
  · intro complete
    have alike := ((pages_complete_iff (by decide) (by decide)).mp complete).2 1 1700000000000000
      ⟨by decide, by decide⟩ home (by decide) office (by decide)
    revert alike
    decide

end AuthApi
