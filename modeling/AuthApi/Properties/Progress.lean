import AuthApi.Run.ApiEnds
import AuthApi.Run.Progress

/-! # No request is stuck

A request may have to wait for a new user that another one has flushed and not yet committed. It holds no open
statement itself then, and the one it waits for can go on. A commit is one step here, so locks within a commit are left
out, and so are the connections of the pool. In every state that the service can be in every request can still be
answered.
-/

namespace AuthApi

open Interleaving Interleaving.Program

variable {Token : Type} {app : App Token}

/-- Hidden calls open and close nothing. -/
theorem opened_hidden {exchange : Exchange Reply} (isHidden : exchange.request.IsHidden app) (older : Trace Reply) :
    opened (exchange :: older) = opened older := by
  obtain ⟨request, reply⟩ := exchange
  obtain rfl | ⟨identity, windowMs, rfl⟩ := isHidden <;> rfl

theorem Shows.opened {trace shown : Trace Reply} (shows : Shows app trace shown) : opened trace = opened shown := by
  induction shows with
  | nil => rfl
  | skip isHidden rest ih => rw [opened_hidden isHidden, ih]
  | keep entry rest ih => rw [opened_cons, opened_cons, ih]

theorem opened_of_hidden {trace : Trace Reply} (silent : ∀ exchange ∈ trace, exchange.request.IsHidden app) :
    opened trace = [] := by
  induction trace with
  | nil => rfl
  | cons exchange older ih =>
    obtain ⟨isHidden, silent⟩ := List.forall_mem_cons.mp silent
    rw [opened_hidden isHidden, ih silent]

/-- Every request leaves only new users open, and nothing when it is answered. -/
theorem ApiRequest.orderly (request : ApiRequest Token) :
    (request.program app).Along Orderly
      (fun trace outcome => opened trace = [] ∧ ∃ response, outcome = .ok response) [] := by
  apply (request.along fun service asks => asks.ends_orderly).mono
  · rintro trace call (isHidden | ⟨service, shown, asks, shows, orderly⟩)
    · obtain rfl | ⟨identity, windowMs, rfl⟩ := isHidden <;> exact orderly_of_plain rfl rfl
    · exact orderly.of_opened shows.opened
  · rintro trace outcome ⟨response, rfl, answered⟩
    refine ⟨?_, response, rfl⟩
    cases answered with
    | turnedAway requestId has error away silent => exact opened_of_hidden silent
    | replied requestId has service asks shown shows image ends routed replies =>
      rw [shows.opened]
      exact ends.2

section Runs

variable {world : World} {requests : Tid → ApiRequest Token} {config : ApiConfig Token} {tid : Tid}

theorem api_inOrder (none : world.flushed = [])
    (run : Reaches answers unrestricted (receivedAll app world requests) config) : InOrder config := by
  apply InOrder.run _ run
  apply InOrder.start none
  exact fun tid => (requests tid).orderly.mono (fun _ _ issued => issued) fun _ _ ends => ends.1

/-- The pending call of the request has to wait for an open transaction. -/
def Waits (config : ApiConfig Token) (tid : Tid) : Bool :=
  match config.threads tid with
  | .call request _ => config.now.blocked tid request.statements
  | _ => false

/-- A request that waits cannot move. -/
theorem not_stepBy_of_waits (waits : Waits config tid = true) (next : ApiConfig Token) :
    ¬ StepBy answers tid config next := by
  rintro ⟨pending, answered⟩
  simp only [Waits, pending] at waits
  have clear := answers_iff_clear.mp ⟨_, _, answered⟩
  rw [blocked_eq_false.mpr clear] at waits
  cases waits

/-- Where no transaction was open at first, an answered request has nothing open, and a request that waits has
nothing open either: it waits for a new user that another request has open, and that request can move. -/
theorem waiting_requests_hold_nothing (none : world.flushed = [])
    (run : Reaches answers unrestricted (receivedAll app world requests) config) (tid : Tid) :
    (∀ response, config.threads tid = .done response → config.now.openOf tid = []) ∧
    (Waits config tid = true → config.now.openOf tid = [] ∧
      ∃ owner user, owner ≠ tid ∧ .insertUser user ∈ config.now.openOf owner ∧
        ∃ next, StepBy answers owner config next) := by
  have inOrder := api_inOrder none run
  refine ⟨fun response done => inOrder.ended (congrArg outcome? done), fun waits => ⟨?_, ?_⟩⟩
  · by_contra holds
    obtain ⟨next, step⟩ := inOrder.holder_moves holds
    exact not_stepBy_of_waits waits next step
  · unfold Waits at waits
    split at waits
    · next request rest pending =>
      have blocked : ¬ config.now.Clear tid request := by
        intro clear
        rw [blocked_eq_false.mpr clear] at waits
        cases waits
      simp only [World.Clear, not_forall] at blocked
      obtain ⟨owner, distinct, row, holds, _⟩ := blocked
      obtain ⟨user, rfl⟩ := inOrder.untangled.inserts owner row holds
      exact ⟨owner, user, distinct, holds, inOrder.holder_moves (List.ne_nil_of_mem holds)⟩
    · cases waits

/-- From every state that the service can be in, it can answer any number of requests. -/
theorem requests_can_be_answered (none : world.flushed = [])
    (run : Reaches answers unrestricted (receivedAll app world requests) config) (tids : List Tid) :
    ∃ last, Reaches answers unrestricted config last ∧
      ∀ tid ∈ tids, ∃ response, last.threads tid = .done response := by
  obtain ⟨last, rest, _, ended⟩ := Reaches.all_end (fun _ inOrder => inOrder.ends) (api_inOrder none run) tids
  refine ⟨last, rest, fun tid member => ?_⟩
  obtain ⟨outcome, finished⟩ := Option.isSome_iff_exists.mp (ended tid member)
  have course := api_course _ _ (run.trans rest) fun tid => (requests tid).orderly
  obtain ⟨_, response, rfl⟩ := course.finished finished
  exact ⟨response, outcome?_eq_ok.mp finished⟩

end Runs

/-- A callback that registers a user while somebody registers with the same email. -/
private def rivals : Tid → ApiRequest Claims
  | 0 =>
    let state := (numbered 11).val.str
    .confirmLoginYandex ⟨"GET", none, [], [("state", state)], [("code", "code"), ("state", state)]⟩
  | _ => .createUser ⟨"POST", none, [], [], []⟩ (.data ⟨"a@example.com", "pw"⟩)

/-- They can come to wait for each other. -/
theorem rivals_meet : ∃ config : ApiConfig Claims,
    Reaches answers unrestricted (receivedAll transparentApp pendingLogins rivals) config ∧
      Waits config 1 = true := by
  have played : ((receivedAll transparentApp pendingLogins rivals).playAll World.answer unrestricted
      ([move 0, move 0, move 0, move 0, fetch 0 tokenReply, fetch 0 (profileReply "7" "a@example.com"), move 0, move 0,
        move 0, move 0 4, move 0, move 0 5, move 0] ++
        [move 1, move 1, move 1, move 1, move 1, move 1 6])).any (fun config => Waits config 1) = true := by
    decide +kernel
  exact Config.playAll_exists played

theorem waiting_requests_hold_nothing_rivals : ∃ config : ApiConfig Claims, Waits config 1 = true ∧
    config.now.openOf 1 = [] ∧ ∃ owner user, owner ≠ 1 ∧ .insertUser user ∈ config.now.openOf owner ∧
      ∃ next, StepBy answers owner config next := by
  obtain ⟨config, run, waits⟩ := rivals_meet
  exact ⟨config, waits, (waiting_requests_hold_nothing rfl run 1).2 waits⟩

theorem requests_can_be_answered_rivals : ∃ config last : ApiConfig Claims, Waits config 1 = true ∧
    Reaches answers unrestricted config last ∧ ∀ tid ∈ [0, 1], ∃ response, last.threads tid = .done response := by
  obtain ⟨config, run, waits⟩ := rivals_meet
  obtain ⟨last, rest, answered⟩ := requests_can_be_answered rfl run [0, 1]
  exact ⟨config, last, waits, rest, answered⟩

end AuthApi
