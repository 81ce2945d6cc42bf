import AuthApi.Relational.Paging
import AuthApi.Run.Alone

/-! # Open statements

What a transaction has flushed and not yet ended, read off the trace of its request, and who has to wait for it. A
request is orderly if it leaves only new users open, and if a statement it issues beside open ones competes with
nothing the open ones do not compete with.
-/

namespace AuthApi

open Interleaving Interleaving.Program Relational

/-- The statements that a transaction executes with a call. -/
def Call.statements : Call → List Write
  | .flush writes => writes
  | .commit _ writes => writes
  | _ => []

/-- The call leaves no statement open. -/
def Call.isDirect : Call → Bool
  | .flush _ => false
  | _ => true

/-- What a request holds after a call, by what it held before. -/
def openedBy (held : List Write) : (call : Call) → Reply call → List Write
  | .flush writes, .ok _ => writes
  | .flush _, .error _ => []
  | .commit .request _, _ => []
  | .rollback, _ => []
  | .close, _ => []
  | _, _ => held

/-- What a request has flushed in the transaction it is in. -/
def opened : Trace Reply → List Write
  | [] => []
  | exchange :: older => openedBy (opened older) exchange.request exchange.reply

/-- The open statements of a request. -/
def World.openOf (world : World) (tid : Tid) : List Write :=
  (world.flushed.filter fun entry => entry.1 = tid).map Prod.snd

/-- The statement waits for no other one. -/
def Write.IsFree (statement : Write) : Prop := ∀ row, statement.waitsFor row = false

structure Orderly (trace : Trace Reply) (call : Call) : Prop where
  covered : ∀ statement ∈ call.statements, opened trace = [] ∨ statement ∈ opened trace ∨ statement.IsFree
  inserts : call.isDirect = false → ∀ statement ∈ call.statements, ∃ user, statement = .insertUser user

section Traces

variable {trace : Trace Reply} {call : Call}

@[simp] theorem opened_cons (exchange : Exchange Reply) (older : Trace Reply) :
    opened (exchange :: older) = openedBy (opened older) exchange.request exchange.reply := rfl

/-- What a request holds after a call it held before, or it has flushed it. -/
theorem mem_openedBy {held : List Write} {reply : Reply call} {statement : Write}
    (member : statement ∈ openedBy held call reply) :
    statement ∈ held ∨ call.isDirect = false ∧ statement ∈ call.statements := by
  cases call with
  | flush writes =>
    cases reply with
    | error error => cases member
    | ok _ => exact .inr ⟨rfl, member⟩
  | commit session writes =>
    cases session with
    | request => cases member
    | defaultRole => exact .inl member
  | rollback => cases member
  | close => cases member
  | _ => exact .inl member

/-- A request without open statements may do anything but a flush. -/
theorem orderly_of_direct (closed : opened trace = []) (isDirect : call.isDirect = true) : Orderly trace call where
  covered _ _ := .inl closed
  inserts flushes := by
    rw [isDirect] at flushes
    cases flushes

/-- A call without statements is always in order. -/
theorem orderly_of_plain (plain : call.statements = []) (isDirect : call.isDirect = true) : Orderly trace call where
  covered statement issued := by
    rw [plain] at issued
    cases issued
  inserts flushes := by
    rw [isDirect] at flushes
    cases flushes

/-- Only what is open counts. -/
theorem Orderly.of_opened {other : Trace Reply} (orderly : Orderly other call) (same : opened trace = opened other) :
    Orderly trace call := ⟨fun statement issued => same ▸ orderly.covered statement issued, orderly.inserts⟩

/-- A call that flushes nothing opens nothing. -/
theorem openedBy_nil (isDirect : call.isDirect = true) (reply : Reply call) : openedBy [] call reply = [] := by
  apply List.eq_nil_iff_forall_not_mem.mpr
  intro statement member
  obtain held | ⟨flushes, _⟩ := mem_openedBy member
  · cases held
  · rw [isDirect] at flushes
    cases flushes

/-- A program without a flush is orderly. -/
theorem along_direct {ε α : Type} {program : Program Reply ε α} {post : Trace Reply → Except ε α → Prop}
    (along : program.Along (fun _ call => call.isDirect = true) post trace) (closed : opened trace = []) :
    program.Along Orderly (fun later outcome => post later outcome ∧ opened later = []) trace := by
  induction program generalizing trace with
  | done value => exact ⟨along, closed⟩
  | raise error => exact ⟨along, closed⟩
  | call request next ih =>
    refine ⟨orderly_of_direct closed along.1, fun reply => ih reply (along.2 reply) ?_⟩
    rw [opened_cons, closed]
    exact openedBy_nil along.1 reply

end Traces

section World

variable {world before after : World} {tid other : Tid}

theorem mem_openOf {statement : Write} : statement ∈ world.openOf tid ↔ (tid, statement) ∈ world.flushed := by
  simp [World.openOf]

theorem openOf_same (same : after.flushed = before.flushed) (tid : Tid) : after.openOf tid = before.openOf tid := by
  rw [World.openOf, same, World.openOf]

/-- The open statements of the others are still there. -/
theorem filter_others (distinct : other ≠ tid) :
    (world.others tid).filter (fun entry => entry.1 = other) = world.flushed.filter fun entry => entry.1 = other := by
  rw [World.others, List.filter_filter]
  apply List.filter_congr
  intro entry _
  by_cases own : entry.1 = other
  · simp [own, distinct]
  · simp [own]

/-- A transaction that goes on with other open statements, or none. -/
theorem openOf_replaced {writes : List Write}
    (replaced : after.flushed = before.others tid ++ writes.map fun write => (tid, write)) :
    after.openOf tid = writes ∧ ∀ other, other ≠ tid → after.openOf other = before.openOf other := by
  constructor
  · have none : (before.others tid).filter (fun entry => entry.1 = tid) = [] := by
      simp [World.others, List.filter_filter]
    have all : (writes.map fun write => (tid, write)).filter (fun entry => entry.1 = tid) =
        writes.map fun write => (tid, write) := List.filter_eq_self.mpr (by simp)
    rw [World.openOf, replaced, List.filter_append, none, all, List.nil_append, List.map_map]
    exact List.map_id writes
  · intro other distinct
    have absent : (writes.map fun write => (tid, write)).filter (fun entry => entry.1 = other) = [] := by
      simp [Ne.symm distinct]
    rw [World.openOf, replaced, List.filter_append, absent, List.append_nil, filter_others distinct, World.openOf]

theorem openOf_ended (ended : after.flushed = before.others tid) :
    after.openOf tid = [] ∧ ∀ other, other ≠ tid → after.openOf other = before.openOf other :=
  openOf_replaced (by simpa using ended)

/-- A call changes what its own request holds, as its reply says. -/
theorem answers_openOf {call : Call} {reply : Reply call} (answered : answers tid call before reply after) :
    after.openOf tid = openedBy (before.openOf tid) call reply ∧
      ∀ other, other ≠ tid → after.openOf other = before.openOf other := by
  obtain ⟨choice, answered⟩ := answered
  simp only [World.answer] at answered
  have kept {held : List Write} (same : after.flushed = before.flushed) (holds : held = before.openOf tid) :
      after.openOf tid = held ∧ ∀ other, other ≠ tid → after.openOf other = before.openOf other :=
    ⟨(openOf_same same tid).trans holds.symm, fun other _ => openOf_same same other⟩
  cases call with
  | flush writes =>
    simp only [World.respond, World.flush] at answered
    split at answered
    · cases answered
    · split at answered
      · cases answered
        exact openOf_replaced rfl
      · cases answered
        exact openOf_ended rfl
  | commit session writes =>
    simp only [World.respond, World.commit] at answered
    split at answered
    · cases answered
    · split at answered <;> cases answered <;> cases session
      · exact openOf_ended rfl
      · exact kept rfl rfl
      · exact openOf_ended rfl
      · exact kept rfl rfl
  | rollback =>
    cases answered
    exact openOf_ended rfl
  | close =>
    cases answered
    exact openOf_ended rfl
  | selectLoginHistory userId offset limit =>
    simp only [World.respond] at answered
    split at answered
    · cases answered
      exact kept rfl rfl
    · cases answered
  | redisGet key =>
    simp only [World.respond, World.redisCommand, Option.some.injEq] at answered
    split at answered <;> cases answered <;> exact kept rfl rfl
  | redisSetex key ttl value =>
    simp only [World.respond, World.redisCommand, Option.some.injEq] at answered
    split at answered <;> cases answered <;> exact kept rfl rfl
  | redisGetdel key =>
    simp only [World.respond, World.redisCommand, Option.some.injEq] at answered
    split at answered <;> cases answered <;> exact kept rfl rfl
  | redisIncrWithTtl key windowMs =>
    simp only [World.respond, World.redisCommand, Option.some.injEq] at answered
    split at answered <;> cases answered <;> exact kept rfl rfl
  | _ =>
    cases answered
    exact kept rfl rfl

end World

section Waiting

variable {world before after : World} {tid other : Tid} {call : Call}

/-- No statement of the call competes with an open one of another request. -/
def World.Clear (world : World) (tid : Tid) (call : Call) : Prop :=
  ∀ owner, owner ≠ tid → ∀ row ∈ world.openOf owner, ∀ statement ∈ call.statements, statement.waitsFor row = false

theorem blocked_eq_false {writes : List Write} : world.blocked tid writes = false ↔
    ∀ owner, owner ≠ tid → ∀ row ∈ world.openOf owner, ∀ statement ∈ writes, statement.waitsFor row = false := by
  simp only [World.blocked, List.any_eq_false, Bool.and_eq_true, decide_eq_true_eq, List.any_eq_true, not_and,
    not_exists, Prod.forall, mem_openOf]
  constructor
  · intro free owner distinct row member statement issued
    simpa using free owner row member distinct statement issued
  · intro free owner row member distinct statement issued
    simpa using free owner distinct row member statement issued

/-- A call is answered if and only if none of its statements has to wait. -/
theorem answers_iff_clear : (∃ reply after, answers tid call world reply after) ↔ world.Clear tid call := by
  constructor
  · rintro ⟨reply, after, choice, answered⟩
    have unblocked {writes : List Write} (free : (world.advance choice.delay).blocked tid writes ≠ true) :
        ∀ owner, owner ≠ tid → ∀ row ∈ world.openOf owner, ∀ statement ∈ writes,
          statement.waitsFor row = false :=
      blocked_eq_false.mp (Bool.eq_false_iff.mpr free)
    cases call with
    | flush writes =>
      simp only [World.answer, World.respond, World.flush] at answered
      split at answered
      · cases answered
      · next free => exact unblocked free
    | commit session writes =>
      simp only [World.answer, World.respond, World.commit] at answered
      split at answered
      · cases answered
      · next free => exact unblocked free
    | _ => exact fun _ _ _ _ _ issued => absurd issued List.not_mem_nil
  · intro clear
    have answer {result : Reply call × World} (choice : Choice) (answered : World.answer tid choice call world =
        some result) : ∃ reply after, answers tid call world reply after := ⟨result.1, result.2, choice, answered⟩
    have free {writes : List Write} (same : call.statements = writes) :
        (world.advance 0).blocked tid writes = false := blocked_eq_false.mpr (same ▸ clear)
    cases call with
    | flush writes =>
      have unblocked := free rfl
      have answered : ∃ result, World.answer tid {} (.flush writes) world = some result := by
        simp only [World.answer, World.respond, World.flush]
        split
        · next blocked => cases unblocked.symm.trans blocked
        · split <;> exact ⟨_, rfl⟩
      exact answer {} answered.choose_spec
    | commit session writes =>
      have unblocked := free rfl
      have answered : ∃ result, World.answer tid {} (.commit session writes) world = some result := by
        simp only [World.answer, World.respond, World.commit]
        split
        · next blocked => cases unblocked.symm.trans blocked
        · split <;> exact ⟨_, rfl⟩
      exact answer {} answered.choose_spec
    | selectLoginHistory userId offset limit =>
      have sorted := descending_mergeSort LoginHistory.loggedInAt
        (world.db.loginHistory.filter fun entry => entry.userId = userId)
      exact answer { rows := _ } (if_pos ⟨sorted.perm, sorted.ordered⟩)
    | _ => exact answer {} rfl

/-- Only new users are open, and those of different requests do not compete. -/
structure World.Untangled (world : World) : Prop where
  inserts : ∀ tid, ∀ statement ∈ world.openOf tid, ∃ user, statement = .insertUser user
  apart : ∀ tid other, other ≠ tid → ∀ row ∈ world.openOf other, ∀ statement ∈ world.openOf tid,
    statement.waitsFor row = false

theorem waitsFor_symm (user row : NewUser) :
    (Write.insertUser user).waitsFor (.insertUser row) = (Write.insertUser row).waitsFor (.insertUser user) := by
  simp only [Write.waitsFor, eq_comm]

/-- Requests that leave only new users open do not get into each other's way. -/
theorem World.Untangled.step {reply : Reply call} (untangled : before.Untangled)
    (answered : answers tid call before reply after)
    (inserts : call.isDirect = false → ∀ statement ∈ call.statements, ∃ user, statement = .insertUser user) :
    after.Untangled := by
  obtain ⟨own, others⟩ := answers_openOf answered
  have clear := answers_iff_clear.mp ⟨reply, after, answered⟩
  -- what the request holds now does not compete with what the others hold
  have apart : ∀ other, other ≠ tid → ∀ row ∈ before.openOf other, ∀ statement ∈ after.openOf tid,
      statement.waitsFor row = false := by
    intro other distinct row member statement holds
    rw [own] at holds
    obtain held | ⟨_, issued⟩ := mem_openedBy holds
    · exact untangled.apart tid other distinct row member statement held
    · exact clear other distinct row member statement issued
  have inserts : ∀ statement ∈ after.openOf tid, ∃ user, statement = .insertUser user := by
    intro statement holds
    rw [own] at holds
    obtain held | ⟨flushed, issued⟩ := mem_openedBy holds
    · exact untangled.inserts tid statement held
    · exact inserts flushed statement issued
  constructor
  · intro other
    by_cases same : other = tid
    · exact same ▸ inserts
    · rw [others other same]
      exact untangled.inserts other
  · intro first second distinct row member statement holds
    by_cases firstOwn : first = tid
    · subst firstOwn
      rw [others second distinct] at member
      exact apart second distinct row member statement holds
    · rw [others first firstOwn] at holds
      by_cases secondOwn : second = tid
      · subst secondOwn
        obtain ⟨user, rfl⟩ := untangled.inserts first statement holds
        obtain ⟨inserted, rfl⟩ := inserts row member
        rw [waitsFor_symm]
        exact apart first firstOwn _ holds _ member
      · rw [others second secondOwn] at member
        exact untangled.apart first second distinct row member statement holds

/-- Who holds open statements does not have to wait. -/
theorem World.Untangled.clear {trace : Trace Reply} (untangled : world.Untangled) (orderly : Orderly trace call)
    (held : opened trace = world.openOf tid) (holds : opened trace ≠ []) : world.Clear tid call := by
  intro owner distinct row member statement issued
  obtain closed | held' | free := orderly.covered statement issued
  · exact absurd closed holds
  · exact untangled.apart tid owner distinct row member statement (held ▸ held')
  · exact free row

end Waiting

end AuthApi
