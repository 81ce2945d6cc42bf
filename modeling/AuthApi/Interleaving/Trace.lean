import AuthApi.Interleaving.Pool
import Mathlib.Data.List.Infix
import Mathlib.Data.List.Count

/-! # Traces and lawful histories

A thread sees the replies to its own calls only. `Program.Along` checks a program against such
traces: every call it issues meets a specification that may refer to the trace so far, and it ends
in a postcondition on its whole trace. `Lawful` is what a reachable history is then known to be,
event by event; invariants of runs are proved by induction on it, without the programs.
-/

namespace Interleaving

section History

variable {α : Type*} {past newer older rest : List α} {event other : α}

/-- What happened before the entry was there had happened when it came. -/
theorem suffix_of_not_mem (suffix : rest <:+ newer ++ event :: older) (fresh : event ∉ rest) :
    rest <:+ older := by
  obtain within | within :=
    List.suffix_or_suffix_of_suffix suffix (List.suffix_append newer (event :: older))
  · obtain rfl | before := List.suffix_cons_iff.mp within
    · exact absurd List.mem_cons_self fresh
    · exact before
  · exact absurd (within.subset List.mem_cons_self) fresh

/-- An entry that came after another is among the newer ones. -/
theorem mem_newer (after : other :: rest <:+ newer ++ event :: older) (before : event :: older <:+ rest) :
    other ∈ newer := by
  obtain ⟨front, split⟩ := after
  obtain ⟨middle, rfl⟩ := before
  have same : front ++ other :: middle = newer := by
    rw [← List.cons_append, ← List.append_assoc] at split
    exact List.append_cancel_right split
  simp [← same]

/-- What happens at most once has one position. -/
theorem eq_of_unique {p : α → List α → Prop}
    (unique : ∀ {event older other rest}, event :: older <:+ past → p event older →
      other :: rest <:+ older → p other rest → False)
    (first : event :: older <:+ past) (happened : p event older)
    (second : other :: rest <:+ past) (again : p other rest) : event :: older = other :: rest := by
  obtain within | within := List.suffix_or_suffix_of_suffix first second
  · obtain same | before := List.suffix_cons_iff.mp within
    · exact same
    · exact (unique second again before happened).elim
  · obtain same | before := List.suffix_cons_iff.mp within
    · exact same.symm
    · exact (unique first happened before again).elim

/-- What happens at most once is counted at most once. -/
theorem countP_le_one {p : α → Bool}
    (unique : ∀ event older, event :: older <:+ past → p event = true →
      ∀ other ∈ older, p other = false) : past.countP p ≤ 1 := by
  induction past with
  | nil => simp
  | cons event past ih =>
    rw [List.countP_cons]
    split
    · next happens =>
      have none : past.countP p = 0 := List.countP_eq_zero.mpr fun other member again => by
        rw [unique event past (List.suffix_refl _) happens other member] at again
        cases again
      omega
    · exact ih fun first older suffix => unique first older (suffix.trans (List.suffix_cons _ _))

end History

variable {ι C σ ε α β : Type*} {R : C → Type*}

/-- One call and its reply, as the calling thread sees it. -/
structure Exchange {C : Type*} (R : C → Type*) where
  request : C
  reply : R request

/-- The exchanges of one thread, newest first. -/
abbrev Trace {C : Type*} (R : C → Type*) := List (Exchange R)

namespace Program

variable (spec : Trace R → C → Prop)

/-- From the given trace on, every call meets `spec` and the program ends in `post`. -/
def Along (post : Trace R → Except ε α → Prop) : Program R ε α → Trace R → Prop
  | .done value, trace => post trace (.ok value)
  | .raise error, trace => post trace (.error error)
  | .call request next, trace =>
      spec trace request ∧ ∀ reply, (next reply).Along post (⟨request, reply⟩ :: trace)

variable {spec} {post : Trace R → Except ε α → Prop} {trace : Trace R}

@[simp] theorem along_done (value : α) :
    (done value : Program R ε α).Along spec post trace ↔ post trace (.ok value) := Iff.rfl

@[simp] theorem along_raise (error : ε) :
    (raise error : Program R ε α).Along spec post trace ↔ post trace (.error error) := Iff.rfl

@[simp] theorem along_call (request : C) (next : R request → Program R ε α) :
    (call request next).Along spec post trace ↔
      spec trace request ∧ ∀ reply, (next reply).Along spec post (⟨request, reply⟩ :: trace) :=
  Iff.rfl

/-- Without demands every program is on course. -/
theorem along_any {program : Program R ε α} :
    program.Along (fun _ _ => True) (fun _ _ => True) trace := by
  induction program generalizing trace with
  | done value => trivial
  | raise error => trivial
  | call request next ih => exact ⟨trivial, fun reply => ih reply⟩

/-- A program that is on course for every key is on course for all of them; a key may be a hypothesis. -/
theorem along_forall {κ : Sort*} {spec : κ → Trace R → C → Prop} {post : κ → Trace R → Except ε α → Prop}
    {program : Program R ε α} (along : ∀ key, program.Along (spec key) (post key) trace) :
    program.Along (fun trace request => ∀ key, spec key trace request)
      (fun trace outcome => ∀ key, post key trace outcome) trace := by
  induction program generalizing trace with
  | done value => exact along
  | raise error => exact along
  | call request next ih =>
    constructor
    · exact fun key => (along key).1
    · exact fun reply => ih reply fun key => (along key).2 reply

theorem Along.mono {wider : Trace R → C → Prop} {other : Trace R → Except ε α → Prop}
    (calls : ∀ trace request, spec trace request → wider trace request)
    (ends : ∀ trace outcome, post trace outcome → other trace outcome)
    {program : Program R ε α} (along : program.Along spec post trace) :
    program.Along wider other trace := by
  induction program generalizing trace with
  | done value => exact ends trace _ along
  | raise error => exact ends trace _ along
  | call request next ih => exact ⟨calls trace request along.1, fun reply => ih reply (along.2 reply)⟩

/-- The ends that a program has for every key, or under a hypothesis. -/
theorem along_ends {κ : Sort*} {post : κ → Trace R → Except ε α → Prop} {program : Program R ε α}
    (along : ∀ key, program.Along (fun _ _ => True) (post key) trace) :
    program.Along (fun _ _ => True) (fun trace outcome => ∀ key, post key trace outcome) trace :=
  (along_forall along).mono (fun _ _ _ => trivial) fun _ _ ends => ends

/-- What a trace can only gain stays true to the end. -/
theorem along_of_stable {p : Trace R → Prop} (stable : ∀ exchange trace, p trace → p (exchange :: trace))
    (holds : p trace) {program : Program R ε α} :
    program.Along (fun later _ => p later) (fun later _ => p later) trace := by
  induction program generalizing trace with
  | done value => exact holds
  | raise error => exact holds
  | call request next ih => exact ⟨holds, fun reply => ih reply (stable _ trace holds)⟩

/-- What is known of a program in two ways is known of it together. -/
theorem Along.and {wider : Trace R → C → Prop} {other : Trace R → Except ε α → Prop}
    {program : Program R ε α} (left : program.Along spec post trace)
    (right : program.Along wider other trace) :
    program.Along (fun trace request => spec trace request ∧ wider trace request)
      (fun trace outcome => post trace outcome ∧ other trace outcome) trace := by
  induction program generalizing trace with
  | done value => exact ⟨left, right⟩
  | raise error => exact ⟨left, right⟩
  | call request next ih => exact ⟨⟨left.1, right.1⟩, fun reply => ih reply (left.2 reply) (right.2 reply)⟩

/-- What every admitted call keeps true of the trace is still true at the end. -/
theorem Along.keeps {p : Trace R → Prop} {program : Program R ε α} (along : program.Along spec post trace)
    (kept : ∀ trace request reply, spec trace request → p trace → p (⟨request, reply⟩ :: trace))
    (holds : p trace) : program.Along spec (fun later outcome => post later outcome ∧ p later) trace := by
  induction program generalizing trace with
  | done value => exact ⟨along, holds⟩
  | raise error => exact ⟨along, holds⟩
  | call request next ih =>
    exact ⟨along.1, fun reply => ih reply (along.2 reply) (kept trace request reply along.1 holds)⟩

/-- The trace only grows, so what it recorded at the start is still there at the end. -/
theorem Along.extends {program : Program R ε α} (along : program.Along spec post trace) :
    program.Along spec (fun later outcome => post later outcome ∧ trace <:+ later) trace :=
  along.keeps (fun _ _ _ _ grown => grown.trans (List.suffix_cons _ _)) (List.suffix_refl _)

/-- The postcondition of the first part is what its continuation may start from. -/
theorem Along.bind {q : Trace R → Except ε α → Prop} {post : Trace R → Except ε β → Prop}
    {program : Program R ε α} {rest : α → Program R ε β} (along : program.Along spec q trace)
    (resume : ∀ value later, q later (.ok value) → (rest value).Along spec post later)
    (escape : ∀ error later, q later (.error error) → post later (.error error)) :
    (program.bind rest).Along spec post trace := by
  induction program generalizing trace with
  | done value => exact resume value trace along
  | raise error => exact escape error trace along
  | call request next ih => exact ⟨along.1, fun reply => ih reply (along.2 reply)⟩

theorem Along.handle {q : Trace R → Except ε α → Prop} {program : Program R ε α}
    {handler : ε → Program R ε α} (along : program.Along spec q trace)
    (resume : ∀ value later, q later (.ok value) → post later (.ok value))
    (recover : ∀ error later, q later (.error error) → (handler error).Along spec post later) :
    (program.handle handler).Along spec post trace := by
  induction program generalizing trace with
  | done value => exact resume value trace along
  | raise error => exact recover error trace along
  | call request next ih => exact ⟨along.1, fun reply => ih reply (along.2 reply)⟩

end Program

/-- The exchange an event was for its thread. -/
def Event.exchange (event : Event ι R σ) : Exchange R := ⟨event.request, event.reply⟩

section Lawful

variable [DecidableEq ι]

/-- The trace of one thread in a list of events, newest first. -/
def traceOf (past : List (Event ι R σ)) (thread : ι) : Trace R :=
  (past.filter fun event => event.thread = thread).map Event.exchange

@[simp] theorem traceOf_nil (thread : ι) : traceOf ([] : List (Event ι R σ)) thread = [] := rfl

theorem traceOf_cons_self (event : Event ι R σ) (past : List (Event ι R σ)) :
    traceOf (event :: past) event.thread = event.exchange :: traceOf past event.thread := by
  simp [traceOf]

theorem traceOf_cons_of_ne {event : Event ι R σ} {thread : ι} (distinct : event.thread ≠ thread)
    (past : List (Event ι R σ)) : traceOf (event :: past) thread = traceOf past thread := by
  simp [traceOf, distinct]

/-- What a thread saw is an event of the history. -/
theorem mem_traceOf {past : List (Event ι R σ)} {thread : ι} {exchange : Exchange R} :
    exchange ∈ traceOf past thread ↔
      ∃ event ∈ past, event.thread = thread ∧ event.exchange = exchange := by
  simp [traceOf, and_assoc]

theorem traceOf_append (newer older : List (Event ι R σ)) (thread : ι) :
    traceOf (newer ++ older) thread = traceOf newer thread ++ traceOf older thread := by
  simp [traceOf]

theorem traceOf_suffix {past later : List (Event ι R σ)} (suffix : past <:+ later) (thread : ι) :
    traceOf past thread <:+ traceOf later thread := (suffix.filter _).map _

theorem not_mem_of_traceOf_eq_nil {past : List (Event ι R σ)} {thread : ι}
    (silent : traceOf past thread = []) {event : Event ι R σ} (mover : event.thread = thread) :
    event ∉ past := fun member => by
  simpa [silent] using mem_traceOf.mpr ⟨event, member, mover, rfl⟩

/-- The newest exchange of a thread is its newest event. -/
theorem traceOf_eq_cons {past : List (Event ι R σ)} {thread : ι} {exchange : Exchange R}
    {rest : Trace R} (shape : traceOf past thread = exchange :: rest) :
    ∃ newer event older, past = newer ++ event :: older ∧ event.thread = thread ∧
      event.exchange = exchange ∧ traceOf newer thread = [] ∧ traceOf older thread = rest := by
  induction past with
  | nil => cases shape
  | cons event past ih =>
    by_cases mover : event.thread = thread
    · subst mover
      rw [traceOf_cons_self] at shape
      obtain ⟨same, others⟩ := List.cons.inj shape
      exact ⟨[], event, past, rfl, rfl, same, rfl, others⟩
    · rw [traceOf_cons_of_ne mover] at shape
      obtain ⟨newer, found, older, rfl, finds, same, silent, others⟩ := ih shape
      exact ⟨event :: newer, found, older, rfl, finds, same,
        (traceOf_cons_of_ne mover newer).trans silent, others⟩

/-- The trace of a thread is not affected by the removal of another thread's events. -/
theorem traceOf_filter_ne (past : List (Event ι R σ)) (thread other : ι) :
    traceOf (past.filter fun event => event.thread ≠ other) thread =
      if thread = other then [] else traceOf past thread := by
  unfold traceOf
  rw [List.filter_filter]
  split
  · next same =>
    subst same
    simp
  · next distinct =>
    congr 1
    apply List.filter_congr
    intro event _
    by_cases mover : event.thread = thread <;> simp [mover, distinct]

/-- A bound that holds in every thread holds for the whole history. -/
theorem countP_le_of_traces {p q : ι → Exchange R → Bool} (past : List (Event ι R σ))
    (bound : ∀ thread, (traceOf past thread).countP (p thread) ≤ (traceOf past thread).countP (q thread)) :
    past.countP (fun event => p event.thread event.exchange) ≤
      past.countP fun event => q event.thread event.exchange := by
  induction size_eq : past.length using Nat.strong_induction_on generalizing past with
  | _ size ih =>
    cases past with
    | nil => simp
    | cons event rest =>
      -- the events of the newest mover, and all others
      have split (r : ι → Exchange R → Bool) :
          (event :: rest).countP (fun other => r other.thread other.exchange) =
            (traceOf (event :: rest) event.thread).countP (r event.thread) +
              ((event :: rest).filter fun other => other.thread ≠ event.thread).countP
                fun other => r other.thread other.exchange := by
        rw [List.countP_eq_countP_filter_add _ _ fun other => other.thread = event.thread, traceOf,
          List.countP_map]
        congr 1
        · apply List.countP_congr
          intro other member
          rw [of_decide_eq_true (List.mem_filter.mp member).2]
          rfl
        · simp
      have smaller : ((event :: rest).filter fun other => other.thread ≠ event.thread).length < size := by
        rw [← size_eq, List.filter_cons_of_neg (by simp)]
        exact Nat.lt_succ_of_le (List.length_filter_le _ rest)
      have others := ih _ smaller _ ?_ rfl
      · have here := bound event.thread
        rw [split p, split q]
        omega
      · intro thread
        rw [traceOf_filter_ne]
        split
        · simp
        · exact bound thread

/-- An exchange with what the thread had seen before it is an event with what had happened. -/
theorem event_of_trace_suffix {past : List (Event ι R σ)} {thread : ι} {exchange : Exchange R}
    {rest : Trace R} (suffix : exchange :: rest <:+ traceOf past thread) :
    ∃ event older, event :: older <:+ past ∧ event.thread = thread ∧ event.exchange = exchange ∧
      traceOf older thread = rest := by
  obtain ⟨front, split⟩ := suffix
  induction front generalizing past with
  | nil =>
    obtain ⟨newer, event, older, rfl, mover, same, _, others⟩ := traceOf_eq_cons split.symm
    exact ⟨event, older, List.suffix_append _ _, mover, same, others⟩
  | cons newest front ih =>
    obtain ⟨newer, _, older, rfl, _, _, _, others⟩ := traceOf_eq_cons split.symm
    obtain ⟨event, oldest, found, facts⟩ := ih others.symm
    exact ⟨event, oldest, (found.trans (List.suffix_cons _ _)).trans (List.suffix_append _ _), facts⟩

/-- The shared state once the listed events have happened. -/
def stateAfter (start : σ) : List (Event ι R σ) → σ
  | [] => start
  | event :: _ => event.after

variable (semantics : Semantics ι R σ) (condition : Condition ι R σ)
  (specs : ι → Trace R → C → Prop) (start : σ)

/-- What is known of an event by what happened before it. -/
structure LawfulEvent (older : List (Event ι R σ)) (event : Event ι R σ) : Prop where
  follows : event.before = stateAfter start older
  answered : semantics event.thread event.request event.before event.reply event.after
  admitted : condition older event
  specified : specs event.thread (traceOf older event.thread) event.request

/-- Every event is lawful after the events older than it. -/
def Lawful : List (Event ι R σ) → Prop
  | [] => True
  | event :: older => LawfulEvent semantics condition specs start older event ∧ Lawful older

variable {semantics condition specs start} {posts : ι → Trace R → Except ε α → Prop}
  {threads : ι → Program R ε α} {past : List (Event ι R σ)}

theorem Lawful.append {newer older : List (Event ι R σ)}
    (lawful : Lawful semantics condition specs start (newer ++ older)) :
    Lawful semantics condition specs start older := by
  induction newer with
  | nil => exact lawful
  | cons event newer ih => exact ih lawful.2

theorem Lawful.older {newer older : List (Event ι R σ)} {event : Event ι R σ}
    (lawful : Lawful semantics condition specs start (newer ++ event :: older)) :
    Lawful semantics condition specs start older := lawful.append.2

theorem Lawful.suffix {older : List (Event ι R σ)}
    (lawful : Lawful semantics condition specs start past) (suffix : older <:+ past) :
    Lawful semantics condition specs start older := by
  obtain ⟨newer, rfl⟩ := suffix
  exact lawful.append

theorem Lawful.event {newer older : List (Event ι R σ)} {event : Event ι R σ}
    (lawful : Lawful semantics condition specs start (newer ++ event :: older)) :
    LawfulEvent semantics condition specs start older event := lawful.append.1

/-- A condition that every lawful event meets may be added. -/
theorem Lawful.admits {stricter : Condition ι R σ}
    (meets : ∀ older event, LawfulEvent semantics condition specs start older event →
      stricter older event)
    (lawful : Lawful semantics condition specs start past) :
    Lawful semantics stricter specs start past := by
  induction past with
  | nil => trivial
  | cons event older ih =>
    obtain ⟨follows, answered, admitted, specified⟩ := lawful.1
    exact ⟨⟨follows, answered, meets older event lawful.1, specified⟩, ih lawful.2⟩

/-- What every lawful event keeps, a lawful history keeps. -/
theorem Lawful.invariant {p : σ → Prop}
    (kept : ∀ older event, Lawful semantics condition specs start older →
      LawfulEvent semantics condition specs start older event →
      (∀ past, past <:+ older → p (stateAfter start past)) → p event.after)
    (initial : p start) (lawful : Lawful semantics condition specs start past) :
    p (stateAfter start past) := by
  suffices all : ∀ older, older <:+ past → p (stateAfter start older) from
    all past (List.suffix_refl _)
  induction past with
  | nil =>
    intro older suffix
    rw [List.suffix_nil.mp suffix]
    exact initial
  | cons event past ih =>
    intro older suffix
    obtain rfl | suffix := List.suffix_cons_iff.mp suffix
    · exact kept past event lawful.2 lawful.1 (ih lawful.2)
    · exact ih lawful.2 older suffix

/-- A relation every lawful event realises holds between any two states of a history in order. -/
theorem Lawful.relates {r : σ → σ → Prop} (refl : ∀ state, r state state)
    (trans : ∀ {first middle last}, r first middle → r middle last → r first last)
    (step : ∀ older event, Lawful semantics condition specs start older →
      LawfulEvent semantics condition specs start older event → r event.before event.after)
    (lawful : Lawful semantics condition specs start past) {older : List (Event ι R σ)}
    (suffix : older <:+ past) : r (stateAfter start older) (stateAfter start past) := by
  obtain ⟨newer, rfl⟩ := suffix
  induction newer with
  | nil => exact refl _
  | cons event newer ih =>
    have here := step _ event lawful.2 lawful.1
    rw [lawful.1.follows] at here
    exact trans (ih lawful.2) here

/-- A reachable configuration: a lawful history, its final state, and every thread on course. -/
structure Course (semantics : Semantics ι R σ) (condition : Condition ι R σ)
    (specs : ι → Trace R → C → Prop) (posts : ι → Trace R → Except ε α → Prop) (start : σ)
    (config : Config ι R σ ε α) : Prop where
  lawful : Lawful semantics condition specs start config.past
  now_eq : config.now = stateAfter start config.past
  along : ∀ thread, (config.threads thread).Along (specs thread) (posts thread)
    (traceOf config.past thread)

theorem Course.step {first last : Config ι R σ ε α}
    (course : Course semantics condition specs posts start first)
    (step : Step semantics condition first last) :
    Course semantics condition specs posts start last := by
  cases step with
  | @call mover request next reply after pending answered admitted =>
    have issued := course.along mover
    rw [pending] at issued
    refine ⟨⟨⟨course.now_eq, answered, admitted, issued.1⟩, course.lawful⟩, rfl, fun thread => ?_⟩
    by_cases same : thread = mover
    · subst same
      have seen := traceOf_cons_self (⟨thread, request, reply, first.now, after⟩ : Event ι R σ) first.past
      simp only [Function.update_self, History.record_past]
      rw [seen]
      exact issued.2 reply
    · have unseen : traceOf (⟨mover, request, reply, first.now, after⟩ :: first.past) thread =
          traceOf first.past thread := traceOf_cons_of_ne (Ne.symm same) _
      simp only [Function.update_of_ne same, History.record_past]
      rw [unseen]
      exact course.along thread

/-- Programs that keep to their specifications alone keep to them in every interleaving. -/
theorem Reaches.course {first last : Config ι R σ ε α} (run : Reaches semantics condition first last)
    (course : Course semantics condition specs posts start first) :
    Course semantics condition specs posts start last := by
  induction run with
  | refl => exact course
  | tail _ step ih => exact ih.step step

theorem Course.initial (along : ∀ thread, (threads thread).Along (specs thread) (posts thread) []) :
    Course semantics condition specs posts start (Config.start start threads) :=
  ⟨trivial, rfl, along⟩

/-- A thread that has ended meets its postcondition on its whole trace. -/
theorem Course.finished {config : Config ι R σ ε α}
    (course : Course semantics condition specs posts start config) {thread : ι}
    {outcome : Except ε α} (ended : (config.threads thread).outcome? = some outcome) :
    posts thread (traceOf config.past thread) outcome := by
  have along := course.along thread
  cases outcome with
  | ok value => rwa [Program.outcome?_eq_ok.mp ended] at along
  | error error => rwa [Program.outcome?_eq_error.mp ended] at along

theorem Course.done {config : Config ι R σ ε α}
    (course : Course semantics condition specs posts start config) {thread : ι} {value : α}
    (finished : config.threads thread = .done value) :
    posts thread (traceOf config.past thread) (.ok value) :=
  course.finished (Program.outcome?_eq_ok.mpr finished)

theorem Course.raised {config : Config ι R σ ε α}
    (course : Course semantics condition specs posts start config) {thread : ι} {error : ε}
    (failed : config.threads thread = .raise error) :
    posts thread (traceOf config.past thread) (.error error) :=
  course.finished (Program.outcome?_eq_error.mpr failed)

/-- Threads that make one call at most: an answered one has ended, as its reply demands. -/
theorem Course.single {calls : ι → C} {ends : ∀ thread, R (calls thread) → Except ε α → Prop}
    {config : Config ι R σ ε α}
    (course : Course semantics condition (fun thread trace call => trace = [] ∧ call = calls thread)
      (fun thread trace outcome => trace = [] ∨
        ∃ reply, trace = [⟨calls thread, reply⟩] ∧ ends thread reply outcome) start config)
    {event : Event ι R σ} (member : event ∈ config.past) :
    ∃ reply outcome, event.exchange = ⟨calls event.thread, reply⟩ ∧
      (config.threads event.thread).outcome? = some outcome ∧ ends event.thread reply outcome := by
  have seen : event.exchange ∈ traceOf config.past event.thread :=
    mem_traceOf.mpr ⟨event, member, rfl, rfl⟩
  obtain ⟨outcome, ended⟩ : ∃ outcome, (config.threads event.thread).outcome? = some outcome := by
    have along := course.along event.thread
    cases status : config.threads event.thread with
    | done value => exact ⟨_, rfl⟩
    | raise error => exact ⟨_, rfl⟩
    | call request next =>
      rw [status] at along
      rw [along.1.1] at seen
      cases seen
  obtain silent | ⟨reply, single, demanded⟩ := course.finished ended
  · rw [silent] at seen
    cases seen
  · rw [single, List.mem_singleton] at seen
    exact ⟨reply, outcome, seen, ended, demanded⟩

end Lawful

end Interleaving
