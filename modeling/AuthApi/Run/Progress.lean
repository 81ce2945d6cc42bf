import AuthApi.Interleaving.Progress
import AuthApi.Run.OpenStatements

/-! # Progress of orderly requests

In a pool of orderly requests, whoever holds open statements can move, and whoever waits holds none. So the holders
can be brought to release what they hold one after the other, and then any request can be brought to its end.
-/

namespace AuthApi

open Interleaving Interleaving.Program

variable {ε α : Type} {tid other : Tid} {config next : Config Tid Reply World ε α}

/-- What a pool of orderly requests keeps. -/
structure InOrder (config : Config Tid Reply World ε α) : Prop where
  along : ∀ tid, (config.threads tid).Along Orderly (fun trace _ => opened trace = []) (traceOf config.past tid)
  held : ∀ tid, config.now.openOf tid = opened (traceOf config.past tid)
  untangled : config.now.Untangled

/-- Where no transaction is open, orderly programs start in order. -/
theorem InOrder.start {world : World} {threads : Tid → Program Reply ε α} (none : world.flushed = [])
    (along : ∀ tid, (threads tid).Along Orderly (fun trace _ => opened trace = []) []) :
    InOrder (Config.start world threads) := by
  have closed (tid : Tid) : world.openOf tid = [] := by
    rw [World.openOf, none]
    rfl
  refine ⟨along, closed, ⟨fun tid statement holds => ?_, fun tid other _ row _ statement holds => ?_⟩⟩
  · change statement ∈ world.openOf tid at holds
    rw [closed] at holds
    cases holds
  · change statement ∈ world.openOf tid at holds
    rw [closed] at holds
    cases holds

theorem InOrder.step (inOrder : InOrder config) (step : Step answers unrestricted config next) : InOrder next := by
  cases step with
  | @call mover request rest reply after pending answered admitted =>
    have issued := inOrder.along mover
    rw [pending] at issued
    obtain ⟨own, others⟩ := answers_openOf answered
    refine ⟨fun tid => ?_, fun tid => ?_, inOrder.untangled.step answered issued.1.inserts⟩
    · by_cases same : tid = mover
      · subst same
        simp only [History.record_past, Function.update_self]
        rw [traceOf_cons_self]
        exact issued.2 reply
      · simp only [History.record_past, Function.update_of_ne same]
        rw [traceOf_cons_of_ne (Ne.symm same)]
        exact inOrder.along tid
    · by_cases same : tid = mover
      · subst same
        simp only [History.record_past, History.record_now]
        rw [traceOf_cons_self, own, inOrder.held tid]
        rfl
      · simp only [History.record_past, History.record_now]
        rw [traceOf_cons_of_ne (Ne.symm same), others tid same, inOrder.held tid]

theorem InOrder.run (inOrder : InOrder config) (run : Reaches answers unrestricted config next) : InOrder next := by
  induction run with
  | refl => exact inOrder
  | tail _ step ih => exact ih.step step

/-- Who has ended holds nothing. -/
theorem InOrder.ended (inOrder : InOrder config) {outcome : Except ε α}
    (ended : (config.threads tid).outcome? = some outcome) : config.now.openOf tid = [] := by
  have along := inOrder.along tid
  rw [inOrder.held]
  cases pending : config.threads tid with
  | done value =>
    rw [pending] at along
    exact along
  | raise error =>
    rw [pending] at along
    exact along
  | call request rest =>
    rw [pending] at ended
    cases ended

/-- Who holds open statements can move. -/
theorem InOrder.holder_moves (inOrder : InOrder config) (holds : config.now.openOf tid ≠ []) :
    ∃ next, StepBy answers tid config next := by
  cases pending : config.threads tid with
  | done value => exact absurd (inOrder.ended (congrArg outcome? pending)) holds
  | raise error => exact absurd (inOrder.ended (congrArg outcome? pending)) holds
  | call request rest =>
    have issued := inOrder.along tid
    rw [pending] at issued
    apply stepBy_of_answered pending
    exact answers_iff_clear.mpr (inOrder.untangled.clear issued.1 (inOrder.held tid).symm (inOrder.held tid ▸ holds))

/-- A request changes what it holds itself. -/
theorem openOf_stepBy (step : StepBy answers tid config next) (distinct : other ≠ tid) :
    next.now.openOf other = config.now.openOf other := by
  cases step with
  | call pending answered => exact (answers_openOf answered).2 other distinct

/-- One request is brought to release what it holds; the others keep what they hold. -/
theorem InOrder.released (inOrder : InOrder config) (tid : Tid) :
    ∃ last, Reaches answers unrestricted config last ∧ InOrder last ∧ last.now.openOf tid = [] ∧
      ∀ other, config.now.openOf other = [] → last.now.openOf other = [] := by
  have kept (later next : Config Tid Reply World ε α) (holds : InOrder later ∧ ∀ other, other ≠ tid →
      later.now.openOf other = config.now.openOf other) (step : StepBy answers tid later next) :
      InOrder next ∧ ∀ other, other ≠ tid → next.now.openOf other = config.now.openOf other :=
    ⟨holds.1.step step.step, fun other distinct => (openOf_stepBy step distinct).trans (holds.2 other distinct)⟩
  obtain ⟨last, run, ⟨inOrder, others⟩, released⟩ := ReachesBy.reaches_goal _
    (fun later => later.now.openOf tid = []) kept (fun later ⟨inOrder, _⟩ => (em _).imp_right inOrder.holder_moves)
    ⟨inOrder, fun _ _ => rfl⟩
  refine ⟨last, run.reaches, inOrder, released, fun other closed => ?_⟩
  by_cases same : other = tid
  · exact same ▸ released
  · rw [others other same, closed]

/-- Any holders are brought to release what they hold, one after the other. -/
theorem InOrder.all_released (inOrder : InOrder config) (holders : List Tid) :
    ∃ last, Reaches answers unrestricted config last ∧ InOrder last ∧
      (∀ other ∈ holders, last.now.openOf other = []) ∧
      ∀ other, config.now.openOf other = [] → last.now.openOf other = [] := by
  induction holders with
  | nil => exact ⟨config, .refl, inOrder, List.forall_mem_nil _, fun _ closed => closed⟩
  | cons holder holders ih =>
    obtain ⟨middle, run, inOrder, released, kept⟩ := ih
    obtain ⟨last, rest, inOrder, own, still⟩ := inOrder.released holder
    refine ⟨last, run.trans rest, inOrder, List.forall_mem_cons.mpr ⟨own, ?_⟩, ?_⟩
    · exact fun other member => still other (released other member)
    · exact fun other closed => still other (kept other closed)

/-- Any request can be brought to its end. -/
theorem InOrder.ends (inOrder : InOrder config) (tid : Tid) :
    ∃ last, Reaches answers unrestricted config last ∧ InOrder last ∧
      (last.threads tid).outcome?.isSome = true := by
  obtain ⟨middle, run, inOrder, released, kept⟩ := inOrder.all_released (config.now.flushed.map Prod.fst)
  have closed (other : Tid) : middle.now.openOf other = [] := by
    by_cases holder : other ∈ config.now.flushed.map Prod.fst
    · exact released other holder
    · apply kept
      apply List.eq_nil_iff_forall_not_mem.mpr
      exact fun statement holds => holder (List.mem_map.mpr ⟨_, mem_openOf.mp holds, rfl⟩)
  have stays (later next : Config Tid Reply World ε α) (holds : InOrder later ∧ ∀ other, other ≠ tid →
      later.now.openOf other = []) (step : StepBy answers tid later next) :
      InOrder next ∧ ∀ other, other ≠ tid → next.now.openOf other = [] :=
    ⟨holds.1.step step.step, fun other distinct => (openOf_stepBy step distinct).trans (holds.2 other distinct)⟩
  -- nobody else holds anything, so the request waits for nobody
  have progress (later : Config Tid Reply World ε α) (holds : InOrder later ∧ ∀ other, other ≠ tid →
      later.now.openOf other = []) :
      (later.threads tid).outcome?.isSome = true ∨ ∃ next, StepBy answers tid later next := by
    cases pending : later.threads tid with
    | done value => exact .inl rfl
    | raise error => exact .inl rfl
    | call request rest =>
      refine .inr (stepBy_of_answered pending (answers_iff_clear.mpr fun owner distinct row member => ?_))
      rw [holds.2 owner distinct] at member
      cases member
  obtain ⟨last, rest, ⟨inOrder, _⟩, ended⟩ :=
    ReachesBy.reaches_goal _ _ stays progress ⟨inOrder, fun other _ => closed other⟩
  exact ⟨last, run.trans rest.reaches, inOrder, ended⟩

end AuthApi
