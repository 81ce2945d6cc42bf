import AuthApi.Interleaving.Pool

/-! # Progress

One thread of a pool that moves while the others wait. A program is a finite tree of calls, so a thread whose calls
are answered until it has reached a goal reaches it, and a pool in which every thread can end can end them all.
-/

namespace Interleaving

variable {ι C σ ε α : Type*} {R : C → Type*} [DecidableEq ι] {semantics : Semantics ι R σ}
  {condition : Condition ι R σ} {thread : ι} {first middle last : Config ι R σ ε α}

/-- The pending call of the given thread is answered. -/
inductive StepBy (semantics : Semantics ι R σ) (thread : ι) : Config ι R σ ε α → Config ι R σ ε α → Prop
  | call {config : Config ι R σ ε α} {request : C} {next : R request → Program R ε α} {reply : R request} {after : σ}
      (pending : config.threads thread = .call request next)
      (answered : semantics thread request config.now reply after) :
      StepBy semantics thread config
        ⟨config.toHistory.record thread request reply after, Function.update config.threads thread (next reply)⟩

/-- The given thread moves any number of times while the others wait. -/
abbrev ReachesBy (semantics : Semantics ι R σ) (thread : ι) :
    Config ι R σ ε α → Config ι R σ ε α → Prop := Relation.ReflTransGen (StepBy semantics thread)

theorem StepBy.step (step : StepBy semantics thread first last) : Step semantics unrestricted first last := by
  cases step with
  | call pending answered => exact .call pending answered trivial

theorem ReachesBy.reaches (run : ReachesBy semantics thread first last) :
    Reaches semantics unrestricted first last := by
  induction run with
  | refl => exact .refl
  | tail _ step ih => exact ih.tail step.step

/-- A thread that has not ended moves, if its pending call is answered. -/
theorem stepBy_of_answered {request : C} {next : R request → Program R ε α}
    (pending : first.threads thread = .call request next)
    (answered : ∃ reply after, semantics thread request first.now reply after) :
    ∃ next, StepBy semantics thread first next := by
  obtain ⟨reply, after, answered⟩ := answered
  exact ⟨_, .call pending answered⟩

/-- A thread that can move until it has reached the goal reaches it. -/
theorem ReachesBy.reaches_goal (inv goal : Config ι R σ ε α → Prop)
    (kept : ∀ config next, inv config → StepBy semantics thread config next → inv next)
    (progress : ∀ config, inv config → goal config ∨ ∃ next, StepBy semantics thread config next)
    (holds : inv first) : ∃ last, ReachesBy semantics thread first last ∧ inv last ∧ goal last := by
  generalize pending : first.threads thread = program
  induction program generalizing first with
  | done value =>
    obtain reached | ⟨next, step⟩ := progress first holds
    · exact ⟨first, .refl, holds, reached⟩
    · cases step with
      | call moving answered => cases pending.symm.trans moving
  | raise error =>
    obtain reached | ⟨next, step⟩ := progress first holds
    · exact ⟨first, .refl, holds, reached⟩
    · cases step with
      | call moving answered => cases pending.symm.trans moving
  | call request rest ih =>
    obtain reached | ⟨next, step⟩ := progress first holds
    · exact ⟨first, .refl, holds, reached⟩
    · have kept := kept first next holds step
      cases step with
      | @call moved _ reply after moving answered =>
        cases pending.symm.trans moving
        obtain ⟨last, run, ends⟩ := ih reply kept (Function.update_self ..)
        exact ⟨last, .head (.call moving answered) run, ends⟩

/-- A thread that has ended does not move any more. -/
theorem Reaches.ended (run : Reaches semantics condition first last) {outcome : Except ε α}
    (ended : (first.threads thread).outcome? = some outcome) : last.threads thread = first.threads thread := by
  induction run with
  | refl => rfl
  | tail _ step ih =>
    cases step with
    | @call mover request next reply after pending answered admitted =>
      by_cases own : thread = mover
      · subst own
        rw [← ih, pending] at ended
        cases ended
      · exact (Function.update_of_ne own _ _).trans ih

/-- If every thread can end from where the invariant holds, any finite number of them can. -/
theorem Reaches.all_end {inv : Config ι R σ ε α → Prop}
    (ends : ∀ config, inv config → ∀ thread, ∃ last, Reaches semantics condition config last ∧ inv last ∧
      (last.threads thread).outcome?.isSome = true) (holds : inv first) (threads : List ι) :
    ∃ last, Reaches semantics condition first last ∧ inv last ∧
      ∀ thread ∈ threads, (last.threads thread).outcome?.isSome = true := by
  induction threads with
  | nil => exact ⟨first, .refl, holds, List.forall_mem_nil _⟩
  | cons thread threads ih =>
    obtain ⟨middle, run, holds, ended⟩ := ih
    obtain ⟨last, rest, holds, own⟩ := ends middle holds thread
    refine ⟨last, run.trans rest, holds, List.forall_mem_cons.mpr ⟨own, fun other member => ?_⟩⟩
    obtain ⟨outcome, finished⟩ := Option.isSome_iff_exists.mp (ended other member)
    rw [rest.ended finished, finished]
    rfl

end Interleaving
