import AuthApi.Interleaving.Trace

/-! # Where things of a run come from

`Program.After` is what is left of a program once its calls have been answered, so that a history alone tells what
its threads have returned by any moment. What held and holds no longer was ended by an event in between, and
`goes_back` traces a thing through a history: what is made of an earlier thing, which is made of an earlier one in
turn, has a root.
-/

namespace Interleaving

variable {ι C σ ε α : Type*} {R : C → Type*}

/-- What is left of a program after the exchanges of a trace. -/
inductive Program.After (program : Program R ε α) : Trace R → Program R ε α → Prop
  | start : program.After [] program
  | answered {trace : Trace R} {request : C} {next : R request → Program R ε α}
      (issued : program.After trace (.call request next)) (reply : R request) :
      program.After (⟨request, reply⟩ :: trace) (next reply)

namespace Program.After

variable {program rest : Program R ε α} {trace : Trace R}

/-- What is left keeps to the specification from there on. -/
theorem along (after : program.After trace rest) {spec : Trace R → C → Prop} {post : Trace R → Except ε α → Prop}
    (starts : program.Along spec post []) : rest.Along spec post trace := by
  induction after with
  | start => exact starts
  | answered issued reply ih => exact ih.2 reply

end Program.After

section Runs

variable [DecidableEq ι] {semantics : Semantics ι R σ} {condition : Condition ι R σ} {start : σ}
  {threads : ι → Program R ε α} {config : Config ι R σ ε α}

/-- Every thread of a run is what its own exchanges have left of its program. -/
theorem Reaches.after (run : Reaches semantics condition (Config.start start threads) config) (thread : ι) :
    (threads thread).After (traceOf config.past thread) (config.threads thread) := by
  induction run with
  | refl => exact .start
  | @tail middle last _ step ih =>
    cases step with
    | @call mover request next reply after pending answered admitted =>
      by_cases same : thread = mover
      · subst same
        rw [pending] at ih
        have seen := traceOf_cons_self (⟨thread, request, reply, middle.now, after⟩ : Event ι R σ) middle.past
        simp only [Function.update_self, History.record_past]
        rw [seen]
        exact ih.answered reply
      · have unseen : traceOf (⟨mover, request, reply, middle.now, after⟩ :: middle.past) thread =
            traceOf middle.past thread := traceOf_cons_of_ne (Ne.symm same) _
        simp only [Function.update_of_ne same, History.record_past]
        rw [unseen]
        exact ih

/-- What held at a moment of a run and holds no longer was ended by an event in between. -/
theorem Lawful.ends_between {specs : ι → Trace R → C → Prop} {p : σ → Prop} {newer older : List (Event ι R σ)}
    (lawful : Lawful semantics condition specs start (newer ++ older)) (held : p (stateAfter start older))
    (lost : ¬ p (stateAfter start (newer ++ older))) :
    ∃ front event back, newer = front ++ event :: back ∧ p event.before ∧ ¬ p event.after := by
  induction newer with
  | nil => exact absurd held lost
  | cons event newer ih =>
    by_cases still : p event.before
    · exact ⟨[], event, newer, rfl, still, lost⟩
    · rw [lawful.1.follows] at still
      obtain ⟨front, ending, back, rfl, before, after⟩ := ih lawful.2 still
      exact ⟨event :: front, ending, back, rfl, before, after⟩

end Runs

/-- Induction on a history, by what holds before its entries. -/
theorem suffix_induction {p : List α → Prop}
    (step : ∀ past, (∀ entry older, entry :: older <:+ past → p older) → p past) (past : List α) : p past := by
  induction size_eq : past.length using Nat.strong_induction_on generalizing past with
  | _ size ih =>
    apply step
    intro entry older suffix
    have longer := suffix.length_le
    rw [List.length_cons] at longer
    exact ih older.length (by omega) older rfl

/-- What holds of a history because its root does, or because it held before one of the entries, has a root. -/
theorem goes_back {p root : List α → Prop} {past : List α}
    (origin : ∀ later, later <:+ past → p later → root later ∨ ∃ entry older, entry :: older <:+ later ∧ p older)
    (holds : p past) : ∃ older, older <:+ past ∧ root older := by
  have goes (later : List α) : later <:+ past → p later → ∃ older, older <:+ past ∧ root older := by
    induction later using suffix_induction with
    | step later ih =>
      intro within held
      obtain isRoot | ⟨entry, older, suffix, before⟩ := origin later within held
      · exact ⟨later, within, isRoot⟩
      · exact ih entry older suffix (((List.suffix_cons entry older).trans suffix).trans within) before
  exact goes past (List.suffix_refl past) holds

end Interleaving
