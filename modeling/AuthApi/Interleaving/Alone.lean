import AuthApi.Interleaving.Trace

/-! # One program alone

Big-step runs of a program that nothing interferes with: rules to reason about them, an interpreter
that computes them from the choices of the environment, and the fact that every such run is a run of
one thread of a pool.
-/

namespace Interleaving.Program

variable {ι C σ ε α χ : Type*} {R : C → Type*}

/-- A step relation whose answers are exactly those some choice gives. -/
def stepOf (answer : χ → (c : C) → σ → Option (R c × σ)) : (c : C) → σ → R c → σ → Prop :=
  fun request before reply after => ∃ choice, answer choice request before = some (reply, after)

/-- Run a program with the listed choices, one for each call. -/
def replay (answer : χ → (c : C) → σ → Option (R c × σ)) :
    Program R ε α → σ → List χ → Option (Except ε α × σ)
  | .done value, state, [] => some (.ok value, state)
  | .raise error, state, [] => some (.error error, state)
  | .call request next, state, choice :: rest =>
      match answer choice request state with
      | none => none
      | some (reply, after) => (next reply).replay answer after rest
  | _, _, _ => none

variable {answer : χ → (c : C) → σ → Option (R c × σ)} {step other : (c : C) → σ → R c → σ → Prop}
  {program : Program R ε α} {outcome : Except ε α} {before after : σ}

theorem replay_runs {choices : List χ} (replayed : program.replay answer before choices = some (outcome, after)) :
    program.Runs (stepOf answer) before outcome after := by
  induction program generalizing before choices with
  | done value =>
    cases choices with
    | nil => cases replayed; exact ⟨rfl, rfl⟩
    | cons choice rest => cases replayed
  | raise error =>
    cases choices with
    | nil => cases replayed; exact ⟨rfl, rfl⟩
    | cons choice rest => cases replayed
  | call request next ih =>
    cases choices with
    | nil => cases replayed
    | cons choice rest =>
      simp only [replay] at replayed
      split at replayed
      · cases replayed
      · next reply middle answered => exact ⟨reply, middle, ⟨choice, answered⟩, ih reply replayed⟩

/-- A replay that passes a check exhibits a run. -/
theorem replay_exists {choices : List χ} {check : Except ε α → σ → Bool}
    (passed : (program.replay answer before choices).any (fun result => check result.1 result.2) = true) :
    ∃ outcome after, program.Runs (stepOf answer) before outcome after ∧ check outcome after = true := by
  obtain ⟨⟨outcome, after⟩, replayed, checked⟩ := (Option.any_eq_true _ _).mp passed
  exact ⟨outcome, after, replay_runs replayed, checked⟩

/-- Two answers to one call: both are missing, or the replies agree and the states are related. -/
def Agrees {α : Type*} (r : σ → σ → Prop) : Option (α × σ) → Option (α × σ) → Prop
  | none, none => True
  | some left, some right => left.1 = right.1 ∧ r left.2 right.2
  | _, _ => False

/-- States that answer every admitted call alike cannot be told apart by the program. -/
theorem replay_congr {r : σ → σ → Prop} {admits : C → Prop} {post : Trace R → Except ε α → Prop}
    {trace : Trace R}
    (alike : ∀ choice request first second, admits request → r first second →
      Agrees r (answer choice request first) (answer choice request second))
    (along : program.Along (fun _ request => admits request) post trace) {first second : σ}
    (related : r first second) (choices : List χ) :
    (program.replay answer first choices).map Prod.fst =
      (program.replay answer second choices).map Prod.fst := by
  induction program generalizing first second trace choices with
  | done value => cases choices <;> rfl
  | raise error => cases choices <;> rfl
  | call request next ih =>
    cases choices with
    | nil => rfl
    | cons choice rest =>
      have agrees := alike choice request first second along.1 related
      simp only [replay]
      revert agrees
      cases answer choice request first with
      | none =>
        cases answer choice request second with
        | none => exact fun _ => rfl
        | some right => exact False.elim
      | some left =>
        cases answer choice request second with
        | none => exact False.elim
        | some right =>
          rintro ⟨same, related⟩
          simp only [same]
          exact ih right.1 (along.2 right.1) related rest

variable (step) in
/-- Every run from the state ends in the postcondition. -/
def Alone (post : Except ε α → σ → Prop) : Program R ε α → σ → Prop
  | .done value, state => post (.ok value) state
  | .raise error, state => post (.error error) state
  | .call request next, state =>
      ∀ reply after, step request state reply after → (next reply).Alone post after

variable {β : Type*} {post : Except ε α → σ → Prop}

theorem alone_iff : program.Alone step post before ↔
    ∀ outcome after, program.Runs step before outcome after → post outcome after := by
  induction program generalizing before with
  | done value =>
    constructor
    · rintro holds _ _ ⟨rfl, rfl⟩
      exact holds
    · exact fun all => all _ _ ⟨rfl, rfl⟩
  | raise error =>
    constructor
    · rintro holds _ _ ⟨rfl, rfl⟩
      exact holds
    · exact fun all => all _ _ ⟨rfl, rfl⟩
  | call request next ih =>
    constructor
    · rintro holds outcome after ⟨reply, middle, answered, rest⟩
      exact (ih reply).mp (holds reply middle answered) outcome after rest
    · intro all reply middle answered
      apply (ih reply).mpr
      exact fun outcome after rest => all outcome after ⟨reply, middle, answered, rest⟩

theorem Alone.run (alone : program.Alone step post before)
    (run : program.Runs step before outcome after) : post outcome after :=
  alone_iff.mp alone outcome after run

/-- Without demands every run is fine. -/
theorem alone_any : program.Alone step (fun _ _ => True) before :=
  alone_iff.mpr fun _ _ _ => trivial

theorem Alone.mono {wider : Except ε α → σ → Prop}
    (weaker : ∀ outcome after, post outcome after → wider outcome after)
    (alone : program.Alone step post before) : program.Alone step wider before :=
  alone_iff.mpr fun outcome after run => weaker outcome after (alone.run run)

/-- The postcondition of the first part is what its continuation may start from. -/
theorem Alone.bind {q : Except ε α → σ → Prop} {post : Except ε β → σ → Prop}
    {rest : α → Program R ε β} (alone : program.Alone step q before)
    (resume : ∀ value middle, q (.ok value) middle → (rest value).Alone step post middle)
    (escape : ∀ error middle, q (.error error) middle → post (.error error) middle) :
    (program.bind rest).Alone step post before := by
  induction program generalizing before with
  | done value => exact resume value before alone
  | raise error => exact escape error before alone
  | call request next ih => exact fun reply middle answered => ih reply (alone reply middle answered)

theorem Alone.handle {q : Except ε α → σ → Prop} {handler : ε → Program R ε α}
    (alone : program.Alone step q before)
    (resume : ∀ value middle, q (.ok value) middle → post (.ok value) middle)
    (recover : ∀ error middle, q (.error error) middle → (handler error).Alone step post middle) :
    (program.handle handler).Alone step post before := by
  induction program generalizing before with
  | done value => exact resume value before alone
  | raise error => exact recover error before alone
  | call request next ih => exact fun reply middle answered => ih reply (alone reply middle answered)

/-- The steps of a program together with its trace. -/
def recorded (step : (c : C) → σ → R c → σ → Prop) :
    (c : C) → σ × Trace R → R c → σ × Trace R → Prop :=
  fun request before reply after =>
    step request before.1 reply after.1 ∧ after.2 = ⟨request, reply⟩ :: before.2

theorem alone_recorded {request : C} {next : R request → Program R ε α} {trace : Trace R}
    {post : Except ε α → σ × Trace R → Prop}
    (rest : ∀ reply after, step request before reply after →
      (next reply).Alone (recorded step) post (after, ⟨request, reply⟩ :: trace)) :
    (Program.call request next).Alone (recorded step) post (before, trace) := by
  rintro reply ⟨after, _⟩ ⟨answered, rfl⟩
  exact rest reply after answered

theorem Runs.record {trace : Trace R} (run : program.Runs step before outcome after) :
    ∃ later, program.Runs (recorded step) (before, trace) outcome (after, later) := by
  induction program generalizing before trace with
  | done value => exact ⟨trace, run.1, Prod.ext run.2 rfl⟩
  | raise error => exact ⟨trace, run.1, Prod.ext run.2 rfl⟩
  | call request next ih =>
    obtain ⟨reply, middle, answered, rest⟩ := run
    obtain ⟨later, rest⟩ := @ih reply middle (⟨request, reply⟩ :: trace) rest
    exact ⟨later, reply, _, ⟨answered, rfl⟩, rest⟩

/-- The trace only grows. -/
theorem Alone.extends {trace : Trace R} {post : Except ε α → σ × Trace R → Prop}
    (alone : program.Alone (recorded step) post (before, trace)) :
    program.Alone (recorded step) (fun outcome after => post outcome after ∧ trace <:+ after.2)
      (before, trace) := by
  induction program generalizing before trace with
  | done value => exact ⟨alone, List.suffix_refl _⟩
  | raise error => exact ⟨alone, List.suffix_refl _⟩
  | call request next ih =>
    apply alone_recorded
    intro reply after answered
    apply (ih reply (alone reply (after, _) ⟨answered, rfl⟩)).mono
    rintro outcome last ⟨holds, grown⟩
    exact ⟨holds, (List.suffix_cons _ _).trans grown⟩

/-- What a program does along its traces it does in its runs, and a relation that the admitted calls
realise holds between their ends. -/
theorem Along.alone {r : σ → σ → Prop} {spec : Trace R → C → Prop} {trace : Trace R}
    {post : Trace R → Except ε α → Prop} (refl : ∀ state, r state state)
    (trans : ∀ {first middle last}, r first middle → r middle last → r first last)
    (realised : ∀ trace request before reply after, spec trace request →
      step request before reply after → r before after)
    (along : program.Along spec post trace) :
    program.Alone (recorded step) (fun outcome after => post after.2 outcome ∧ r before after.1)
      (before, trace) := by
  induction program generalizing before trace with
  | done value => exact ⟨along, refl before⟩
  | raise error => exact ⟨along, refl before⟩
  | call request next ih =>
    rintro reply ⟨middle, _⟩ ⟨answered, rfl⟩
    apply (ih reply (along.2 reply)).mono
    rintro outcome after ⟨holds, related⟩
    exact ⟨holds, trans (realised _ _ _ _ _ along.1 answered) related⟩

variable (step) in
/-- From the state no run gets stuck, and every run ends in the postcondition. -/
def Ensures (post : Except ε α → σ → Prop) : Program R ε α → σ → Prop
  | .done value, state => post (.ok value) state
  | .raise error, state => post (.error error) state
  | .call request next, state =>
      (∃ reply after, step request state reply after) ∧
        ∀ reply after, step request state reply after → (next reply).Ensures post after

theorem Ensures.mono {wider : Except ε α → σ → Prop}
    (weaker : ∀ outcome after, post outcome after → wider outcome after)
    (ensures : program.Ensures step post before) : program.Ensures step wider before := by
  induction program generalizing before with
  | done value => exact weaker _ _ ensures
  | raise error => exact weaker _ _ ensures
  | call request next ih =>
    constructor
    · exact ensures.1
    · intro reply middle answered
      exact ih reply (ensures.2 reply middle answered)

theorem Ensures.bind {q : Except ε α → σ → Prop} {post : Except ε β → σ → Prop}
    {rest : α → Program R ε β} (ensures : program.Ensures step q before)
    (resume : ∀ value middle, q (.ok value) middle → (rest value).Ensures step post middle)
    (escape : ∀ error middle, q (.error error) middle → post (.error error) middle) :
    (program.bind rest).Ensures step post before := by
  induction program generalizing before with
  | done value => exact resume value before ensures
  | raise error => exact escape error before ensures
  | call request next ih =>
    constructor
    · exact ensures.1
    · intro reply middle answered
      exact ih reply (ensures.2 reply middle answered)

theorem Ensures.handle {q : Except ε α → σ → Prop} {handler : ε → Program R ε α}
    (ensures : program.Ensures step q before)
    (resume : ∀ value middle, q (.ok value) middle → post (.ok value) middle)
    (recover : ∀ error middle, q (.error error) middle → (handler error).Ensures step post middle) :
    (program.handle handler).Ensures step post before := by
  induction program generalizing before with
  | done value => exact resume value before ensures
  | raise error => exact recover error before ensures
  | call request next ih =>
    constructor
    · exact ensures.1
    · intro reply middle answered
      exact ih reply (ensures.2 reply middle answered)

section Pool

variable [DecidableEq ι] {semantics : Semantics ι R σ} {first : Config ι R σ ε α}
  {threads : ι → Program R ε α} {thread : ι}

/-- What a program does alone it can do as a thread of any pool while the others wait. -/
theorem Runs.reaches {history : History ι R σ}
    (run : program.Runs (semantics thread) history.now outcome after)
    (reached : Reaches semantics unrestricted first ⟨history, Function.update threads thread program⟩) :
    ∃ past ended, Reaches semantics unrestricted first
        ⟨⟨after, past⟩, Function.update threads thread ended⟩ ∧
      ended.outcome? = some outcome ∧ history.past <:+ past := by
  induction program generalizing history with
  | done value =>
    obtain ⟨rfl, rfl⟩ := run
    exact ⟨history.past, _, reached, rfl, List.suffix_refl _⟩
  | raise error =>
    obtain ⟨rfl, rfl⟩ := run
    exact ⟨history.past, _, reached, rfl, List.suffix_refl _⟩
  | call request next ih =>
    obtain ⟨reply, middle, answered, rest⟩ := run
    obtain ⟨past, ended, reached, done, suffix⟩ :=
      @ih reply (history.record thread request reply middle) rest
        (reached.moves answered trivial)
    exact ⟨past, ended, reached, done, (List.suffix_cons _ _).trans suffix⟩

end Pool

end Interleaving.Program
