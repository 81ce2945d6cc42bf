import AuthApi.Interleaving.Program
import Mathlib.Logic.Relation
import Mathlib.Logic.Function.Basic

/-! # Pools of programs and their histories

A pool runs one program for each thread over a shared state. One step answers the pending call of
one thread, so a run is an arbitrary interleaving at the granularity of calls. Every step is
recorded as an `Event` with the states around it; the history is therefore part of the
configuration, and a property of runs is a property of reachable configurations. A `Condition`
restricts the events a run may contain.
-/

namespace Interleaving

variable {ι C σ ε α : Type*} {R : C → Type*}

/-- One answered call, with the shared state before and after it. -/
structure Event (ι : Type*) {C : Type*} (R : C → Type*) (σ : Type*) where
  thread : ι
  request : C
  reply : R request
  before : σ
  after : σ

/-- The shared state together with everything that happened, newest event first. -/
structure History (ι : Type*) {C : Type*} (R : C → Type*) (σ : Type*) where
  now : σ
  past : List (Event ι R σ)

namespace History

/-- Record one answered call. -/
def record (history : History ι R σ) (thread : ι) (request : C) (reply : R request) (after : σ) :
    History ι R σ :=
  ⟨after, ⟨thread, request, reply, history.now, after⟩ :: history.past⟩

@[simp] theorem record_now (history : History ι R σ) (thread : ι) (request : C)
    (reply : R request) (after : σ) : (history.record thread request reply after).now = after := rfl

@[simp] theorem record_past (history : History ι R σ) (thread : ι) (request : C)
    (reply : R request) (after : σ) :
    (history.record thread request reply after).past =
      ⟨thread, request, reply, history.now, after⟩ :: history.past := rfl

/-- `later` continues `earlier`, adding newer events only. -/
def Extends (earlier later : History ι R σ) : Prop := earlier.past <:+ later.past

theorem Extends.refl (history : History ι R σ) : Extends history history := List.suffix_refl _

theorem Extends.trans {first middle last : History ι R σ} (left : Extends first middle)
    (right : Extends middle last) : Extends first last := List.IsSuffix.trans left right

theorem Extends.record (history : History ι R σ) (thread : ι) (request : C) (reply : R request)
    (after : σ) : Extends history (history.record thread request reply after) :=
  List.suffix_cons _ _

end History

/-- How a thread's call may be answered from a state, and the state it leaves. -/
abbrev Semantics (ι : Type*) {C : Type*} (R : C → Type*) (σ : Type*) :=
  ι → (c : C) → σ → R c → σ → Prop

/-- A restriction on runs: which event may follow a given past. -/
abbrev Condition (ι : Type*) {C : Type*} (R : C → Type*) (σ : Type*) :=
  List (Event ι R σ) → Event ι R σ → Prop

/-- The condition met by every event. -/
def unrestricted : Condition ι R σ := fun _ _ => True

/-- A shared history and the remaining program of every thread. -/
structure Config (ι : Type*) {C : Type*} (R : C → Type*) (σ ε α : Type*)
    extends History ι R σ where
  threads : ι → Program R ε α

variable [DecidableEq ι]

/-- One thread's pending call is answered. -/
inductive Step (semantics : Semantics ι R σ) (condition : Condition ι R σ) :
    Config ι R σ ε α → Config ι R σ ε α → Prop
  | call {config : Config ι R σ ε α} {thread : ι} {request : C}
      {next : R request → Program R ε α} {reply : R request} {after : σ}
      (pending : config.threads thread = .call request next)
      (answered : semantics thread request config.now reply after)
      (admitted : condition config.past ⟨thread, request, reply, config.now, after⟩) :
      Step semantics condition config
        ⟨config.toHistory.record thread request reply after,
          Function.update config.threads thread (next reply)⟩

/-- Reachability by any number of steps of any threads in any order. -/
def Reaches (semantics : Semantics ι R σ) (condition : Condition ι R σ) :
    Config ι R σ ε α → Config ι R σ ε α → Prop :=
  Relation.ReflTransGen (Step semantics condition)

/-- The configuration in which nothing has happened yet. -/
def Config.start (state : σ) (threads : ι → Program R ε α) : Config ι R σ ε α :=
  ⟨⟨state, []⟩, threads⟩

variable {semantics : Semantics ι R σ} {condition : Condition ι R σ}
  {first middle last : Config ι R σ ε α}

theorem Reaches.trans (left : Reaches semantics condition first middle)
    (right : Reaches semantics condition middle last) : Reaches semantics condition first last :=
  Relation.ReflTransGen.trans left right

/-- One thread goes on by one call. -/
theorem Reaches.moves {history : History ι R σ} {threads : ι → Program R ε α} {thread : ι} {request : C}
    {next : R request → Program R ε α} {reply : R request} {after : σ}
    (run : Reaches semantics condition first
      ⟨history, Function.update threads thread (.call request next)⟩)
    (answered : semantics thread request history.now reply after)
    (admitted : condition history.past ⟨thread, request, reply, history.now, after⟩) :
    Reaches semantics condition first
      ⟨history.record thread request reply after, Function.update threads thread (next reply)⟩ := by
  have moved : Step semantics condition ⟨history, Function.update threads thread (.call request next)⟩ _ :=
    .call (Function.update_self ..) answered admitted
  rw [Function.update_idem] at moved
  exact run.tail moved

theorem Step.extends (step : Step semantics condition first last) :
    first.toHistory.Extends last.toHistory := by
  cases step with
  | call pending answered admitted => exact .record ..

theorem Reaches.extends (run : Reaches semantics condition first last) :
    first.toHistory.Extends last.toHistory := by
  induction run with
  | refl => exact .refl _
  | tail _ step ih => exact ih.trans step.extends

/-- A run is one under any condition that its events meet after the past it started from. -/
theorem Reaches.admits {other : Condition ι R σ}
    (meets : ∀ past event, first.past <:+ past → condition past event → other past event)
    (run : Reaches semantics condition first last) : Reaches semantics other first last := by
  induction run with
  | refl => exact .refl
  | tail before step ih =>
    apply ih.tail
    cases step with
    | call pending answered admitted =>
      exact .call pending answered (meets _ _ (Reaches.extends before) admitted)

-- A schedule names the thread to move and a choice that determines the answer; playing it computes the configuration
-- it reaches.
section Schedule

variable {χ : Type*}

instance (past : List (Event ι R σ)) (event : Event ι R σ) :
    Decidable (unrestricted past event) := inferInstanceAs (Decidable True)

section Play

variable (answer : ι → χ → (c : C) → σ → Option (R c × σ)) (condition : Condition ι R σ)
  [∀ past event, Decidable (condition past event)]

/-- Answer the pending call of one thread by the choice given for it, if the condition admits it. -/
def Config.play (config : Config ι R σ ε α) (thread : ι) (choice : χ) :
    Option (Config ι R σ ε α) :=
  match config.threads thread with
  | .done _ => none
  | .raise _ => none
  | .call request next =>
      match answer thread choice request config.now with
      | none => none
      | some (reply, after) =>
          if condition config.past ⟨thread, request, reply, config.now, after⟩ then
            some ⟨config.toHistory.record thread request reply after,
              Function.update config.threads thread (next reply)⟩
          else none

/-- Play a whole schedule; a blocked or finished thread stops it. -/
def Config.playAll : Config ι R σ ε α → List (ι × χ) → Option (Config ι R σ ε α)
  | config, [] => some config
  | config, (thread, choice) :: rest =>
      (config.play answer condition thread choice).bind fun next => next.playAll rest

end Play

/-- A state semantics whose answers are exactly those some choice gives. -/
def semanticsOf (answer : ι → χ → (c : C) → σ → Option (R c × σ)) : Semantics ι R σ :=
  fun thread request before reply after =>
    ∃ choice, answer thread choice request before = some (reply, after)

variable {answer : ι → χ → (c : C) → σ → Option (R c × σ)}
  [∀ past event, Decidable (condition past event)]

theorem Config.play_step {thread : ι} {choice : χ}
    (played : first.play answer condition thread choice = some last) :
    Step (semanticsOf answer) condition first last := by
  unfold play at played
  split at played
  · cases played
  · cases played
  · next request next pending =>
    split at played
    · cases played
    · next reply after answered =>
      split at played
      · next admitted =>
        cases played
        exact .call pending ⟨choice, answered⟩ admitted
      · cases played

/-- Every schedule that plays is a run. -/
theorem Config.playAll_reaches {schedule : List (ι × χ)}
    (played : first.playAll answer condition schedule = some last) :
    Reaches (semanticsOf answer) condition first last := by
  induction schedule generalizing first with
  | nil => cases played; exact .refl
  | cons move rest ih =>
    obtain ⟨next, stepped, played⟩ := Option.bind_eq_some_iff.mp played
    exact .head (play_step stepped) (ih played)

/-- A schedule that plays and passes a check at its end exhibits a run. -/
theorem Config.playAll_exists {schedule : List (ι × χ)} {check : Config ι R σ ε α → Bool}
    (passed : (first.playAll answer condition schedule).any check = true) :
    ∃ last, Reaches (semanticsOf answer) condition first last ∧ check last = true := by
  obtain ⟨last, played, checked⟩ := (Option.any_eq_true _ _).mp passed
  exact ⟨last, playAll_reaches played, checked⟩

/-- The same with a stop in between. -/
theorem Config.playAll_exists_exists {schedule rest : List (ι × χ)}
    {check : Config ι R σ ε α → Config ι R σ ε α → Bool}
    (passed : (first.playAll answer condition schedule).any (fun middle =>
      (middle.playAll answer condition rest).any (check middle)) = true) :
    ∃ middle last, Reaches (semanticsOf answer) condition first middle ∧
      Reaches (semanticsOf answer) condition middle last ∧ check middle last = true := by
  obtain ⟨middle, run, passed⟩ := playAll_exists passed
  obtain ⟨last, rest, checked⟩ := playAll_exists passed
  exact ⟨middle, last, run, rest, checked⟩

end Schedule

end Interleaving
