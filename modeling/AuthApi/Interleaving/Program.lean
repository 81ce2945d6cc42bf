import Mathlib.Logic.Basic
import Mathlib.Tactic.TypeStar

/-! # Programs as trees of atomic calls

`Program R ε α` is the syntax of a request handler seen from outside: it issues calls of some
type `C`, receives a reply in `R c` for each, and either returns an `α` or raises an `ε`. The tree
contains no state and no scheduler, so one program can be run alone, interleaved with others, or
compared with another program call by call.
-/

namespace Interleaving

universe u v w x y

/-- A tree of calls; each inner node waits for the reply to its own call. -/
inductive Program {C : Type u} (R : C → Type v) (ε : Type w) (α : Type x) where
  | done (value : α) : Program R ε α
  | raise (error : ε) : Program R ε α
  | call (request : C) (next : R request → Program R ε α) : Program R ε α

namespace Program

variable {C : Type u} {R : C → Type v} {ε : Type w} {α : Type x} {β : Type y}

/-- Sequencing; an exception skips the continuation. -/
def bind : Program R ε α → (α → Program R ε β) → Program R ε β
  | .done value, rest => rest value
  | .raise error, _ => .raise error
  | .call request next, rest => .call request fun reply => (next reply).bind rest

/-- Run `handler` on the exception of the first program, if it ends with one. -/
def handle : Program R ε α → (ε → Program R ε α) → Program R ε α
  | .done value, _ => .done value
  | .raise error, handler => handler error
  | .call request next, handler => .call request fun reply => (next reply).handle handler

instance : Monad (Program R ε) where
  pure := .done
  bind := bind

instance : MonadExceptOf ε (Program R ε) where
  throw := .raise
  tryCatch := handle

/-- Issue one call and return its reply. -/
def perform (request : C) : Program R ε (R request) := .call request .done

@[simp] theorem pure_eq (value : α) : (pure value : Program R ε α) = .done value := rfl

@[simp] theorem throw_eq (error : ε) : (throw error : Program R ε α) = .raise error := rfl

@[simp] theorem tryCatch_eq (program : Program R ε α) (handler : ε → Program R ε α) :
    tryCatch program handler = program.handle handler := rfl

@[simp] theorem bind_eq {β : Type x} (program : Program R ε α) (rest : α → Program R ε β) :
    (program >>= rest) = program.bind rest := rfl

@[simp] theorem done_bind (value : α) (rest : α → Program R ε β) :
    (done value : Program R ε α).bind rest = rest value := rfl

@[simp] theorem raise_bind (error : ε) (rest : α → Program R ε β) :
    (raise error : Program R ε α).bind rest = .raise error := rfl

@[simp] theorem call_bind (request : C) (next : R request → Program R ε α)
    (rest : α → Program R ε β) :
    (call request next).bind rest = .call request fun reply => (next reply).bind rest := rfl

@[simp] theorem perform_bind (request : C) (rest : R request → Program R ε β) :
    (perform request : Program R ε _).bind rest = .call request rest := rfl

@[simp] theorem done_handle (value : α) (handler : ε → Program R ε α) :
    (done value).handle handler = .done value := rfl

@[simp] theorem raise_handle (error : ε) (handler : ε → Program R ε α) :
    (raise error).handle handler = handler error := rfl

@[simp] theorem call_handle (request : C) (next : R request → Program R ε α)
    (handler : ε → Program R ε α) :
    (call request next).handle handler = .call request fun reply => (next reply).handle handler :=
  rfl

/-- How a program has ended, if it has. -/
def outcome? : Program R ε α → Option (Except ε α)
  | .done value => some (.ok value)
  | .raise error => some (.error error)
  | .call _ _ => none

theorem outcome?_eq_ok {program : Program R ε α} {value : α} :
    program.outcome? = some (.ok value) ↔ program = .done value := by
  cases program <;> simp [outcome?]

theorem outcome?_eq_error {program : Program R ε α} {error : ε} :
    program.outcome? = some (.error error) ↔ program = .raise error := by
  cases program <;> simp [outcome?]

/-- The value of a program that has returned. -/
def value? : Program R ε α → Option α
  | .done value => some value
  | _ => none

theorem value?_eq_some {program : Program R ε α} {value : α} :
    program.value? = some value ↔ program = .done value := by
  cases program <;> simp [value?]

/-- The big-step runs of a program when `step` answers its calls and nothing else happens. -/
def Runs {σ : Type*} (step : (c : C) → σ → R c → σ → Prop) :
    Program R ε α → σ → Except ε α → σ → Prop
  | .done value, before, outcome, after => outcome = .ok value ∧ after = before
  | .raise error, before, outcome, after => outcome = .error error ∧ after = before
  | .call request next, before, outcome, after =>
      ∃ reply middle, step request before reply middle ∧ (next reply).Runs step middle outcome after

section Runs

variable {σ : Type*} {step : (c : C) → σ → R c → σ → Prop} {before after : σ}

@[simp] theorem runs_done (value : α) (outcome : Except ε α) :
    (done value : Program R ε α).Runs step before outcome after ↔
      outcome = .ok value ∧ after = before := Iff.rfl

@[simp] theorem runs_raise (error : ε) (outcome : Except ε α) :
    (raise error : Program R ε α).Runs step before outcome after ↔
      outcome = .error error ∧ after = before := Iff.rfl

@[simp] theorem runs_call (request : C) (next : R request → Program R ε α)
    (outcome : Except ε α) :
    (call request next).Runs step before outcome after ↔
      ∃ reply middle, step request before reply middle ∧
        (next reply).Runs step middle outcome after := Iff.rfl

end Runs

end Program

end Interleaving
