import Mathlib.Data.List.Count
import Mathlib.Order.Basic

/-! # Fixed windows

A window is opened by the first call that no earlier window covers and covers the calls of a fixed
span after it, its end included. Lists of call times are newest first. A limiter that grants the
first `limit` calls of each window grants at most twice as many in any interval of the same span,
because such an interval meets two windows at most.
-/

namespace RateLimiting

variable (span limit : ℕ)

/-- The calls of the window the newest call is in. -/
def window : List ℕ → List ℕ
  | [] => []
  | time :: older =>
      match (window older).getLast? with
      | some opened => if time ≤ opened + span then time :: window older else [time]
      | none => [time]

/-- When the newest call's window was opened. -/
def opened? (times : List ℕ) : Option ℕ := (window span times).getLast?

/-- The calls that were among the first `limit` of their window. -/
def granted : List ℕ → List ℕ
  | [] => []
  | time :: older =>
      if (window span (time :: older)).length ≤ limit then time :: granted older else granted older

variable {span limit} {time opened low : ℕ} {times older : List ℕ}

@[simp] theorem window_nil : window span [] = [] := rfl

@[simp] theorem opened?_nil : opened? span [] = none := rfl

/-- A call inside the current window joins it. -/
theorem window_join (current : opened? span older = some opened) (inside : time ≤ opened + span) :
    window span (time :: older) = time :: window span older := by
  unfold opened? at current
  simp only [window, current, if_pos inside]

/-- Any other call opens a window of its own. -/
theorem window_open (outside : ∀ opened, opened? span older = some opened → opened + span < time) :
    window span (time :: older) = [time] := by
  unfold opened? at outside
  rw [window]
  cases current : (window span older).getLast? with
  | none => rfl
  | some opened => simp only [if_neg (Nat.not_le.mpr (outside opened current))]

theorem opened?_join (current : opened? span older = some opened) (inside : time ≤ opened + span) :
    opened? span (time :: older) = some opened := by
  rw [opened?, window_join current inside]
  unfold opened? at current
  rw [List.getLast?_cons, current]
  rfl

theorem opened?_open (outside : ∀ opened, opened? span older = some opened → opened + span < time) :
    opened? span (time :: older) = some time := by
  rw [opened?, window_open outside]
  rfl

/-- Every call joins the current window or opens one. -/
theorem window_cases (span time : ℕ) (older : List ℕ) :
    (∃ opened, opened? span older = some opened ∧ time ≤ opened + span) ∨
      ∀ opened, opened? span older = some opened → opened + span < time := by
  cases current : opened? span older with
  | none => exact .inr nofun
  | some opened =>
    by_cases inside : time ≤ opened + span
    · exact .inl ⟨opened, rfl, inside⟩
    · right
      rintro _ ⟨⟩
      omega

theorem window_ne_nil (time : ℕ) (older : List ℕ) : window span (time :: older) ≠ [] := by
  rcases window_cases span time older with ⟨opened, current, inside⟩ | outside
  · rw [window_join current inside]
    exact List.cons_ne_nil _ _
  · rw [window_open outside]
    exact List.cons_ne_nil _ _

theorem mem_window (member : time ∈ window span times) : time ∈ times := by
  induction times with
  | nil => cases member
  | cons newest older ih =>
    rcases window_cases span newest older with ⟨opened, current, inside⟩ | outside
    · rw [window_join current inside] at member
      rcases List.mem_cons.mp member with rfl | earlier
      · exact List.mem_cons_self
      · exact List.mem_cons_of_mem _ (ih earlier)
    · rw [window_open outside, List.mem_singleton] at member
      rw [member]
      exact List.mem_cons_self

theorem opened?_mem (current : opened? span times = some opened) : opened ∈ times :=
  mem_window (List.mem_of_getLast? current)

theorem granted_subset (member : time ∈ granted span limit times) : time ∈ times := by
  induction times with
  | nil => cases member
  | cons newest older ih =>
    unfold granted at member
    split at member
    · rcases List.mem_cons.mp member with rfl | earlier
      · exact List.mem_cons_self
      · exact List.mem_cons_of_mem _ (ih earlier)
    · exact List.mem_cons_of_mem _ (ih member)

/-- Once the clock has left the window, only new calls count. -/
theorem countP_granted_of_lt {p : ℕ → Bool} (none : ∀ time ∈ times, p time = false) :
    (granted span limit times).countP p = 0 := by
  apply List.countP_eq_zero.mpr
  intro time member happens
  rw [none time (granted_subset member)] at happens
  cases happens

theorem opened?_ne_none (time : ℕ) (older : List ℕ) : opened? span (time :: older) ≠ none := by
  intro absent
  exact window_ne_nil time older (List.getLast?_eq_none_iff.mp absent)

/-- No call lies beyond the current window. -/
theorem le_of_opened? (current : opened? span times = some opened) (member : time ∈ times) :
    time ≤ opened + span := by
  induction times generalizing opened with
  | nil => cases member
  | cons newest older ih =>
    rcases window_cases span newest older with ⟨opening, before, inside⟩ | outside
    · rw [opened?_join before inside] at current
      cases current
      rcases List.mem_cons.mp member with rfl | earlier
      · exact inside
      · exact ih before earlier
    · rw [opened?_open outside] at current
      cases current
      rcases List.mem_cons.mp member with rfl | earlier
      · omega
      · obtain ⟨opening, before⟩ : ∃ opening, opened? span older = some opening := by
          cases older with
          | nil => cases earlier
          | cons first rest => exact Option.ne_none_iff_exists'.mp (opened?_ne_none first rest)
        have here := ih before earlier
        have later := outside opening before
        omega

/-- The call that opens a window is later than all before it. -/
theorem lt_of_outside (outside : ∀ opened, opened? span older = some opened → opened + span < time)
    {other : ℕ} (member : other ∈ older) : other < time := by
  cases older with
  | nil => cases member
  | cons first rest =>
    obtain ⟨opened, current⟩ : ∃ opened, opened? span (first :: rest) = some opened :=
      Option.ne_none_iff_exists'.mp (opened?_ne_none first rest)
    have bound := le_of_opened? current member
    have later := outside opened current
    omega

/-- A window grants its first calls and no more. -/
theorem countP_granted_window (current : opened? span times = some opened) :
    (granted span limit times).countP (fun time => opened ≤ time) ≤
      min (window span times).length limit := by
  induction times generalizing opened with
  | nil => cases current
  | cons newest older ih =>
    rcases window_cases span newest older with ⟨opening, before, inside⟩ | outside
    · rw [opened?_join before inside] at current
      cases current
      have counted := ih before
      rw [granted, window_join before inside, List.length_cons]
      split
      · rw [List.countP_cons]
        split <;> omega
      · omega
    · rw [opened?_open outside] at current
      cases current
      have earlier : (granted span limit older).countP (fun other => newest ≤ other) = 0 := by
        apply countP_granted_of_lt
        intro other member
        exact decide_eq_false (Nat.not_le.mpr (lt_of_outside outside member))
      rw [granted, window_open outside, List.length_singleton]
      split
      · rw [List.countP_cons, earlier]
        split <;> omega
      · omega

/-- Calls that all lie within one span are in one window, which grants no more than the limit. -/
theorem length_granted_le (within : ∀ time ∈ times, low ≤ time ∧ time ≤ low + span) :
    (granted span limit times).length ≤ limit := by
  suffices all : window span times = times ∧ (granted span limit times).length ≤ min times.length limit by
    omega
  induction times with
  | nil => simp [granted]
  | cons newest older ih =>
    obtain ⟨here, rest⟩ := List.forall_mem_cons.mp within
    obtain ⟨whole, bound⟩ := ih rest
    have joined : window span (newest :: older) = newest :: older := by
      rcases window_cases span newest older with ⟨opened, current, inside⟩ | outside
      · rw [window_join current inside, whole]
      · cases older with
        | nil => exact window_open outside
        | cons first last =>
          obtain ⟨opened, current⟩ : ∃ opened, opened? span (first :: last) = some opened :=
            Option.ne_none_iff_exists'.mp (opened?_ne_none first last)
          have late := outside opened current
          have early := rest opened (opened?_mem current)
          omega
    refine ⟨joined, ?_⟩
    rw [granted, joined, List.length_cons]
    split
    · rw [List.length_cons] at *
      omega
    · omega

/-- The invariant behind the bound on intervals: a window opened before the interval has all that
was granted in it, and one opened in the interval is the second one at most. -/
private theorem countP_granted_interval (sorted : times.Pairwise fun newer older => older ≤ newer)
    (current : opened? span times = some opened) :
    (opened < low → (granted span limit times).countP
        (fun time => low ≤ time && time ≤ low + span) ≤ min (window span times).length limit) ∧
      (opened ≤ low + span → (granted span limit times).countP
        (fun time => low ≤ time && time ≤ low + span) ≤
          limit + min (window span times).length limit) ∧
      (granted span limit times).countP (fun time => low ≤ time && time ≤ low + span) ≤
        2 * limit := by
  induction times generalizing opened with
  | nil => cases current
  | cons newest older ih =>
    obtain ⟨latest, sorted⟩ := List.pairwise_cons.mp sorted
    rcases window_cases span newest older with ⟨opening, before, inside⟩ | outside
    · rw [opened?_join before inside] at current
      cases current
      obtain ⟨early, second, total⟩ := ih sorted before
      have order := latest _ (opened?_mem before)
      rw [granted, window_join before inside, List.length_cons]
      split
      · rw [List.countP_cons]
        split
        · next within =>
          rw [Bool.and_eq_true, decide_eq_true_iff, decide_eq_true_iff] at within
          omega
        · omega
      · omega
    · rw [opened?_open outside] at current
      cases current
      have before : newest < low → (granted span limit older).countP
          (fun time => low ≤ time && time ≤ low + span) = 0 := by
        intro early
        apply countP_granted_of_lt
        intro other member
        have order := lt_of_outside outside member
        simp only [Bool.and_eq_false_imp, decide_eq_true_iff]
        intro reached
        omega
      have previous : (newest ≤ low + span → (granted span limit older).countP
            (fun time => low ≤ time && time ≤ low + span) ≤ limit) ∧
          (granted span limit older).countP (fun time => low ≤ time && time ≤ low + span) ≤
            2 * limit := by
        cases current : opened? span older with
        | none =>
          have empty : older = [] := by
            cases older with
            | nil => rfl
            | cons first rest => exact absurd current (opened?_ne_none first rest)
          subst empty
          simp [granted]
        | some opening =>
          obtain ⟨early, _, total⟩ := ih sorted current
          have gap := outside opening current
          omega
      obtain ⟨second, total⟩ := previous
      rw [granted, window_open outside, List.length_singleton]
      split
      · rw [List.countP_cons]
        split
        · next within =>
          rw [Bool.and_eq_true, decide_eq_true_iff, decide_eq_true_iff] at within
          omega
        · omega
      · omega

/-- Any interval of the span of a window, its end included, has at most twice the limit granted. -/
theorem countP_granted_le (low : ℕ) (sorted : times.Pairwise fun newer older => older ≤ newer) :
    (granted span limit times).countP (fun time => low ≤ time && time ≤ low + span) ≤ 2 * limit := by
  cases times with
  | nil => simp [granted]
  | cons newest older =>
    obtain ⟨opened, current⟩ := Option.ne_none_iff_exists'.mp (opened?_ne_none newest older)
    exact (countP_granted_interval sorted current).2.2

end RateLimiting
