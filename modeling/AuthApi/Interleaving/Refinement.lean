import AuthApi.Interleaving.Trace

/-! # Refinement of pools

A program refines another if it makes the same shared calls, with hidden calls in between, and ends as the other
end allows. A program may make hidden calls first, and choose what it refines by their replies. If hidden calls
are not seen in the coarse state and shared calls can be repeated there, every run of a pool of such programs has
a run of a pool of the coarse ones beside it, at every interleaving.
-/

namespace Interleaving

variable {ι κ C σ τ ε ε' ε'' α β γ : Type*} {R : C → Type*}

/-- The second list is the first one without some of its hidden entries. -/
inductive Omits {α : Type*} (hidden : α → Prop) : List α → List α → Prop
  | nil : Omits hidden [] []
  | skip {entry : α} {entries shown : List α} (isHidden : hidden entry) (rest : Omits hidden entries shown) :
      Omits hidden (entry :: entries) shown
  | keep (entry : α) {entries shown : List α} (rest : Omits hidden entries shown) :
      Omits hidden (entry :: entries) (entry :: shown)

namespace Omits

variable {hidden : α → Prop} {entries shown : List α}

theorem sublist (omits : Omits hidden entries shown) : shown.Sublist entries := by
  induction omits with
  | nil => exact List.nil_sublist []
  | skip isHidden rest ih => exact ih.cons _
  | keep entry rest ih => exact ih.cons_cons entry

/-- What is not hidden is still there. -/
theorem mem_shown (omits : Omits hidden entries shown) {entry : α} (member : entry ∈ entries)
    (visible : ¬ hidden entry) : entry ∈ shown := by
  induction omits with
  | nil => exact member
  | skip isHidden rest ih =>
    rcases List.mem_cons.mp member with rfl | old
    · exact absurd isHidden visible
    · exact ih old
  | keep newest rest ih =>
    rcases List.mem_cons.mp member with rfl | old
    · exact List.mem_cons_self
    · exact List.mem_cons_of_mem _ (ih old)

end Omits

/-- The exchange of an event, with the thread that made it. -/
def Event.move (event : Event ι R σ) : ι × Exchange R := (event.thread, event.exchange)

namespace Program

/-- Go on with what a program has ended with, be it a value or an exception. -/
def finish : Program R ε γ → (Except ε γ → Program R ε' α) → Program R ε' α
  | .done value, rest => rest (.ok value)
  | .raise error, rest => rest (.error error)
  | .call request next, rest => .call request fun reply => (next reply).finish rest

/-- The program that has ended so. -/
def ended : Except ε α → Program R ε α
  | .ok value => .done value
  | .error error => .raise error

@[simp] theorem outcome?_ended (outcome : Except ε α) :
    (ended outcome : Program R ε α).outcome? = some outcome := by
  cases outcome <;> rfl

theorem eq_ended {program : Program R ε α} {outcome : Except ε α}
    (done : program.outcome? = some outcome) : program = ended outcome := by
  cases outcome with
  | ok value => exact outcome?_eq_ok.mp done
  | error error => exact outcome?_eq_error.mp done

theorem bind_bind (program : Program R ε α) (middle : α → Program R ε β) (rest : β → Program R ε γ) :
    (program.bind middle).bind rest = program.bind fun value => (middle value).bind rest := by
  induction program with
  | done value => rfl
  | raise error => rfl
  | call request next ih => simp only [call_bind, ih]

theorem bind_eq_finish (program : Program R ε α) (rest : α → Program R ε β) :
    program.bind rest = program.finish fun outcome => match outcome with
      | .ok value => rest value
      | .error error => .raise error := by
  induction program with
  | done value => rfl
  | raise error => rfl
  | call request next ih => simp only [call_bind, finish, ih]

theorem handle_eq_finish (program : Program R ε α) (handler : ε → Program R ε α) :
    program.handle handler = program.finish fun outcome => match outcome with
      | .ok value => .done value
      | .error error => handler error := by
  induction program with
  | done value => rfl
  | raise error => rfl
  | call request next ih => simp only [call_handle, finish, ih]

theorem finish_finish (program : Program R ε γ) (middle : Except ε γ → Program R ε' β)
    (rest : Except ε' β → Program R ε'' α) :
    (program.finish middle).finish rest = program.finish fun outcome => (middle outcome).finish rest := by
  induction program with
  | done value => rfl
  | raise error => rfl
  | call request next ih => simp only [finish, ih]

section Mirrors

variable (hidden shared : C → Prop)

/-- The first program makes the shared calls of the second and hidden ones in between. -/
inductive Mirrors (ends : Except ε α → Except ε' β → Prop) : Program R ε α → Program R ε' β → Prop
  | done {outcome : Except ε α} {image : Except ε' β} (related : ends outcome image) :
      Mirrors ends (ended outcome) (ended image)
  | hide {request : C} {next : R request → Program R ε α} {coarse : Program R ε' β}
      (isHidden : hidden request) (rest : ∀ reply, Mirrors ends (next reply) coarse) :
      Mirrors ends (.call request next) coarse
  | share {request : C} {next : R request → Program R ε α} {next' : R request → Program R ε' β}
      (isShared : shared request) (rest : ∀ reply, Mirrors ends (next reply) (next' reply)) :
      Mirrors ends (.call request next) (.call request next')

/-- A program that has not yet decided which of the listed programs it refines, and may end before it does. -/
inductive Opens (coarse : κ → Program R ε' β) (allowed : κ → Prop) (early : Except ε α → Prop)
    (ends : κ → Except ε α → Except ε' β → Prop) : Program R ε α → Prop
  | early {outcome : Except ε α} (isEarly : early outcome) : Opens coarse allowed early ends (ended outcome)
  | hide {request : C} {next : R request → Program R ε α} (isHidden : hidden request)
      (rest : ∀ reply, Opens coarse allowed early ends (next reply)) :
      Opens coarse allowed early ends (.call request next)
  | opens {fine : Program R ε α} (key : κ) (isAllowed : allowed key)
      (refines : Mirrors hidden shared (ends key) fine (coarse key)) : Opens coarse allowed early ends fine

variable {hidden shared} {ends : Except ε α → Except ε' β → Prop}

theorem Mirrors.finished {fine : Program R ε α} {coarse : Program R ε' β}
    (refines : Mirrors hidden shared ends fine coarse) {outcome : Except ε α}
    (done : fine.outcome? = some outcome) : ∃ image, coarse.outcome? = some image ∧ ends outcome image := by
  cases refines with
  | @done outcome image related =>
    rw [outcome?_ended, Option.some.injEq] at done
    subst done
    exact ⟨image, outcome?_ended image, related⟩
  | hide isHidden rest => cases done
  | share isShared rest => cases done

/-- A pending call is hidden, or the other program makes it too. -/
theorem Mirrors.pending {request : C} {next : R request → Program R ε α} {coarse : Program R ε' β}
    (refines : Mirrors hidden shared ends (.call request next) coarse) :
    (hidden request ∧ ∀ reply, Mirrors hidden shared ends (next reply) coarse) ∨
      (shared request ∧ ∃ next', coarse = .call request next' ∧
        ∀ reply, Mirrors hidden shared ends (next reply) (next' reply)) := by
  generalize status : Program.call request next = fine at refines
  cases refines with
  | @done outcome image related => cases outcome <;> cases status
  | hide isHidden rest =>
    cases status
    exact .inl ⟨isHidden, rest⟩
  | share isShared rest =>
    cases status
    exact .inr ⟨isShared, _, rfl, rest⟩

/-- The same calls go on differently; what is known of the program decides how. -/
theorem Mirrors.of_along {program : Program R ε'' γ} {trace : Trace R} {q : Trace R → Except ε'' γ → Prop}
    {left : Except ε'' γ → Program R ε α} {right : Except ε'' γ → Program R ε' β}
    (along : program.Along (fun _ request => shared request) q trace)
    (goes : ∀ later outcome, q later outcome → Mirrors hidden shared ends (left outcome) (right outcome)) :
    Mirrors hidden shared ends (program.finish left) (program.finish right) := by
  induction program generalizing trace with
  | done value => exact goes trace _ along
  | raise error => exact goes trace _ along
  | call request next ih => exact .share along.1 fun reply => ih reply (along.2 reply)

theorem Mirrors.finish {fine : Program R ε α} {coarse : Program R ε' β} {f : Except ε α → Except ε'' γ}
    {after : Except ε'' γ → Except ε' β → Prop} (refines : Mirrors hidden shared ends fine coarse)
    (related : ∀ outcome image, ends outcome image → after (f outcome) image) :
    Mirrors hidden shared after (fine.finish fun outcome => ended (f outcome)) coarse := by
  induction refines with
  | @done outcome image holds =>
    have same : (ended outcome : Program R ε α).finish (fun outcome => ended (f outcome)) =
        (ended (f outcome) : Program R ε'' γ) := by
      cases outcome <;> rfl
    rw [same]
    exact .done (related _ _ holds)
  | hide isHidden rest ih => exact .hide isHidden ih
  | share isShared rest ih => exact .share isShared ih

variable {coarse : κ → Program R ε' β} {allowed : κ → Prop} {early : Except ε α → Prop}
  {key_ends : κ → Except ε α → Except ε' β → Prop}

/-- Hidden calls come first. -/
theorem Opens.of_along {program : Program R ε'' γ} {trace : Trace R} {q : Trace R → Except ε'' γ → Prop}
    {rest : Except ε'' γ → Program R ε α} (along : program.Along (fun _ request => hidden request) q trace)
    (goes : ∀ later outcome, q later outcome → Opens hidden shared coarse allowed early key_ends (rest outcome)) :
    Opens hidden shared coarse allowed early key_ends (program.finish rest) := by
  induction program generalizing trace with
  | done value => exact goes trace _ along
  | raise error => exact goes trace _ along
  | call request next ih => exact .hide along.1 fun reply => ih reply (along.2 reply)

theorem Opens.finish {fine : Program R ε α} {f : Except ε α → Except ε'' γ} {early' : Except ε'' γ → Prop}
    {ends' : κ → Except ε'' γ → Except ε' β → Prop}
    (opens : Opens hidden shared coarse allowed early key_ends fine)
    (isEarly : ∀ outcome, early outcome → early' (f outcome))
    (related : ∀ key outcome image, key_ends key outcome image → ends' key (f outcome) image) :
    Opens hidden shared coarse allowed early' ends' (fine.finish fun outcome => ended (f outcome)) := by
  induction opens with
  | @early outcome holds =>
    have same : (ended outcome : Program R ε α).finish (fun outcome => ended (f outcome)) =
        (ended (f outcome) : Program R ε'' γ) := by
      cases outcome <;> rfl
    rw [same]
    exact .early (isEarly _ holds)
  | hide isHidden rest ih => exact .hide isHidden ih
  | opens key isAllowed refines => exact .opens key isAllowed (refines.finish (related key))

/-! What is known of the coarse program is known of its part of a trace. -/

theorem Mirrors.along {fine : Program R ε α} {coarse : Program R ε' β}
    (refines : Mirrors hidden shared ends fine coarse) {spec : Trace R → C → Prop}
    {q : Trace R → Except ε' β → Prop} {trace shown : Trace R}
    (omits : Omits (fun exchange => hidden exchange.request) trace shown) (along : coarse.Along spec q shown) :
    fine.Along
      (fun later request => hidden request ∨
        ∃ shown, Omits (fun exchange => hidden exchange.request) later shown ∧ spec shown request)
      (fun later outcome => ∃ shown image, Omits (fun exchange => hidden exchange.request) later shown ∧
        q shown image ∧ ends outcome image) trace := by
  induction refines generalizing trace shown with
  | @done outcome image related =>
    have finished : q shown image := by
      cases image <;> exact along
    cases outcome <;> exact ⟨shown, image, omits, finished, related⟩
  | hide isHidden rest ih => exact ⟨.inl isHidden, fun reply => ih reply (.skip isHidden omits) along⟩
  | share isShared rest ih =>
    exact ⟨.inr ⟨shown, omits, along.1⟩, fun reply => ih reply (.keep _ omits) (along.2 reply)⟩

theorem Opens.along {fine : Program R ε α}
    (opens : Opens hidden shared coarse allowed early key_ends fine) {spec : κ → Trace R → C → Prop}
    {q : κ → Trace R → Except ε' β → Prop} (known : ∀ key, allowed key → (coarse key).Along (spec key) (q key) [])
    {trace : Trace R} (silent : ∀ exchange ∈ trace, hidden exchange.request) :
    fine.Along
      (fun later request => hidden request ∨ ∃ key shown, allowed key ∧
        Omits (fun exchange => hidden exchange.request) later shown ∧ spec key shown request)
      (fun later outcome => (early outcome ∧ ∀ exchange ∈ later, hidden exchange.request) ∨
        ∃ key shown image, allowed key ∧ Omits (fun exchange => hidden exchange.request) later shown ∧
          q key shown image ∧ key_ends key outcome image) trace := by
  induction opens generalizing trace with
  | @early outcome isEarly => cases outcome <;> exact .inl ⟨isEarly, silent⟩
  | hide isHidden rest ih =>
    exact ⟨.inl isHidden, fun reply => ih reply (List.forall_mem_cons.mpr ⟨isHidden, silent⟩)⟩
  | opens key isAllowed refines =>
    have none : Omits (fun exchange => hidden exchange.request) trace [] := by
      clear * - silent
      induction trace with
      | nil => exact .nil
      | cons exchange rest ih =>
        obtain ⟨isHidden, others⟩ := List.forall_mem_cons.mp silent
        exact .skip isHidden (ih others)
    apply (refines.along none (known key isAllowed)).mono
    · rintro later request (isHidden | ⟨shown, omits, specified⟩)
      · exact .inl isHidden
      · exact .inr ⟨key, shown, isAllowed, omits, specified⟩
    · rintro later outcome ⟨shown, image, omits, finished, related⟩
      exact .inr ⟨key, shown, image, isAllowed, omits, finished, related⟩

end Mirrors

end Program

open Program

section Pools

variable [DecidableEq ι]

/-- A thread that has not moved still has its program. -/
theorem Reaches.unmoved {semantics : Semantics ι R σ} {condition : Condition ι R σ} {first last : Config ι R σ ε α}
    (run : Reaches semantics condition first last) {thread : ι}
    (silent : ∀ event ∈ last.past, event.thread ≠ thread) : last.threads thread = first.threads thread := by
  induction run with
  | refl => rfl
  | tail before step ih =>
    cases step with
    | @call mover request next reply after pending answered admitted =>
      have moved : mover ≠ thread := silent _ List.mem_cons_self
      simp only [Function.update_of_ne moved.symm]
      exact ih fun event member => silent event (List.mem_cons_of_mem _ member)

/-- A thread that has not moved may have had any other program. -/
theorem Reaches.replace {semantics : Semantics ι R σ} {condition : Condition ι R σ}
    {first last : Config ι R σ ε α} (run : Reaches semantics condition first last) {thread : ι}
    (silent : ∀ event ∈ last.past, event.thread ≠ thread) (program : Program R ε α) :
    Reaches semantics condition { first with threads := Function.update first.threads thread program }
      { last with threads := Function.update last.threads thread program } := by
  induction run with
  | refl => exact .refl
  | tail before step ih =>
    cases step with
    | @call mover request next reply after pending answered admitted =>
      have moved : mover ≠ thread := silent _ List.mem_cons_self
      have earlier := ih fun event member => silent event (List.mem_cons_of_mem _ member)
      apply earlier.tail
      rw [Function.update_comm moved]
      refine .call ?_ answered admitted
      simp only [Function.update_of_ne moved, pending]

/-- Hidden calls leave the coarse state, and shared calls can be repeated in it. -/
structure Simulates (hidden shared : C → Prop) (fine : Semantics ι R σ) (coarse : Semantics ι R τ)
    (r : σ → τ → Prop) : Prop where
  hides : ∀ {thread request before reply after image}, hidden request → r before image →
    fine thread request before reply after → r after image
  shares : ∀ {thread request before reply after image}, shared request → r before image →
    fine thread request before reply after → ∃ image', coarse thread request image reply image' ∧ r after image'

variable {hidden shared : C → Prop} {fine : Semantics ι R σ} {coarse : Semantics ι R τ} {r : σ → τ → Prop}
  {program : κ → Program R ε' β} {allowed : ι → κ → Prop} {early : ι → Except ε α → Prop}
  {ends : ι → κ → Except ε α → Except ε' β → Prop}

variable (hidden shared program allowed early ends) in
/-- What a thread of the fine pool has to do with the thread of the same name of the coarse pool. -/
inductive Follows (keys : ι → κ) (shadow : Config ι R τ ε' β) (thread : ι) : Program R ε α → Prop
  | waiting {remaining : Program R ε α} (silent : ∀ event ∈ shadow.past, event.thread ≠ thread)
      (opens : Opens hidden shared program (allowed thread) (early thread) (ends thread) remaining) :
      Follows keys shadow thread remaining
  | opened {remaining : Program R ε α} (isAllowed : allowed thread (keys thread))
      (refines : Mirrors hidden shared (ends thread (keys thread)) remaining (shadow.threads thread)) :
      Follows keys shadow thread remaining

variable (hidden shared coarse r program allowed early ends) in
/-- A run of the coarse pool beside a configuration of the fine one. -/
structure Shadow (image : τ) (config : Config ι R σ ε α) (keys : ι → κ) (shadow : Config ι R τ ε' β) :
    Prop where
  run : Reaches coarse unrestricted (.start image fun thread => program (keys thread)) shadow
  related : r config.now shadow.now
  moves : Omits (fun move => hidden move.2.request) (config.past.map Event.move) (shadow.past.map Event.move)
  follows : ∀ thread, Follows hidden shared program allowed early ends keys shadow thread
    (config.threads thread)

omit [DecidableEq ι] in
/-- Other threads are not concerned by the moves of one. -/
theorem Follows.others {keys keys' : ι → κ} {shadow shadow' : Config ι R τ ε' β} {thread : ι}
    {remaining : Program R ε α} (mover : ι)
    (follows : Follows hidden shared program allowed early ends keys shadow thread remaining)
    (key : keys' thread = keys thread) (other : shadow'.threads thread = shadow.threads thread)
    (past : ∀ event ∈ shadow'.past, event ∈ shadow.past ∨ event.thread = mover) (distinct : thread ≠ mover) :
    Follows hidden shared program allowed early ends keys' shadow' thread remaining := by
  cases follows with
  | waiting silent opens =>
    refine .waiting (fun event member => ?_) opens
    obtain old | own := past event member
    · exact silent event old
    · rw [own]
      exact distinct.symm
  | opened isAllowed refines => exact .opened (key ▸ isAllowed) (by rw [key, other]; exact refines)

/-- A thread that waits may begin with any program it opens. -/
theorem Shadow.select {image : τ} {config : Config ι R σ ε α} {keys : ι → κ} {shadow : Config ι R τ ε' β}
    (beside : Shadow hidden shared coarse r program allowed early ends image config keys shadow) {mover : ι}
    (silent : ∀ event ∈ shadow.past, event.thread ≠ mover) {key : κ} (isAllowed : allowed mover key)
    (refines : Mirrors hidden shared (ends mover key) (config.threads mover) (program key)) :
    Shadow hidden shared coarse r program allowed early ends image config (Function.update keys mover key)
      { shadow with threads := Function.update shadow.threads mover (program key) } where
  run := by
    have programs : (fun thread => program (Function.update keys mover key thread)) =
        Function.update (fun thread => program (keys thread)) mover (program key) :=
      Function.comp_update program keys mover key
    rw [programs]
    exact beside.run.replace silent (program key)
  related := beside.related
  moves := beside.moves
  follows thread := by
    by_cases same : thread = mover
    · subst same
      refine .opened ?_ ?_
      · rw [Function.update_self]
        exact isAllowed
      · simp only [Function.update_self]
        exact refines
    · apply (beside.follows thread).others mover
      · exact Function.update_of_ne same _ _
      · exact Function.update_of_ne same _ _
      · exact fun event member => .inl member
      · exact same

/-- One step of the fine pool: a hidden one, or one that the coarse pool makes as well. -/
theorem Shadow.step (simulates : Simulates hidden shared fine coarse r) {image : τ}
    {first last : Config ι R σ ε α} {keys : ι → κ} {shadow : Config ι R τ ε' β}
    (beside : Shadow hidden shared coarse r program allowed early ends image first keys shadow)
    (step : Step fine unrestricted first last) :
    ∃ keys' shadow', Shadow hidden shared coarse r program allowed early ends image last keys' shadow' := by
  cases step with
  | @call mover request next reply after pending answered admitted =>
    have skip {keys : ι → κ} {shadow : Config ι R τ ε' β}
        (beside : Shadow hidden shared coarse r program allowed early ends image first keys shadow)
        (isHidden : hidden request)
        (goes : Follows hidden shared program allowed early ends keys shadow mover (next reply)) :
        ∃ keys' shadow', Shadow hidden shared coarse r program allowed early ends image
          ⟨first.toHistory.record mover request reply after, Function.update first.threads mover (next reply)⟩
          keys' shadow' := by
      refine ⟨keys, shadow, beside.run, simulates.hides isHidden beside.related answered,
        .skip isHidden beside.moves, fun thread => ?_⟩
      by_cases same : thread = mover
      · subst same
        simpa only [Function.update_self] using goes
      · simpa only [Function.update_of_ne same] using beside.follows thread
    -- the mover has opened: its call is hidden, or the coarse thread makes it too
    have advance {keys : ι → κ} {shadow : Config ι R τ ε' β}
        (beside : Shadow hidden shared coarse r program allowed early ends image first keys shadow)
        (isAllowed : allowed mover (keys mover))
        (refines : Mirrors hidden shared (ends mover (keys mover)) (.call request next) (shadow.threads mover)) :
        ∃ keys' shadow', Shadow hidden shared coarse r program allowed early ends image
          ⟨first.toHistory.record mover request reply after, Function.update first.threads mover (next reply)⟩
          keys' shadow' := by
      obtain ⟨isHidden, rest⟩ | ⟨isShared, next', status, rest⟩ := refines.pending
      · exact skip beside isHidden (.opened isAllowed (rest reply))
      · obtain ⟨image', repeated, related⟩ := simulates.shares isShared beside.related answered
        refine ⟨keys, _, beside.run.tail (.call status repeated trivial), related, .keep _ beside.moves,
          fun thread => ?_⟩
        by_cases same : thread = mover
        · subst same
          simp only [Function.update_self]
          apply Follows.opened isAllowed
          simp only [Function.update_self]
          exact rest reply
        · simp only [Function.update_of_ne same]
          apply (beside.follows thread).others mover rfl
          · exact Function.update_of_ne same _ _
          · intro event member
            rcases List.mem_cons.mp member with rfl | old
            · exact .inr rfl
            · exact .inl old
          · exact same
    have status := beside.follows mover
    rw [pending] at status
    cases status with
    | opened isAllowed refines => exact advance beside isAllowed refines
    | waiting silent opens =>
      generalize call : Program.call request next = remaining at opens
      cases opens with
      | @early outcome isEarly => cases outcome <;> cases call
      | hide isHidden rest =>
        cases call
        exact skip beside isHidden (.waiting silent (rest reply))
      | opens key isAllowed refines =>
        subst call
        have selected := beside.select silent isAllowed (pending ▸ refines)
        refine advance selected ?_ ?_
        · rw [Function.update_self]
          exact isAllowed
        · simp only [Function.update_self]
          exact refines

/-- Every run of the fine pool has a run of the coarse one beside it. -/
theorem Reaches.shadowed (simulates : Simulates hidden shared fine coarse r) [Nonempty κ] {state : σ} {image : τ}
    (related : r state image) {threads : ι → Program R ε α}
    (opens : ∀ thread, Opens hidden shared program (allowed thread) (early thread) (ends thread) (threads thread))
    {config : Config ι R σ ε α} (run : Reaches fine unrestricted (.start state threads) config) :
    ∃ keys shadow, Shadow hidden shared coarse r program allowed early ends image config keys shadow := by
  induction run with
  | refl =>
    refine ⟨fun _ => Classical.arbitrary κ, _, .refl, related, .nil, fun thread => ?_⟩
    exact .waiting (List.forall_mem_nil _) (opens thread)
  | tail _ step ih =>
    obtain ⟨keys, shadow, beside⟩ := ih
    exact beside.step simulates step

end Pools

end Interleaving
