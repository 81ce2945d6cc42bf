import AuthApi.Interleaving.Pool

/-! # Programs in lockstep

Two programs are in lockstep if they issue twin calls as long as they get the same replies, and then
end in related results. Where a world answers twin calls alike, two pools in lockstep that follow one
schedule go through the same states, so a difference between them can only show in their results.
-/

namespace Interleaving

variable {ι C σ ε α β γ δ χ : Type*} {R : C → Type*}

namespace Program

/-- Twin calls on the same replies, the same exceptions, related results. -/
inductive Lockstep (twins : C → C → Prop) (post : α → β → Prop) :
    Program R ε α → Program R ε β → Prop
  | done {value : α} {other : β} (related : post value other) :
      Lockstep twins post (.done value) (.done other)
  | raise (error : ε) : Lockstep twins post (.raise error) (.raise error)
  | call {request other : C} {next : R request → Program R ε α} {next' : R other → Program R ε β}
      (same : twins request other)
      (rest : ∀ reply reply', HEq reply reply' → Lockstep twins post (next reply) (next' reply')) :
      Lockstep twins post (.call request next) (.call other next')

/-- The same exception, or related results. -/
inductive Outcomes (post : α → β → Prop) : Except ε α → Except ε β → Prop
  | ok {value : α} {other : β} (related : post value other) : Outcomes post (.ok value) (.ok other)
  | error (error : ε) : Outcomes post (.error error) (.error error)

variable {twins : C → C → Prop} {post : α → β → Prop} {program : Program R ε α} {other : Program R ε β}

/-- A program is in lockstep with itself. -/
theorem Lockstep.refl (same : ∀ request, twins request request) (program : Program R ε α) :
    Lockstep twins Eq program program := by
  induction program with
  | done value => exact .done rfl
  | raise error => exact .raise error
  | call request next ih =>
    refine .call (same request) fun reply reply' equal => ?_
    cases equal
    exact ih reply

theorem Lockstep.bind {after : γ → δ → Prop} {rest : α → Program R ε γ} {rest' : β → Program R ε δ}
    (locked : Lockstep twins post program other)
    (resume : ∀ value result, post value result → Lockstep twins after (rest value) (rest' result)) :
    Lockstep twins after (program.bind rest) (other.bind rest') := by
  induction locked with
  | done related => exact resume _ _ related
  | raise error => exact .raise error
  | call same _ ih => exact .call same ih

theorem Lockstep.handle {handler : ε → Program R ε α} {handler' : ε → Program R ε β}
    (locked : Lockstep twins post program other)
    (recover : ∀ error, Lockstep twins post (handler error) (handler' error)) :
    Lockstep twins post (program.handle handler) (other.handle handler') := by
  induction locked with
  | done related => exact .done related
  | raise error => exact recover error
  | call same _ ih => exact .call same ih

end Program

/-- Twin calls get the same reply and leave the same state. -/
def AnswersAlike (answer : ι → χ → (c : C) → σ → Option (R c × σ)) (twins : C → C → Prop) : Prop :=
  ∀ thread choice request other state reply after, twins request other →
    answer thread choice request state = some (reply, after) →
      ∃ reply', HEq reply reply' ∧ answer thread choice other state = some (reply', after)

/-- Two pools in the same state whose threads are in lockstep. -/
structure Config.Locked (twins : C → C → Prop) (post : ι → α → β → Prop) (first : Config ι R σ ε α)
    (second : Config ι R σ ε β) : Prop where
  now : first.now = second.now
  threads : ∀ thread, (first.threads thread).Lockstep twins (post thread) (second.threads thread)

section Play

variable [DecidableEq ι] {answer : ι → χ → (c : C) → σ → Option (R c × σ)} {twins : C → C → Prop}
  {post : ι → α → β → Prop} {first last : Config ι R σ ε α} {second : Config ι R σ ε β}

/-- An unrestricted move answers the pending call of its thread. -/
theorem Config.play_eq_some {thread : ι} {choice : χ} :
    first.play answer unrestricted thread choice = some last ↔
      ∃ request next reply after, first.threads thread = .call request next ∧
        answer thread choice request first.now = some (reply, after) ∧
        last = ⟨first.toHistory.record thread request reply after,
          Function.update first.threads thread (next reply)⟩ := by
  unfold Config.play
  cases moving : first.threads thread with
  | done value => simp
  | raise error => simp
  | call request next =>
    cases answered : answer thread choice request first.now with
    | none =>
      simp only [answered]
      constructor
      · exact nofun
      · rintro ⟨_, _, _, _, pending, other, _⟩
        cases pending
        rw [answered] at other
        cases other
    | some result =>
      have open_ : unrestricted first.past ⟨thread, request, result.1, first.now, result.2⟩ := trivial
      simp only [answered, if_pos open_, Option.some.injEq]
      constructor
      · rintro rfl
        exact ⟨request, next, result.1, result.2, rfl, answered, rfl⟩
      · rintro ⟨_, _, _, _, pending, other, rfl⟩
        cases pending
        rw [answered] at other
        cases other
        rfl

theorem Config.Locked.play (locked : Locked twins post first second) (alike : AnswersAlike answer twins)
    {thread : ι} {choice : χ} (played : first.play answer unrestricted thread choice = some last) :
    ∃ other, second.play answer unrestricted thread choice = some other ∧
      Locked twins post last other := by
  obtain ⟨request, next, reply, after, pending, answered, rfl⟩ := Config.play_eq_some.mp played
  have lock := locked.threads thread
  rw [pending] at lock
  generalize moving : second.threads thread = program at lock
  cases lock with
  | call same rest =>
    obtain ⟨reply', equal, answered'⟩ := alike _ _ _ _ _ _ _ same answered
    rw [locked.now] at answered'
    refine ⟨_, Config.play_eq_some.mpr ⟨_, _, reply', after, moving, answered', rfl⟩, rfl, fun other => ?_⟩
    by_cases moved : other = thread
    · subst moved
      simpa only [Function.update_self] using rest reply reply' equal
    · simpa only [Function.update_of_ne moved] using locked.threads other

/-- The other pool follows the whole schedule. -/
theorem Config.Locked.playAll (locked : Locked twins post first second)
    (alike : AnswersAlike answer twins) {schedule : List (ι × χ)}
    (played : first.playAll answer unrestricted schedule = some last) :
    ∃ other, second.playAll answer unrestricted schedule = some other ∧
      Locked twins post last other := by
  induction schedule generalizing first second with
  | nil =>
    cases played
    exact ⟨second, rfl, locked⟩
  | cons move schedule ih =>
    obtain ⟨next, stepped, played⟩ := Option.bind_eq_some_iff.mp played
    obtain ⟨other, stepped', locked⟩ := locked.play alike stepped
    obtain ⟨final, played', locked⟩ := ih locked played
    exact ⟨final, Option.bind_eq_some_iff.mpr ⟨other, stepped', played'⟩, locked⟩

end Play

end Interleaving
