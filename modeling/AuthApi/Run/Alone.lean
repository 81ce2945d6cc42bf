import AuthApi.Interleaving.Alone
import AuthApi.Run.StateCache

/-! # Requests that run alone

The answers of the world to one program while nothing else happens. Which UUIDs may be drawn is a
parameter; a call that commits nothing leaves the tables.
-/

namespace AuthApi

open Interleaving Interleaving.Program Relational

/-- The answers to one request, as long as the UUIDs it draws are fresh in the given sense. -/
def freshAnswer (fresh : World → UUID4 → Bool) (tid : Tid) (choice : Choice) (call : Call)
    (world : World) : Option (Reply call × World) :=
  (World.answer tid choice call world).filter fun answered =>
    (drawnId? ⟨call, answered.1⟩).all (fresh world)

/-- The steps of a request that runs alone. -/
abbrev alone (fresh : World → UUID4 → Bool) (tid : Tid) :
    (call : Call) → World → Reply call → World → Prop := stepOf (freshAnswer fresh tid)

theorem alone_accept {σ α : Type} {step : (call : Call) → σ → Reply call → σ → Prop} {values : Bool}
    {rest : Action α} {post : Except Exn α → σ → Prop} {before : σ}
    (taken : values = true → rest.Alone step post before)
    (refused : values = false → post (.error (.dbError .data)) before) :
    ((accept values).bind fun _ => rest).Alone step post before := by
  cases values with
  | true => exact taken rfl
  | false => exact refused rfl

/-- Any UUID may be drawn. -/
def anyDraw : World → UUID4 → Bool := fun _ _ => true

/-- A drawn UUID is not yet the id of a user or a role. -/
def unusedId (world : World) (id : UUID4) : Bool :=
  !(world.db.users.map User.id ++ world.db.roles.map Role.id).contains id

theorem unusedId_iff {world : World} {id : UUID4} : unusedId world id = true ↔
    id ∉ world.db.users.map User.id ∧ id ∉ world.db.roles.map Role.id := by
  rw [unusedId, Bool.not_eq_true', List.contains_eq_mem, decide_eq_false_iff_not, List.mem_append,
    not_or]

section Steps

variable {fresh : World → UUID4 → Bool} {tid : Tid} {before after : World} {call : Call}
  {reply : Reply call}

theorem alone_answers (answered : alone fresh tid call before reply after) :
    answers tid call before reply after := by
  obtain ⟨choice, answered⟩ := answered
  exact ⟨choice, (Option.filter_eq_some_iff.mp answered).1⟩

theorem alone_draw {id : UUID4} (answered : alone fresh tid .uuid4 before id after) :
    fresh before id = true := by
  obtain ⟨choice, answered⟩ := answered
  exact (Option.filter_eq_some_iff.mp answered).2

theorem alone_effect (answered : alone fresh tid call before reply after) :
    Effect tid before call reply after := answers_effect (alone_answers answered)

/-- A call that commits nothing leaves the tables. -/
theorem alone_db (answered : alone fresh tid call before reply after)
    (silent : committedBy call reply = []) : after.db = before.db := by
  have written := (alone_effect answered).db
  rw [silent] at written
  exact (Except.ok.inj written).symm

/-- A session ends as its body does, if closing it keeps what the body ensures. -/
theorem withSession_alone {σ α : Type} {step : (call : Call) → σ → Reply call → σ → Prop}
    {before : σ} {body : Action α} {post : Except Exn α → σ → Prop}
    (along : body.Alone step post before)
    (closes : ∀ outcome middle last, post outcome middle → step .close middle () last →
      post outcome last) : (withSession body).Alone step post before := by
  apply Alone.bind (q := post) (Alone.handle along _ _)
  · exact fun value middle holds _ last closed => closes _ _ _ holds closed
  · exact fun error middle holds => holds
  · exact fun value middle holds => holds
  · exact fun error middle holds _ last closed => closes _ _ _ holds closed

/-- The end of a session leaves the tables. -/
theorem withSession_alone_db {α : Type} {body : Action α} {p : Except Exn α → Database → Prop}
    (along : body.Alone (alone fresh tid) (fun outcome after => p outcome after.db) before) :
    (withSession body).Alone (alone fresh tid) (fun outcome after => p outcome after.db) before := by
  apply withSession_alone along
  intro outcome middle last holds closed
  rw [alone_db closed rfl]
  exact holds

end Steps

/-- The calls that wait for no other transaction. -/
def Call.immediate : Call → Bool
  | .flush _ => false
  | .commit _ _ => false
  | .selectLoginHistory _ _ _ => false
  | _ => true

/-- The answers as long as Redis serves every command. -/
def faultless (tid : Tid) : (call : Call) → World → Reply call → World → Prop :=
  fun call before reply after => ∃ choice : Choice, choice.fault = .none ∧
    World.answer tid choice call before = some (reply, after)

/-- The answers given at admitted times. -/
def during (admitted : Time → Prop) (step : (call : Call) → World → Reply call → World → Prop) :
    (call : Call) → World → Reply call → World → Prop :=
  fun call before reply after => step call before reply after ∧ admitted after.clock

/-- A way to answer one request: as the world does, at admitted times, and without delay to every
call that waits for nobody. -/
structure Serves (tid : Tid) (admitted : Time → Prop)
    (step : (call : Call) → World → Reply call → World → Prop) : Prop where
  answered : ∀ {call before reply after}, step call before reply after →
    answers tid call before reply after ∧ admitted after.clock
  progress : ∀ {call before}, call.immediate = true → admitted before.clock →
    ∃ reply after, step call before reply after ∧ after.clock = before.clock

section Serves

variable {tid : Tid} {step : (call : Call) → World → Reply call → World → Prop}
  {admitted : Time → Prop} {before : World} {request : Call}

theorem faultless_immediate (immediate : request.immediate = true) :
    ∃ reply after, faultless tid request before reply after ∧ after.clock = before.clock := by
  have answered : ∃ result, World.answer tid { uuid := numbered 0 } request before = some result := by
    cases request with
    | flush writes => cases immediate
    | commit session writes => cases immediate
    | selectLoginHistory userId offset limit => cases immediate
    | _ => exact ⟨_, rfl⟩
  obtain ⟨⟨reply, after⟩, answered⟩ := answered
  exact ⟨reply, after, ⟨_, rfl, answered⟩, (World.respond_clock answered).1⟩

theorem serves_faultless : Serves tid (fun _ => True) (faultless tid) where
  answered := by
    rintro call before reply after ⟨choice, _, answered⟩
    exact ⟨⟨choice, answered⟩, trivial⟩
  progress immediate _ := faultless_immediate immediate

theorem serves_answers : Serves tid (fun _ => True) (answers tid) where
  answered answered := ⟨answered, trivial⟩
  progress immediate _ := by
    obtain ⟨reply, after, ⟨choice, _, answered⟩, clock⟩ := faultless_immediate immediate
    exact ⟨reply, after, ⟨choice, answered⟩, clock⟩

theorem Serves.during (serves : Serves tid (fun _ => True) step) (admitted : Time → Prop) :
    Serves tid admitted (during admitted step) where
  answered answered := ⟨(serves.answered answered.1).1, answered.2⟩
  progress immediate now := by
    obtain ⟨reply, after, answered, clock⟩ := serves.progress immediate trivial
    exact ⟨reply, after, ⟨answered, clock ▸ now⟩, clock⟩

/-- A call that waits for nobody is answered at an admitted time. -/
theorem Serves.call {α : Type} {next : Reply request → Action α}
    {post : Except Exn α → World → Prop} (serves : Serves tid admitted step)
    (now : admitted before.clock) (immediate : request.immediate = true)
    (rest : ∀ reply after, step request before reply after → answers tid request before reply after →
      admitted after.clock → (next reply).Ensures step post after) :
    (Program.call request next).Ensures step post before := by
  constructor
  · obtain ⟨reply, after, answered, _⟩ := serves.progress immediate now
    exact ⟨reply, after, answered⟩
  · intro reply after answered
    obtain ⟨given, later⟩ := serves.answered answered
    exact rest reply after answered given later

end Serves

end AuthApi
