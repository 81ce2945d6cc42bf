import AuthApi.Run.Provider

/-! # The texts of a profile that reach the database

A callback gives the id of its profile to the look-up of the link, the id again to the link it inserts, and
the names to the user it inserts. It ends with a data error exactly when one of the texts it has come to give
is one that PostgreSQL does not hold.
-/

namespace AuthApi

open Interleaving Interleaving.Program YandexIdService DbHelpers

/-- The salt is drawn for the password of a new user. -/
def registers : Exchange Reply → Bool
  | ⟨.salt, _⟩ => true
  | _ => false

/-- The user of the email is found, or a new one is flushed: a link follows. -/
def joins : Exchange Reply → Bool
  | ⟨.selectUserByEmail _ _, some _⟩ => true
  | ⟨.flush _, .ok _⟩ => true
  | _ => false

/-- What a callback raises for an answer of the database that it does not handle: any refusal but a conflict
at the commit of its own session, and a row that is gone. -/
def refusal? : Exchange Reply → Option Exn
  | ⟨.flush _, .error fault⟩ => some (.dbError fault)
  | ⟨.commit .request _, .error .integrity⟩ => none
  | ⟨.commit _ _, .error fault⟩ => some (.dbError fault)
  | ⟨.refreshUser _ _, none⟩ => some .invalidRequestError
  | ⟨.selectUserById _ _, none⟩ => some .noInspectionAvailable
  | _ => none

/-- The error is what a statement was answered with. -/
def RefusedWith (trace : Trace Reply) (error : Exn) : Prop :=
  ∃ exchange ∈ trace, refusal? exchange = some error

section Texts

variable {Token : Type}

/-- PostgreSQL holds the texts of the profile that the callback has come to give it. -/
structure Stored (app : App Token) (profile : YandexIdUserData) (trace : Trace Reply) : Prop where
  id : storesText profile.id = true
  user : trace.any registers = true → (storesText profile.firstName && storesText profile.lastName) = true
  link : trace.any joins = true → app.fitsIndex profile.id = true

/-- The callback has not come to insert anything, and no statement of it was refused. -/
structure Unstored (trace : Trace Reply) : Prop where
  user : trace.any registers = false
  link : trace.any joins = false
  accepted : ∀ error, ¬ RefusedWith trace error

variable {app : App Token} {profile : YandexIdUserData} {trace : Trace Reply}

theorem refusedWith_cons {exchange : Exchange Reply} {error : Exn} :
    RefusedWith (exchange :: trace) error ↔ refusal? exchange = some error ∨ RefusedWith trace error := by
  simp [RefusedWith]

theorem Unstored.cons (idle : Unstored trace) (exchange : Exchange Reply) (user : registers exchange = false)
    (link : joins exchange = false) (accepted : refusal? exchange = none) : Unstored (exchange :: trace) := by
  refine ⟨?_, ?_, fun error refused => ?_⟩
  · rw [List.any_cons, user, idle.user, Bool.false_or]
  · rw [List.any_cons, link, idle.link, Bool.false_or]
  · rcases refusedWith_cons.mp refused with newest | older
    · rw [accepted] at newest
      cases newest
    · exact idle.accepted error older

/-- Before any insertion only the id is given to the database. -/
theorem Unstored.stored (idle : Unstored trace) (id : storesText profile.id = true) : Stored app profile trace := by
  refine ⟨id, fun reached => ?_, fun reached => ?_⟩
  · rw [idle.user] at reached
    cases reached
  · rw [idle.link] at reached
    cases reached

end Texts

end AuthApi
