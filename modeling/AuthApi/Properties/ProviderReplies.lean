import AuthApi.Properties.Identities
import AuthApi.Run.ProfileTexts

/-! # What a callback makes of the provider's replies

Every reply of the provider that a callback can read and store leads on or to a domain error, which the
route translates. What it cannot read escapes: a body that is not even text, a number or a nesting beyond
the decoder's limits, and an access token that does not fit into a header. So does a profile with a text
that PostgreSQL does not hold, once the callback comes to store it. Nothing else escapes but what the rows
and the answers of the database cause.
-/

namespace AuthApi

open Interleaving Interleaving.Program YandexIdService

/-- The calls to the provider. -/
def Call.asksProvider : Call → Bool
  | .httpPost .. => true
  | .httpGet .. => true
  | _ => false

section Replies

variable {Token : Type} (app : App Token)

/-- The access token that a callback goes on with: one of valid token data in a response that is no
error. -/
def handedToken : Exchange Reply → Option String
  | ⟨.httpPost _ _ _, .response status (.ok (.obj fields))⟩ =>
      if isError status then none
      else (YandexIdTokenData.modelValidate app.pydantic fields).map YandexIdTokenData.accessToken
  | _ => none

/-- Every body can be decoded, or is refused as a JSON syntax error, and the access token is ASCII. -/
structure Readable (trace : Trace Reply) : Prop where
  bodies : ∀ exchange ∈ trace, unreadableBody exchange = none
  token : ∀ exchange ∈ trace, ∀ token, handedToken app exchange = some token → isAscii token = true

/-- The database holds the texts of the profile that the callback has come to give it. -/
def Storable (trace : Trace Reply) : Prop :=
  ∀ exchange ∈ trace, ∀ profile, profileTaken app exchange = some profile → Stored app profile trace

/-- The look-up of the user has begun. -/
def Resolving (trace : Trace Reply) : Prop :=
  ∃ providerUserId found, ⟨.selectLinkedUser YANDEX providerUserId, found⟩ ∈ trace

variable {app} {trace later : Trace Reply}

/-- A call to anyone but the provider hands over nothing. -/
theorem readable_cons {exchange : Exchange Reply} (offline : exchange.request.asksProvider = false) :
    Readable app (exchange :: trace) ↔ Readable app trace := by
  obtain ⟨request, reply⟩ := exchange
  have silent : unreadableBody ⟨request, reply⟩ = none ∧ handedToken app ⟨request, reply⟩ = none := by
    cases request <;> first | exact ⟨rfl, rfl⟩ | cases offline
  constructor
  · rintro ⟨bodies, token⟩
    exact ⟨fun other member => bodies other (List.mem_cons_of_mem _ member),
      fun other member => token other (List.mem_cons_of_mem _ member)⟩
  · rintro ⟨bodies, token⟩
    refine ⟨List.forall_mem_cons.mpr ⟨silent.1, bodies⟩, List.forall_mem_cons.mpr ⟨?_, token⟩⟩
    intro text handed
    rw [silent.2] at handed
    cases handed

section Bodies

variable {url : String} {data : YandexIdTokenRequestData} {params : List (String × String)}
  {authorization : String} {status : ℕ} {json : Except JsonError Json} {fields : List (String × Json)}

end Bodies

/-- A trace stays readable with one more exchange that hands over nothing bad. -/
theorem Readable.cons {exchange : Exchange Reply} (readable : Readable app trace)
    (body : unreadableBody exchange = none)
    (token : ∀ token, handedToken app exchange = some token → isAscii token = true) :
    Readable app (exchange :: trace) :=
  ⟨List.forall_mem_cons.mpr ⟨body, readable.bodies⟩, List.forall_mem_cons.mpr ⟨token, readable.token⟩⟩

theorem Call.fetchless_of_offline {call : Call} (offline : call.asksProvider = false) : call.fetches = false := by
  cases call with
  | httpGet url params authorization => cases offline
  | _ => rfl

/-- This profile, and no other, was taken. -/
structure Takes (app : App Token) (trace : Trace Reply) (profile : YandexIdUserData) : Prop where
  taken : ∃ exchange ∈ trace, profileTaken app exchange = some profile
  only : ∀ exchange ∈ trace, ∀ other, profileTaken app exchange = some other → other = profile

theorem Takes.cons {exchange : Exchange Reply} {profile : YandexIdUserData} (takes : Takes app trace profile)
    (offline : exchange.request.asksProvider = false) : Takes app (exchange :: trace) profile := by
  have untaken : profileTaken app exchange = none := profileTaken_eq_none (Call.fetchless_of_offline offline)
  obtain ⟨earlier, member, taken⟩ := takes.taken
  refine ⟨⟨earlier, List.mem_cons_of_mem _ member, taken⟩, List.forall_mem_cons.mpr ⟨?_, takes.only⟩⟩
  intro other again
  rw [untaken] at again
  cases again

theorem Untaken.storable (untaken : Untaken app trace) : Storable app trace := by
  intro exchange member profile taken
  rw [untaken exchange member] at taken
  cases taken

/-- What is known after the resolution of a profile. -/
structure Resolved (app : App Token) (profile : YandexIdUserData) (trace : Trace Reply) : Prop where
  begun : Resolving trace
  readable : Readable app trace
  takes : Takes app trace profile

theorem Resolved.cons {exchange : Exchange Reply} {profile : YandexIdUserData} (known : Resolved app profile trace)
    (offline : exchange.request.asksProvider = false) : Resolved app profile (exchange :: trace) := by
  obtain ⟨providerUserId, found, member⟩ := known.begun
  exact ⟨⟨providerUserId, found, List.mem_cons_of_mem _ member⟩, (readable_cons offline).mpr known.readable,
    known.takes.cons offline⟩

end Replies

end AuthApi
