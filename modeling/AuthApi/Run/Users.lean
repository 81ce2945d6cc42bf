import AuthApi.Run.Rows

/-! # Instances a request has read

A request holds copies of user rows. The rows persist and their `is_superuser` never changes, so
what a copy says about it stays true; `SawUser` and `SawWithRole` say which copies a trace contains
and where they come from.
-/

namespace AuthApi

open Interleaving Relational

/-- The user row in the reply to a SELECT. -/
def userRead : Exchange Reply → Option UserObject
  | ⟨.getUser _, reply⟩ => reply
  | ⟨.selectUserByEmail _ _, reply⟩ => reply
  | ⟨.selectUserById _ _, reply⟩ => reply
  | ⟨.selectLinkedUser _ _, reply⟩ => reply
  | ⟨.refreshUser _ _, reply⟩ => reply
  | _ => none

/-- The SELECT joins the role. -/
def joinsRole : Call → Bool
  | .selectUserByEmail _ withRole => withRole
  | .selectUserById _ loadRole => loadRole
  | .selectLinkedUser _ _ => true
  | .refreshUser _ withRole => withRole
  | _ => false

def SawUser (trace : Trace Reply) (user : UserObject) : Prop :=
  ∃ exchange ∈ trace, userRead exchange = some user

def SawWithRole (trace : Trace Reply) (user : UserObject) : Prop :=
  ∃ exchange ∈ trace, userRead exchange = some user ∧ joinsRole exchange.request = true

theorem SawUser.mono {trace later : Trace Reply} {user : UserObject} (saw : SawUser trace user)
    (grown : trace <:+ later) : SawUser later user := by
  obtain ⟨exchange, member, read⟩ := saw
  exact ⟨exchange, grown.subset member, read⟩

theorem SawWithRole.mono {trace later : Trace Reply} {user : UserObject}
    (saw : SawWithRole trace user) (grown : trace <:+ later) : SawWithRole later user := by
  obtain ⟨exchange, member, read⟩ := saw
  exact ⟨exchange, grown.subset member, read⟩

theorem SawWithRole.saw {trace : Trace Reply} {user : UserObject} (saw : SawWithRole trace user) :
    SawUser trace user := by
  obtain ⟨exchange, member, read, _⟩ := saw
  exact ⟨exchange, member, read⟩

/-- The instance of a linked account is read again, with the loader options of the given one. -/
theorem AttachEnds.saw {pending : List Write} {user refreshed : UserObject}
    {provider providerUserId : String} {trace later : Trace Reply}
    (ends : AttachEnds app pending user provider providerUserId trace later (.ok refreshed)) :
    SawUser later refreshed ∧ (user.role ≠ .noValue → SawWithRole later refreshed) := by
  cases ends with
  | linked id =>
    refine ⟨⟨_, List.mem_cons_self, rfl⟩, fun loaded => ?_⟩
    exact ⟨_, List.mem_cons_self, rfl, by simpa [joinsRole] using loaded⟩

/-- The resolved instance is a row the request read, with a role joined to it. -/
theorem ResolveEnds.saw {profile : YandexIdUserData} {trace later : Trace Reply} {user : UserObject}
    (ends : ResolveEnds app profile trace later (.ok (some user))) :
    ∃ copy, SawUser later copy ∧ user.toUser = copy.toUser := by
  cases ends with
  | found => exact ⟨user, ⟨_, List.mem_cons_self, rfl⟩, rfl⟩
  | linked existing _ _ attached => exact ⟨user, attached.saw.1, rfl⟩
  | added new middle _ created stored grown attached =>
    exact ⟨created, attached.saw.1.mono (List.suffix_cons _ _), rfl⟩

namespace Database

variable {db : Database} {id : UUID4} {user : User}

theorem user?_mem (found : db.user? id = some user) : user ∈ db.users := lookup_mem found

theorem user?_id (found : db.user? id = some user) : user.id = id := lookup_key found

theorem user?_of_mem (member : user ∈ db.users) : db.user? user.id = some user :=
  lookup_of_mem db.consistent.userIds member

theorem role?_of_mem {role : Role} (member : role ∈ db.roles) : db.role? role.id = some role :=
  lookup_of_mem db.consistent.roleIds member

theorem linkedUser?_mem {provider providerUserId : String}
    (found : db.linkedUser? provider providerUserId = some user) : user ∈ db.users := by
  obtain ⟨account, _, linked⟩ := Option.bind_eq_some_iff.mp found
  exact user?_mem linked

end Database

/-- A SELECT makes its instance from a committed row. -/
theorem answers_userRead {tid : Tid} {before after : World} {exchange : Exchange Reply}
    (answered : answers tid exchange.request before exchange.reply after) {user : UserObject}
    (read : userRead exchange = some user) :
    before.db.user? user.id = some user.toUser ∧
      user.role = if joinsRole exchange.request then .loaded (before.db.roleOf user.toUser)
        else .noValue := by
  have made {row : Option User} {joined : Bool} (member : ∀ user ∈ row, user ∈ before.db.users)
      (same : row.map (before.userObject joined) = some user) :
      before.db.user? user.id = some user.toUser ∧
        user.role = if joined then .loaded (before.db.roleOf user.toUser) else .noValue := by
    obtain ⟨found, rfl, rfl⟩ := Option.map_eq_some_iff.mp same
    exact ⟨Database.user?_of_mem (member found rfl), rfl⟩
  obtain ⟨request, reply⟩ := exchange
  obtain ⟨choice, answered⟩ := answered
  cases request with
  | getUser id => cases answered; exact made (fun _ => Database.user?_mem) read
  | selectUserByEmail email withRole => cases answered; exact made (fun _ => lookup_mem) read
  | selectUserById id loadRole => cases answered; exact made (fun _ => Database.user?_mem) read
  | selectLinkedUser provider providerUserId =>
    cases answered; exact made (fun _ => Database.linkedUser?_mem) read
  | refreshUser id withRole => cases answered; exact made (fun _ => Database.user?_mem) read
  | _ => cases read

/-- Every row survives the event with its id and its flag. -/
theorem UsersStep.persists {Token : Type} {request : Request Token} {trace : Trace Reply}
    {writes : List Write} {defaults : ModelDefaults} {before after : List User}
    (step : UsersStep request trace writes defaults before after) {id : UUID4} {user : User}
    (found : lookup User.id before id = some user) :
    ∃ later, lookup User.id after id = some later ∧ later.isSuperuser = user.isSuperuser := by
  cases step with
  | same => exact ⟨user, found, rfl⟩
  | insertPlain new roleId plain holds seen => exact ⟨user, lookup_append_of_some found, rfl⟩
  | insertSuperuser new flag email password requested =>
    exact ⟨user, lookup_append_of_some found, rfl⟩
  | update readId loaded seen changed allowed shape change described =>
    by_cases same : id = loaded.id
    · subst same
      rw [lookup_amend_self described.id, found]
      refine ⟨_, rfl, ?_⟩
      have kept : (UserPatch.diff loaded.toUser changed).isSuperuser = none := by
        cases allowed <;> exact changed_self _
      rw [described.isSuperuser, kept]
      rfl
    · rw [lookup_amend_of_ne described.id same]
      exact ⟨user, found, rfl⟩
  | dropRole readId role seen free shape =>
    rw [lookup_map (User.dropRole_id role.id), found]
    refine ⟨_, rfl, ?_⟩
    unfold User.dropRole
    split <;> rfl

/-- No user disappears and no flag changes. -/
def FlagsKept (first last : World) : Prop :=
  ∀ id user, first.db.user? id = some user →
    ∃ later, last.db.user? id = some later ∧ later.isSuperuser = user.isSuperuser

section History

variable {Token : Type} {app : App Token} {condition : Condition Tid Reply World} {world : World}
  {requests : Tid → Request Token} {older past : List ServiceEvent}

theorem flags_kept (lawful : ServiceLawful app condition world requests past)
    (suffix : older <:+ past) : FlagsKept (stateAfter world older) (stateAfter world past) := by
  refine Lawful.relates (r := FlagsKept) ?_ ?_ ?_ lawful suffix
  · exact fun state id user found => ⟨user, found, rfl⟩
  · intro first middle last left right id user found
    obtain ⟨next, there, same⟩ := left id user found
    obtain ⟨later, here, again⟩ := right id next there
    exact ⟨later, here, again.trans same⟩
  · exact fun older event _ lawful id user found => (rows_step lawful).users.persists found

/-- The row a request holds a copy of, at the moment it was read. -/
theorem sawUser_state {specs : Tid → Trace Reply → Call → Prop} {tid : Tid} {user : UserObject}
    (lawful : Lawful answers condition specs world past) (saw : SawUser (traceOf past tid) user) :
    ∃ older, older <:+ past ∧ (stateAfter world older).db.user? user.id = some user.toUser := by
  obtain ⟨exchange, member, read⟩ := saw
  obtain ⟨newer, event, older, rfl, _, rfl, _, answered⟩ := seen_event lawful member
  exact ⟨older, ⟨newer ++ [event], by simp⟩, (answers_userRead answered read).1⟩

theorem sawWithRole_state {specs : Tid → Trace Reply → Call → Prop} {tid : Tid} {user : UserObject}
    (lawful : Lawful answers condition specs world past)
    (saw : SawWithRole (traceOf past tid) user) :
    ∃ older, older <:+ past ∧ (stateAfter world older).db.user? user.id = some user.toUser ∧
      user.role = .loaded ((stateAfter world older).db.roleOf user.toUser) := by
  obtain ⟨exchange, member, read, joined⟩ := saw
  obtain ⟨newer, event, older, rfl, _, rfl, _, answered⟩ := seen_event lawful member
  have made := answers_userRead answered read
  rw [joined] at made
  exact ⟨older, ⟨newer ++ [event], by simp⟩, made.1, made.2⟩

/-- A SELECT by id returns the row with that id. -/
theorem selectUserById_id {specs : Tid → Trace Reply → Call → Prop} {tid : Tid} {id : UUID4}
    {loadRole : Bool} {user : UserObject} (lawful : Lawful answers condition specs world past)
    (seen : ⟨.selectUserById id loadRole, some user⟩ ∈ traceOf past tid) : user.id = id := by
  obtain ⟨_, event, older, rfl, _, _, _, choice, answered⟩ := seen_event lawful seen
  have row := congrArg Prod.fst (Option.some.inj answered)
  obtain ⟨found, read, rfl⟩ := Option.map_eq_some_iff.mp row
  exact Database.user?_id read

/-- The row still has the flag of a copy of it. -/
theorem sawUser_row_flag {tid : Tid} {user : UserObject} {row : User}
    (lawful : ServiceLawful app condition world requests past) (saw : SawUser (traceOf past tid) user)
    (found : (stateAfter world past).db.user? user.id = some row) :
    row.isSuperuser = user.isSuperuser := by
  obtain ⟨older, suffix, read⟩ := sawUser_state lawful saw
  obtain ⟨later, here, same⟩ := flags_kept lawful suffix _ _ read
  rw [found] at here
  cases here
  exact same

/-- Two copies of one row agree on the flag, whenever they were read. -/
theorem sawUser_flag {tid other : Tid} {user copy : UserObject}
    (lawful : ServiceLawful app condition world requests past)
    (saw : SawUser (traceOf past tid) user) (sawCopy : SawUser (traceOf past other) copy)
    (same : user.id = copy.id) : user.isSuperuser = copy.isSuperuser := by
  obtain ⟨older, suffix, read⟩ := sawUser_state lawful saw
  obtain ⟨earlier, before, readCopy⟩ := sawUser_state lawful sawCopy
  obtain ⟨row, found, flag⟩ := flags_kept lawful suffix _ _ read
  obtain ⟨rowCopy, foundCopy, flagCopy⟩ := flags_kept lawful before _ _ readCopy
  rw [same, foundCopy] at found
  cases found
  exact flag.symm.trans flagCopy

end History

end AuthApi
