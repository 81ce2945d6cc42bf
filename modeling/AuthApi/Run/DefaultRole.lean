import AuthApi.Run.Users

/-! # The default role along a run

`remove_role` and `modify_role` protect the default role by the title they have read. Its id never
loses the title, so every copy of that row shows it, however old the copy is; no other role can take
the title because titles are unique.
-/

namespace AuthApi

open Interleaving Relational

/-- The default role exists under this id. -/
def Database.HasDefaultRole (db : Database) (roleId : UUID4) : Prop :=
  ∃ role, db.role? roleId = some role ∧ role.title = DEFAULT_ROLE_TITLE

section State

variable {db : Database} {roleId : UUID4} {role : Role}

theorem Database.HasDefaultRole.of_mem (member : role ∈ db.roles)
    (titled : role.title = DEFAULT_ROLE_TITLE) : db.HasDefaultRole role.id :=
  ⟨role, Database.role?_of_mem member, titled⟩

/-- Titles are unique, so the title determines the role. -/
theorem Database.role_eq_of_title (db : Database) {first second : Role} (left : first ∈ db.roles)
    (right : second ∈ db.roles) (same : first.title = second.title) : first = second :=
  List.inj_on_of_nodup_map db.consistent.roleTitles left right same

theorem Database.HasDefaultRole.id_of_title (default : db.HasDefaultRole roleId)
    (member : role ∈ db.roles) (titled : role.title = DEFAULT_ROLE_TITLE) : role.id = roleId := by
  obtain ⟨other, found, title⟩ := default
  rw [db.role_eq_of_title member (lookup_mem found) (titled.trans title.symm)]
  exact lookup_key found

theorem Database.HasDefaultRole.roleByTitle? (default : db.HasDefaultRole roleId) :
    ∃ role, db.roleByTitle? DEFAULT_ROLE_TITLE = some role ∧ role.id = roleId := by
  obtain ⟨role, found, titled⟩ := default
  have unique := lookup_of_mem db.consistent.roleTitles (lookup_mem found)
  rw [titled] at unique
  exact ⟨role, unique, lookup_key found⟩

end State

/-- The default role survives an event whose request read no other title for its id. -/
theorem RolesStep.default_kept {trace : Trace Reply} {defaults : ModelDefaults}
    {before after : List Role} (step : RolesStep trace defaults before after) {roleId : UUID4}
    {role : Role} (found : lookup Role.id before roleId = some role)
    (titled : role.title = DEFAULT_ROLE_TITLE)
    (reads : ∀ readId copy, ⟨.getRole readId, some copy⟩ ∈ trace → copy.id = roleId →
      copy.title = DEFAULT_ROLE_TITLE) :
    ∃ later, lookup Role.id after roleId = some later ∧ later.title = DEFAULT_ROLE_TITLE := by
  cases step with
  | same => exact ⟨role, found, titled⟩
  | insert new => exact ⟨role, lookup_append_of_some found, titled⟩
  | update readId copy data seen guarded change described =>
    by_cases owner : roleId = copy.id
    · subst owner
      have copied := reads readId copy seen rfl
      have kept : (RolePatch.diff copy
          { copy with title := data.title, accessLabels := data.accessLabels }).title = none := by
        simp [RolePatch.diff, copied, guarded copied]
      refine ⟨change role, by rw [lookup_amend_self described.id, found]; rfl, ?_⟩
      rw [described.title, kept]
      exact titled
    · exact ⟨role, by rw [lookup_amend_of_ne described.id owner, found], titled⟩
  | delete readId copy seen free =>
    have other : roleId ≠ copy.id := by
      rintro rfl
      exact free (reads readId copy seen rfl)
    exact ⟨role, by rw [lookup_discard_of_ne other, found], titled⟩

section History

variable {Token : Type} {app : App Token} {condition : Condition Tid Reply World} {world : World}
  {requests : Tid → Request Token} {past : List ServiceEvent} {roleId : UUID4}

theorem lawful_hasDefaultRole (lawful : ServiceLawful app condition world requests past)
    (initial : world.db.HasDefaultRole roleId) : (stateAfter world past).db.HasDefaultRole roleId := by
  refine Lawful.invariant (p := fun state => state.db.HasDefaultRole roleId) ?_ initial lawful
  intro older event lawful here earlier
  obtain ⟨role, found, titled⟩ := earlier older (List.suffix_refl _)
  rw [← here.follows] at found
  refine (rows_step here).roles.default_kept found titled ?_
  intro readId copy seen owner
  obtain ⟨before, _, suffix, answered⟩ := seen_answer lawful seen
  have read : (stateAfter world before).db.role? readId = some copy := (answers_getRole answered).symm
  obtain ⟨other, present, title⟩ := earlier before suffix
  rw [← owner, lookup_key read, read] at present
  cases present
  exact title

/-- A look-up of the default role finds it. -/
theorem defaultRole_found (lawful : ServiceLawful app condition world requests past)
    (initial : world.db.HasDefaultRole roleId) {tid : Tid} :
    ⟨.selectRoleByTitle DEFAULT_ROLE_TITLE, none⟩ ∉ traceOf past tid := by
  intro absent
  obtain ⟨before, _, suffix, answered⟩ := seen_answer lawful absent
  obtain ⟨role, found, _⟩ := (lawful_hasDefaultRole (lawful.suffix suffix) initial).roleByTitle?
  rw [← answers_selectRoleByTitle answered] at found
  cases found

/-- Whatever way a request came to the default role, it is the one that was there at the start. -/
theorem sawDefaultRole_id (lawful : ServiceLawful app condition world requests past)
    (initial : world.db.HasDefaultRole roleId) {tid : Tid} {seenId : UUID4}
    (saw : SawDefaultRole (traceOf past tid) seenId) : seenId = roleId := by
  obtain ⟨role, rfl, seen⟩ | seen := saw
  · obtain ⟨before, _, suffix, answered⟩ := seen_answer lawful seen
    have found := (answers_selectRoleByTitle answered).symm
    have default := lawful_hasDefaultRole (lawful.suffix suffix) initial
    exact default.id_of_title (lookup_mem found) (lookup_key found)
  · obtain ⟨newer, event, before, rfl, _, same, _, _⟩ := seen_event lawful seen
    have here := lawful.event
    have written := event_db here
    rw [committed_of_exchange same] at written
    have default : event.after.db.HasDefaultRole roleId :=
      lawful_hasDefaultRole lawful.append initial
    let created : NewRole := ⟨seenId, DEFAULT_ROLE_TITLE, DEFAULT_ROLE_ACCESS_LABELS⟩
    have member : created.row (eventDefaults event) ∈ event.after.db.roles := by
      rw [Database.writeAll_insertRole written]
      exact List.mem_append_right _ List.mem_cons_self
    exact default.id_of_title member rfl

end History

end AuthApi
