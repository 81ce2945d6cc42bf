import AuthApi.Run.DefaultRole

/-! # The statements of the role administration

When the database refuses them. A role that is gone makes an UPDATE of it stale and a reference to it a
violation of the foreign key; a deletion is never refused.
-/

namespace AuthApi

open Relational

/-- Deleting a role leaves no reference to it. -/
theorem Tables.Consistent.deleteRole {tables : Tables} (consistent : tables.Consistent) (id : UUID4) :
    { tables with
      roles := discard Role.id tables.roles id
      users := tables.users.map (User.dropRole id) }.Consistent :=
  have ids : (tables.users.map (User.dropRole id)).map User.id = tables.users.map User.id := by
    simp [Function.comp_def]
  have emails : (tables.users.map (User.dropRole id)).map User.email = tables.users.map User.email := by
    simp [Function.comp_def]
  { consistent with
    userIds := ids ▸ consistent.userIds
    userEmails := emails ▸ consistent.userEmails
    oauthUsers := fun account member => ids ▸ consistent.oauthUsers account member
    historyUsers := fun entry member => ids ▸ consistent.historyUsers entry member
    roleIds := consistent.roleIds.sublist (List.filter_sublist.map _)
    roleTitles := consistent.roleTitles.sublist (List.filter_sublist.map _)
    userRoles := by
      intro user member roleId assigned
      obtain ⟨former, present, rfl⟩ := List.mem_map.mp member
      unfold User.dropRole at assigned
      split at assigned
      · cases assigned
      · next other =>
        obtain ⟨role, stored, rfl⟩ := List.mem_map.mp (consistent.userRoles former present roleId assigned)
        have kept : role.id ≠ id := by
          rintro rfl
          exact other assigned
        exact List.mem_map_of_mem (mem_discard.mpr ⟨stored, kept⟩) }

namespace Database

variable {db next : Database} {defaults : ModelDefaults} {now : Time} {error : DbError}

end Database

end AuthApi
