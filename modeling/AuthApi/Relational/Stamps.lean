import AuthApi.Relational.Table
import Mathlib.Order.Defs.PartialOrder

/-! # Creation and update times of rows

Rows that carry the time of their creation and of their last update. `Stamps.Kept` is what one
statement owes these columns; for each table operation it comes down to a bound on the times written.
-/

namespace Relational

/-- The key of a table and its two timestamp columns. -/
structure Stamps (ρ κ τ : Type*) where
  key : ρ → κ
  createdAt : ρ → τ
  updatedAt : ρ → τ

namespace Stamps

variable {ρ κ τ : Type*} [DecidableEq κ] [Preorder τ]

section Definitions

variable (stamps : Stamps ρ κ τ)

/-- No row was updated before its creation. -/
def Ordered (rows : List ρ) : Prop := ∀ row ∈ rows, stamps.createdAt row ≤ stamps.updatedAt row

/-- A change begun at `start`, which updated the rows with the given keys. -/
structure Kept (start : τ) (updates : κ → Prop) (before after : List ρ) : Prop where
  ordered : stamps.Ordered after
  created : ∀ row ∈ after, stamps.key row ∉ before.map stamps.key → start ≤ stamps.createdAt row
  updated : ∀ k row later, lookup stamps.key before k = some row →
    lookup stamps.key after k = some later → updates k →
      start ≤ stamps.updatedAt later ∧ stamps.updatedAt row ≤ stamps.updatedAt later

end Definitions

variable {stamps : Stamps ρ κ τ} {start : τ} {updates : κ → Prop} {before : List ρ} {k : κ}
  {change : ρ → ρ}

/-- Deletions owe nothing. -/
theorem kept_of_sublist {after : List ρ} (ordered : stamps.Ordered before) (quiet : ∀ k, ¬ updates k)
    (sublist : after.Sublist before) : stamps.Kept start updates before after := by
  constructor
  · intro row member
    exact ordered row (sublist.subset member)
  · intro row member new
    exact absurd (List.mem_map_of_mem (sublist.subset member)) new
  · intro k row later _ _ updated
    exact absurd updated (quiet k)

/-- An insertion owes the times of the new row. -/
theorem kept_append_iff {row : ρ} (ordered : stamps.Ordered before) (quiet : ∀ k, ¬ updates k)
    (fresh : stamps.key row ∉ before.map stamps.key) :
    stamps.Kept start updates before (before ++ [row]) ↔
      start ≤ stamps.createdAt row ∧ stamps.createdAt row ≤ stamps.updatedAt row := by
  have last : row ∈ before ++ [row] := List.mem_append_right _ List.mem_cons_self
  constructor
  · intro kept
    exact ⟨kept.created row last fresh, kept.ordered row last⟩
  · rintro ⟨created, updated⟩
    constructor
    · intro other member
      rcases List.mem_append.mp member with old | new
      · exact ordered other old
      · rw [List.mem_singleton.mp new]
        exact updated
    · intro other member new
      rcases List.mem_append.mp member with old | added
      · exact absurd (List.mem_map_of_mem old) new
      · rw [List.mem_singleton.mp added]
        exact created
    · intro k _ _ _ _ updated
      exact absurd updated (quiet k)

/-- An update owes the time it writes into the row it finds. -/
theorem kept_amend_iff {row : ρ} (ordered : stamps.Ordered before)
    (unique : (before.map stamps.key).Nodup) (only : ∀ q, updates q ↔ q = k)
    (found : lookup stamps.key before k = some row)
    (keeps : ∀ row, stamps.key (change row) = stamps.key row)
    (origin : ∀ row, stamps.createdAt (change row) = stamps.createdAt row) :
    stamps.Kept start updates before (amend stamps.key before k change) ↔
      start ≤ stamps.updatedAt (change row) ∧
        stamps.updatedAt row ≤ stamps.updatedAt (change row) := by
  have changed : lookup stamps.key (amend stamps.key before k change) k = some (change row) := by
    rw [lookup_amend_self keeps, found, Option.map_some]
  constructor
  · intro kept
    exact kept.updated k row _ found changed ((only k).mpr rfl)
  · rintro ⟨late, later⟩
    constructor
    · intro other member
      obtain ⟨old, present, rfl⟩ := mem_amend member
      split
      · next same =>
        obtain rfl : old = row := by
          rw [← same, lookup_of_mem unique present] at found
          exact Option.some.inj found
        rw [origin]
        exact le_trans (ordered old present) later
      · exact ordered old present
    · intro other member new
      rw [← map_key_amend keeps] at new
      exact absurd (List.mem_map_of_mem member) new
    · intro q old other there here updated
      obtain rfl := (only q).mp updated
      rw [found] at there
      rw [changed] at here
      cases there
      cases here
      exact ⟨late, later⟩

/-- An update that writes neither column owes that its rows were updated late enough before. -/
theorem kept_map_iff (ordered : stamps.Ordered before) (unique : (before.map stamps.key).Nodup)
    (keeps : ∀ row, stamps.key (change row) = stamps.key row)
    (origin : ∀ row, stamps.createdAt (change row) = stamps.createdAt row)
    (same : ∀ row, stamps.updatedAt (change row) = stamps.updatedAt row) :
    stamps.Kept start updates before (before.map change) ↔
      ∀ row ∈ before, updates (stamps.key row) → start ≤ stamps.updatedAt row := by
  constructor
  · intro kept row member updated
    have found := lookup_of_mem unique member
    have there : lookup stamps.key (before.map change) (stamps.key row) = some (change row) := by
      rw [lookup_map keeps, found, Option.map_some]
    rw [← same row]
    exact (kept.updated _ row _ found there updated).1
  · intro late
    constructor
    · intro other member
      obtain ⟨row, old, rfl⟩ := List.mem_map.mp member
      rw [origin, same]
      exact ordered row old
    · intro other member new
      obtain ⟨row, old, rfl⟩ := List.mem_map.mp member
      rw [keeps] at new
      exact absurd (List.mem_map_of_mem old) new
    · intro k row later found there updated
      rw [lookup_map keeps, found] at there
      cases there
      rw [same]
      rw [← lookup_key found] at updated
      exact ⟨late row (lookup_mem found) updated, le_refl _⟩

end Stamps

end Relational
