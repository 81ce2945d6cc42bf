import AuthApi.Relational.Table
import Mathlib.Logic.Function.Basic

/-! # Tables as partial maps

What a table is for can often be said by a partial map from its keys. `Abstracts` compares the two
key by key under a relation between values and rows; inserting and amending rows are updates of the
map, and a query over all rows is one over all defined keys.
-/

namespace Relational

variable {ρ κ α : Type*} [DecidableEq κ] (key : ρ → κ) (realises : α → ρ → Prop)

/-- The map is defined where the table has a row, and the row realises its value. -/
def Abstracts (map : κ → Option α) (rows : List ρ) : Prop :=
  ∀ k, Option.Rel realises (map k) (lookup key rows k)

variable {key realises} {map : κ → Option α} {rows : List ρ} {row : ρ} {value : α} {k : κ}

theorem Abstracts.eq_none (abstracts : Abstracts key realises map rows) :
    map k = none ↔ k ∉ rows.map key := by
  rw [← lookup_eq_none]
  have related := abstracts k
  constructor
  · intro absent
    rw [absent] at related
    generalize lookup key rows k = found at related ⊢
    cases related
    rfl
  · intro absent
    rw [absent] at related
    generalize map k = held at related ⊢
    cases related
    rfl

/-- The value of a key with a row. -/
theorem Abstracts.of_lookup (abstracts : Abstracts key realises map rows)
    (found : lookup key rows k = some row) : ∃ value, map k = some value ∧ realises value row := by
  have related := abstracts k
  rw [found] at related
  generalize map k = held at related ⊢
  cases related with
  | some realised => exact ⟨_, rfl, realised⟩

/-- The row of a defined key. -/
theorem Abstracts.of_value (abstracts : Abstracts key realises map rows) (held : map k = some value) :
    ∃ row, lookup key rows k = some row ∧ realises value row := by
  have related := abstracts k
  rw [held] at related
  generalize lookup key rows k = found at related ⊢
  cases related with
  | some realised => exact ⟨_, rfl, realised⟩

theorem Abstracts.insert (abstracts : Abstracts key realises map rows) (fresh : key row ∉ rows.map key)
    (realised : realises value row) :
    Abstracts key realises (Function.update map (key row) (some value)) (rows ++ [row]) := by
  intro k
  by_cases same : k = key row
  · subst same
    rw [Function.update_self, lookup_append_self fresh]
    exact .some realised
  · rw [Function.update_of_ne same, lookup_append_of_ne (Ne.symm same)]
    exact abstracts k

theorem Abstracts.amend {change : ρ → ρ} (abstracts : Abstracts key realises map rows)
    (keeps : ∀ row, key (change row) = key row) (found : lookup key rows k = some row)
    (realised : realises value (change row)) :
    Abstracts key realises (Function.update map k (some value)) (amend key rows k change) := by
  intro q
  by_cases same : q = k
  · subst same
    rw [Function.update_self, lookup_amend_self keeps, found]
    exact .some realised
  · rw [Function.update_of_ne same, lookup_amend_of_ne keeps same]
    exact abstracts q

/-- A query that the relation respects can be asked of the map or of the table. -/
theorem Abstracts.exists_iff {p : α → Prop} {q : ρ → Prop} (abstracts : Abstracts key realises map rows)
    (unique : (rows.map key).Nodup) (agree : ∀ value row, realises value row → (p value ↔ q row)) :
    (∃ k value, map k = some value ∧ p value) ↔ ∃ row ∈ rows, q row := by
  constructor
  · rintro ⟨k, value, held, holds⟩
    obtain ⟨row, found, realised⟩ := abstracts.of_value held
    exact ⟨row, lookup_mem found, (agree value row realised).mp holds⟩
  · rintro ⟨row, member, holds⟩
    obtain ⟨value, held, realised⟩ := abstracts.of_lookup (lookup_of_mem unique member)
    exact ⟨key row, value, held, (agree value row realised).mpr holds⟩

end Relational
