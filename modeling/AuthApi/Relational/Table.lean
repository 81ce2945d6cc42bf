import Mathlib.Data.List.Basic
import Mathlib.Data.List.Nodup

/-! # Tables as lists of rows with a key

A table is a list of rows in insertion order. The operations address rows by a key function, so one
library serves every table of a schema. Uniqueness is a property of the list of keys; the lookup
lemmas do not need it except to turn membership into a lookup. Where the keys are texts with a normal form, two rows
share one unless every key is a normal form.
-/

namespace Relational

variable {ρ κ : Type*} [DecidableEq κ] (key : ρ → κ)

/-- The first row with the given key. -/
def lookup (rows : List ρ) (k : κ) : Option ρ := rows.find? fun row => key row = k

/-- Change every row with the given key. -/
def amend (rows : List ρ) (k : κ) (change : ρ → ρ) : List ρ :=
  rows.map fun row => if key row = k then change row else row

/-- Delete every row with the given key. -/
def discard (rows : List ρ) (k : κ) : List ρ := rows.filter fun row => key row ≠ k

variable {key} {rows : List ρ} {row : ρ} {k q : κ}

theorem lookup_mem (found : lookup key rows k = some row) : row ∈ rows :=
  List.mem_of_find?_eq_some found

theorem lookup_key (found : lookup key rows k = some row) : key row = k := by
  simpa using List.find?_some found

theorem lookup_eq_none : lookup key rows k = none ↔ k ∉ rows.map key := by
  simp [lookup, List.find?_eq_none]

theorem lookup_isSome : (lookup key rows k).isSome ↔ k ∈ rows.map key := by
  simp [lookup, List.find?_isSome]

/-- Under unique keys a member is the row found by its key. -/
theorem lookup_of_mem (unique : (rows.map key).Nodup) (member : row ∈ rows) :
    lookup key rows (key row) = some row := by
  induction rows with
  | nil => cases member
  | cons head rest ih =>
    obtain ⟨fresh, unique⟩ := List.nodup_cons.mp unique
    rcases List.mem_cons.mp member with rfl | tail
    · simp [lookup]
    · have distinct : key head ≠ key row := fun same => fresh (same ▸ List.mem_map_of_mem tail)
      simpa [lookup, distinct] using ih unique tail

theorem lookup_append (rows : List ρ) (row : ρ) (k : κ) :
    lookup key (rows ++ [row]) k = (lookup key rows k).or (if key row = k then some row else none) := by
  by_cases same : key row = k <;> simp [lookup, List.find?_append, same]

theorem lookup_append_of_ne (distinct : key row ≠ k) :
    lookup key (rows ++ [row]) k = lookup key rows k := by
  simp [lookup_append, distinct]

/-- An inserted row with a fresh key is found by it. -/
theorem lookup_append_self (fresh : key row ∉ rows.map key) :
    lookup key (rows ++ [row]) (key row) = some row := by
  simp [lookup_append, lookup_eq_none.mpr fresh]

omit [DecidableEq κ] in
/-- A key that is unique after an insertion was fresh before it. -/
theorem not_mem_of_nodup_append (unique : ((rows ++ [row]).map key).Nodup) : key row ∉ rows.map key := by
  rw [List.map_append, List.map_singleton, List.nodup_append_comm] at unique
  exact (List.nodup_cons.mp unique).1

/-- Insertion hides no row. -/
theorem lookup_append_of_some {other : ρ} (found : lookup key rows k = some other) :
    lookup key (rows ++ [row]) k = some other := by
  simp [lookup_append, found]

section Amend

variable {change : ρ → ρ}

theorem map_key_amend (keeps : ∀ row, key (change row) = key row) :
    (amend key rows k change).map key = rows.map key := by
  simp only [amend, List.map_map]
  refine List.map_congr_left fun row _ => ?_
  by_cases same : key row = k <;> simp [same, keeps]

theorem lookup_amend (keeps : ∀ row, key (change row) = key row) :
    lookup key (amend key rows k change) q =
      if q = k then (lookup key rows k).map change else lookup key rows q := by
  induction rows with
  | nil => simp [amend, lookup]
  | cons head rest ih =>
    simp only [amend, lookup, List.map_cons, List.find?_cons] at ih ⊢
    by_cases here : key head = k
    · by_cases wanted : q = k
      · simp [here, wanted, keeps]
      · simpa [here, wanted, keeps, Ne.symm wanted] using ih
    · by_cases wanted : q = k
      · subst wanted
        simpa [here] using ih
      · by_cases found : key head = q
        · simp [wanted, found]
        · simpa [here, wanted, found] using ih

/-- A change to one key leaves the others. -/
theorem lookup_amend_of_ne (keeps : ∀ row, key (change row) = key row) (distinct : q ≠ k) :
    lookup key (amend key rows k change) q = lookup key rows q := by
  rw [lookup_amend keeps, if_neg distinct]

theorem lookup_amend_self (keeps : ∀ row, key (change row) = key row) :
    lookup key (amend key rows k change) k = (lookup key rows k).map change := by
  rw [lookup_amend keeps, if_pos rfl]

theorem mem_amend {other : ρ} (member : other ∈ amend key rows k change) :
    ∃ row ∈ rows, other = if key row = k then change row else row := by
  obtain ⟨row, present, rfl⟩ := List.mem_map.mp member
  exact ⟨row, present, rfl⟩

end Amend

/-- A change of every row that keeps the keys is seen by every lookup. -/
theorem lookup_map {change : ρ → ρ} (keeps : ∀ row, key (change row) = key row) :
    lookup key (rows.map change) k = (lookup key rows k).map change := by
  induction rows with
  | nil => rfl
  | cons head rest ih =>
    simp only [lookup, List.map_cons, List.find?_cons, keeps] at ih ⊢
    by_cases here : key head = k
    · simp [here]
    · simpa [here] using ih

theorem lookup_discard_of_ne (distinct : q ≠ k) :
    lookup key (discard key rows k) q = lookup key rows q := by
  induction rows with
  | nil => rfl
  | cons head rest ih =>
    simp only [discard, lookup, List.filter_cons, List.find?_cons] at ih ⊢
    by_cases here : key head = k
    · simpa [here, Ne.symm distinct] using ih
    · by_cases found : key head = q
      · simp [found, distinct]
      · simpa [here, found] using ih

theorem mem_discard : row ∈ discard key rows k ↔ row ∈ rows ∧ key row ≠ k := by
  simp [discard]

section Normalized

variable {ρ κ : Type*} {normalize : κ → Option κ} {key : ρ → κ} {rows after : List ρ}
  {row other : ρ} {form : κ}

/-- The key of every row is its own normal form. -/
def Normalized (normalize : κ → Option κ) (key : ρ → κ) (rows : List ρ) : Prop :=
  ∀ row ∈ rows, normalize (key row) = some (key row)

/-- In a normalized table no two rows share a normal form. -/
theorem Normalized.eq_of_normal (normalized : Normalized normalize key rows)
    (unique : (rows.map key).Nodup) (member : row ∈ rows) (present : other ∈ rows)
    (normal : normalize (key row) = some form) (same : normalize (key other) = some form) :
    row = other := by
  rw [normalized row member] at normal
  rw [normalized other present] at same
  apply List.inj_on_of_nodup_map unique member present
  exact (Option.some.inj normal).trans (Option.some.inj same).symm

/-- A table stays normalized if every key that was not there before is a normal form. -/
theorem Normalized.step (normalized : Normalized normalize key rows)
    (kept : ∀ row ∈ after, normalize (key row) = some (key row) ∨ ∃ old ∈ rows, key old = key row) :
    Normalized normalize key after := by
  intro row member
  rcases kept row member with normal | ⟨old, present, same⟩
  · exact normal
  · rw [← same]
    exact normalized old present

end Normalized

end Relational
