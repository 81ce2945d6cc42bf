import AuthApi.Relational.Table

/-! # Dictionaries in insertion order

A dictionary is the list of its entries in the order in which their keys were first set. A key that is set
again keeps its place, and a removal keeps the order of the others.
-/

namespace Relational

variable {κ α : Type*} [DecidableEq κ]

namespace OrderedDict

section Operations

variable (dict : List (κ × α)) (k : κ)

def keys {κ α : Type*} (dict : List (κ × α)) : List κ := dict.map Prod.fst

def get? : Option α := (lookup Prod.fst dict k).map Prod.snd

/-- Remove a key, if it is there. -/
def pop : List (κ × α) := discard Prod.fst dict k

/-- Set a key: in its place, or at the end if it is new. -/
def setItem (value : α) : List (κ × α) :=
  if k ∈ keys dict then amend Prod.fst dict k fun entry => (entry.1, value) else dict ++ [(k, value)]

/-- Set a key that is not there. -/
def setDefault (value : α) : List (κ × α) := if k ∈ keys dict then dict else setItem dict k value

end Operations

variable {dict : List (κ × α)} {k q : κ} {value : α}

theorem get?_eq_none : get? dict k = none ↔ k ∉ keys dict := by
  rw [get?, Option.map_eq_none_iff, lookup_eq_none]
  rfl

theorem mem_keys_of_get? (found : get? dict k = some value) : k ∈ keys dict := by
  by_contra absent
  rw [get?_eq_none.mpr absent] at found
  cases found

theorem keys_pop : keys (pop dict k) = (keys dict).filter (· ≠ k) := by
  simp [keys, pop, discard, List.filter_map, Function.comp_def]

theorem not_mem_keys_pop : k ∉ keys (pop dict k) := by
  simp [keys_pop]

theorem pop_eq_self (absent : k ∉ keys dict) : pop dict k = dict := by
  apply List.filter_eq_self.mpr
  intro entry member
  have other : entry.1 ≠ k := by
    rintro rfl
    exact absent (List.mem_map_of_mem member)
  simpa using other

theorem get?_pop_of_ne (distinct : q ≠ k) : get? (pop dict k) q = get? dict q := by
  rw [get?, pop, lookup_discard_of_ne distinct, get?]

theorem filter_pop (p : κ × α → Bool) :
    (pop dict k).filter p = dict.filter fun entry => p entry && decide (entry.1 ≠ k) := by
  simp [pop, discard, List.filter_filter]

/-- A selection that keeps the key keeps its value. -/
theorem get?_filter {p : κ × α → Bool} (kept : ∀ value, p (k, value) = true) :
    get? (dict.filter p) k = get? dict k := by
  have agree : lookup Prod.fst (dict.filter p) k = lookup Prod.fst dict k := by
    rw [lookup, lookup, List.find?_filter]
    congr 1
    funext entry
    by_cases same : entry.1 = k
    · have kept := kept entry.2
      rw [← same] at kept
      simp [same, kept]
    · simp [same]
  rw [get?, get?, agree]

/-- Removing keys one by one, as far as they are unwanted. -/
theorem foldl_pop (names : List κ) (unwanted : κ → Bool) :
    names.foldl (fun dict name => if unwanted name then pop dict name else dict) dict =
      dict.filter fun entry => !(unwanted entry.1 && decide (entry.1 ∈ names)) := by
  induction names generalizing dict with
  | nil => simp
  | cons name names ih =>
    rw [List.foldl_cons, ih]
    by_cases chosen : unwanted name = true
    · rw [if_pos chosen, filter_pop]
      apply List.filter_congr
      intro entry _
      by_cases same : entry.1 = name <;> simp [same, chosen]
    · rw [if_neg chosen]
      apply List.filter_congr
      intro entry _
      by_cases same : entry.1 = name <;> simp [same, chosen]

/-- Removing every unwanted key. -/
theorem foldl_pop_keys (unwanted : κ → Bool) :
    (keys dict).foldl (fun dict name => if unwanted name then pop dict name else dict) dict =
      dict.filter fun entry => !unwanted entry.1 := by
  rw [foldl_pop]
  apply List.filter_congr
  intro entry member
  have listed : entry.1 ∈ keys dict := List.mem_map_of_mem member
  simp [listed]

theorem setItem_of_mem (present : k ∈ keys dict) :
    setItem dict k value = amend Prod.fst dict k fun entry => (entry.1, value) := if_pos present

theorem lookup_setItem_of_mem (present : k ∈ keys dict) : lookup Prod.fst (setItem dict k value) q =
    if q = k then (lookup Prod.fst dict k).map fun entry => (entry.1, value) else lookup Prod.fst dict q := by
  rw [setItem_of_mem present]
  exact lookup_amend fun _ => rfl

theorem setItem_of_not_mem (absent : k ∉ keys dict) : setItem dict k value = dict ++ [(k, value)] :=
  if_neg absent

theorem keys_setItem_of_mem (present : k ∈ keys dict) : keys (setItem dict k value) = keys dict := by
  rw [setItem_of_mem present]
  exact map_key_amend fun _ => rfl

theorem keys_setItem_of_not_mem (absent : k ∉ keys dict) : keys (setItem dict k value) = keys dict ++ [k] := by
  simp [setItem_of_not_mem absent, keys]

/-- A key that is set comes last or stays in its place. -/
theorem keys_prefix_setItem : keys dict <+: keys (setItem dict k value) := by
  by_cases present : k ∈ keys dict
  · exact (keys_setItem_of_mem present).symm ▸ List.prefix_refl _
  · exact (keys_setItem_of_not_mem present).symm ▸ List.prefix_append _ _

theorem mem_keys_setItem : q ∈ keys (setItem dict k value) ↔ q ∈ keys dict ∨ q = k := by
  by_cases present : k ∈ keys dict
  · rw [keys_setItem_of_mem present]
    constructor
    · exact .inl
    · rintro (member | rfl)
      · exact member
      · exact present
  · simp [keys_setItem_of_not_mem present]

@[simp] theorem get?_setItem_self : get? (setItem dict k value) k = some value := by
  by_cases present : k ∈ keys dict
  · obtain ⟨entry, found⟩ := Option.isSome_iff_exists.mp (lookup_isSome.mpr present)
    rw [get?, lookup_setItem_of_mem present, if_pos rfl, found]
    rfl
  · rw [get?, setItem_of_not_mem present, lookup_append_self present]
    rfl

theorem get?_setItem_of_ne (distinct : q ≠ k) : get? (setItem dict k value) q = get? dict q := by
  by_cases present : k ∈ keys dict
  · rw [get?, lookup_setItem_of_mem present, if_neg distinct, get?]
  · rw [get?, setItem_of_not_mem present, lookup_append_of_ne (Ne.symm distinct), get?]

/-- A selection that leaves out the key does not see that it was set. -/
theorem filter_setItem {p : κ × α → Bool} (unseen : ∀ value, p (k, value) = false) :
    (setItem dict k value).filter p = dict.filter p := by
  by_cases present : k ∈ keys dict
  · rw [setItem_of_mem present]
    clear present
    induction dict with
    | nil => rfl
    | cons entry rest ih =>
      obtain ⟨name, former⟩ := entry
      simp only [amend, List.map_cons, List.filter_cons] at ih ⊢
      by_cases same : name = k
      · subst same
        simpa [unseen] using ih
      · rw [if_neg same, ih]
  · simp [setItem_of_not_mem present, List.filter_append, unseen]

theorem get?_setDefault_self : get? (setDefault dict k value) k = some ((get? dict k).getD value) := by
  unfold setDefault
  split
  · next present =>
    obtain ⟨entry, found⟩ := Option.isSome_iff_exists.mp (lookup_isSome.mpr present)
    simp [get?, found]
  · next absent => rw [get?_setItem_self, get?_eq_none.mpr absent, Option.getD_none]

theorem get?_setDefault_of_ne (distinct : q ≠ k) : get? (setDefault dict k value) q = get? dict q := by
  unfold setDefault
  split
  · rfl
  · exact get?_setItem_of_ne distinct

theorem keys_setDefault :
    keys (setDefault dict k value) = keys dict ++ if k ∈ keys dict then [] else [k] := by
  unfold setDefault
  split
  · simp
  · next absent => exact keys_setItem_of_not_mem absent

theorem filter_setDefault {p : κ × α → Bool} (unseen : ∀ value, p (k, value) = false) :
    (setDefault dict k value).filter p = dict.filter p := by
  unfold setDefault
  split
  · rfl
  · exact filter_setItem unseen

/-- The key is set, and to this value only. -/
structure HasItem (dict : List (κ × α)) (k : κ) (value : α) : Prop where
  present : k ∈ keys dict
  only : ∀ entry ∈ dict, entry.1 = k → entry.2 = value

theorem hasItem_setItem : HasItem (setItem dict k value) k value := by
  refine ⟨mem_keys_setItem.mpr (.inr rfl), ?_⟩
  intro entry member same
  by_cases present : k ∈ keys dict
  · rw [setItem_of_mem present] at member
    obtain ⟨former, _, rfl⟩ := mem_amend member
    split at same
    · next owner => rw [if_pos owner]
    · next other => exact absurd same other
  · rw [setItem_of_not_mem present] at member
    rcases List.mem_append.mp member with old | added
    · exact absurd (same ▸ List.mem_map_of_mem old) present
    · rw [List.mem_singleton.mp added]

theorem HasItem.setItem_of_ne {other : α} (has : HasItem dict k value) (distinct : q ≠ k) :
    HasItem (setItem dict q other) k value := by
  refine ⟨mem_keys_setItem.mpr (.inl has.present), ?_⟩
  intro entry member same
  by_cases present : q ∈ keys dict
  · rw [setItem_of_mem present] at member
    obtain ⟨former, old, rfl⟩ := mem_amend member
    split at same
    · next owner => exact absurd (owner.symm.trans same) distinct
    · next untouched =>
      rw [if_neg untouched]
      exact has.only former old same
  · rw [setItem_of_not_mem present] at member
    rcases List.mem_append.mp member with old | added
    · exact has.only entry old same
    · rw [List.mem_singleton.mp added] at same
      exact absurd same distinct

/-- Setting a key to what it is already set to changes nothing. -/
theorem HasItem.setItem_eq (has : HasItem dict k value) : setItem dict k value = dict := by
  rw [setItem_of_mem has.present]
  have unchanged : dict.map (fun entry => if entry.1 = k then (entry.1, value) else entry) = dict.map id := by
    apply List.map_congr_left
    intro entry member
    split
    · next same => rw [← has.only entry member same, id]
    · rfl
  rw [amend, unchanged, List.map_id]

theorem setItem_setItem : setItem (setItem dict k value) k value = setItem dict k value :=
  hasItem_setItem.setItem_eq

theorem HasItem.setDefault_of_ne {other : α} (has : HasItem dict k value) (distinct : q ≠ k) :
    HasItem (setDefault dict q other) k value := by
  unfold setDefault
  split
  · exact has
  · exact has.setItem_of_ne distinct

theorem HasItem.get?_eq (has : HasItem dict k value) : get? dict k = some value := by
  obtain ⟨entry, found⟩ := Option.isSome_iff_exists.mp (lookup_isSome.mpr has.present)
  rw [get?, found, Option.map_some, has.only entry (lookup_mem found) (lookup_key found)]

end OrderedDict

end Relational
