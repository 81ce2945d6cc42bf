import Mathlib.Data.List.Basic

/-! # Fields joined by a separator

A field is written after a separator without escaping. The last field can be read back if it is free of
the separator, whatever stands before it.
-/

namespace Encoding

section Fields

variable {α : Type*} {separator : α} {front other field last : List α}

/-- The last separator cuts off the last field. -/
theorem append_separator_inj (plain : separator ∉ field) (free : separator ∉ last) :
    front ++ separator :: field = other ++ separator :: last ↔ front = other ∧ field = last := by
  constructor
  · intro same
    rcases List.append_eq_append_iff.mp same with ⟨rest, rfl, tail⟩ | ⟨rest, rfl, tail⟩
    · cases rest with
      | nil => simpa using tail
      | cons head rest =>
        have inside : separator ∈ field := by simp [(List.cons.inj tail).2]
        exact absurd inside plain
    · cases rest with
      | nil => simpa [eq_comm] using tail
      | cons head rest =>
        have inside : separator ∈ last := by simp [(List.cons.inj tail).2]
        exact absurd inside free
  · rintro ⟨rfl, rfl⟩
    rfl

/-- Two fields after a text of any kind. -/
theorem append_two_fields_inj {first second third fourth : List α} (first_free : separator ∉ first)
    (second_free : separator ∉ second) (third_free : separator ∉ third) (fourth_free : separator ∉ fourth) :
    front ++ separator :: (first ++ separator :: second) =
        other ++ separator :: (third ++ separator :: fourth) ↔
      front = other ∧ first = third ∧ second = fourth := by
  have regroup (text one two : List α) : text ++ separator :: (one ++ separator :: two) =
      (text ++ separator :: one) ++ separator :: two := by simp
  rw [regroup, regroup, append_separator_inj second_free fourth_free,
    append_separator_inj first_free third_free, and_assoc]

/-- What is joined comes from the separator or from a part. -/
theorem mem_of_mem_intercalate {c : α} {separator : List α} {parts : List (List α)}
    (member : c ∈ separator.intercalate parts) : c ∈ separator ∨ ∃ part ∈ parts, c ∈ part := by
  induction parts with
  | nil => cases member
  | cons part parts ih =>
    cases parts with
    | nil =>
      rw [List.intercalate_singleton] at member
      exact .inr ⟨part, List.mem_cons_self, member⟩
    | cons next parts =>
      rw [List.intercalate_cons_cons, List.append_assoc] at member
      obtain member | member := List.mem_append.mp member
      · exact .inr ⟨part, List.mem_cons_self, member⟩
      · obtain member | member := List.mem_append.mp member
        · exact .inl member
        · exact (ih member).imp_right fun ⟨other, listed, inside⟩ => ⟨other, List.mem_cons_of_mem _ listed, inside⟩

end Fields

end Encoding
