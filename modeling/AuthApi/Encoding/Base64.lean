import Mathlib.Data.List.Basic
import Mathlib.Logic.Function.Basic
import Mathlib.Tactic.IntervalCases

/-! # Base64

Three bytes give four digits; a shorter last group is padded. An alphabet is given by its two
special characters, so the standard and the URL-safe encoding are instances of one definition.
-/

namespace Encoding

/-- The digits 62 and 63 of a Base64 alphabet. -/
structure Base64Alphabet where
  plus : Char
  slash : Char

namespace Base64Alphabet

def standard : Base64Alphabet := ⟨'+', '/'⟩

def urlSafe : Base64Alphabet := ⟨'-', '_'⟩

variable (alphabet : Base64Alphabet)

def digit (n : ℕ) : Char :=
  if n < 26 then Char.ofNat ('A'.toNat + n)
  else if n < 52 then Char.ofNat ('a'.toNat + (n - 26))
  else if n < 62 then Char.ofNat ('0'.toNat + (n - 52))
  else if n = 62 then alphabet.plus else alphabet.slash

/-- `base64.b64encode` or `base64.urlsafe_b64encode`, according to the alphabet. -/
def encode : List UInt8 → List Char
  | [] => []
  | [a] =>
      [alphabet.digit (a.toNat / 4), alphabet.digit (a.toNat % 4 * 16), '=', '=']
  | [a, b] =>
      [alphabet.digit (a.toNat / 4), alphabet.digit (a.toNat % 4 * 16 + b.toNat / 16),
        alphabet.digit (b.toNat % 16 * 4), '=']
  | a :: b :: c :: rest =>
      alphabet.digit (a.toNat / 4) :: alphabet.digit (a.toNat % 4 * 16 + b.toNat / 16) ::
        alphabet.digit (b.toNat % 16 * 4 + c.toNat / 64) :: alphabet.digit (c.toNat % 64) ::
        encode rest

end Base64Alphabet

open Base64Alphabet

theorem standard_digit_inj {m n : ℕ} (left : m < 64) (right : n < 64)
    (same : standard.digit m = standard.digit n) : m = n := by
  have table : ∀ m < 64, ∀ n < 64, standard.digit m = standard.digit n → m = n := by decide +kernel
  exact table m left n right same

theorem standard_digit_ne_padding {n : ℕ} (bound : n < 64) : standard.digit n ≠ '=' := by
  have table : ∀ n < 64, standard.digit n ≠ '=' := by decide +kernel
  exact table n bound

private theorem first_bound (a : UInt8) : a.toNat / 4 < 64 := by
  have := a.toNat_lt
  omega

private theorem second_bound (a b : UInt8) : a.toNat % 4 * 16 + b.toNat / 16 < 64 := by
  have := b.toNat_lt
  omega

private theorem third_bound (b c : UInt8) : b.toNat % 16 * 4 + c.toNat / 64 < 64 := by
  have := c.toNat_lt
  omega

private theorem byte_ext {a b : UInt8} (same : a.toNat = b.toNat) : a = b := UInt8.toNat_inj.mp same

theorem standard_encode_injective : Function.Injective standard.encode := by
  intro first
  induction first using encode.induct with
  | case1 =>
    intro second same
    rcases second with _ | ⟨a, _ | ⟨b, _ | ⟨c, rest⟩⟩⟩ <;> simp [encode] at same ⊢
  | case2 a =>
    intro second same
    rcases second with _ | ⟨a', _ | ⟨b', _ | ⟨c', rest⟩⟩⟩
    · simp [encode] at same
    · simp only [encode, List.cons.injEq, and_true] at same
      have high := standard_digit_inj (first_bound a) (first_bound a') same.1
      have low := standard_digit_inj (by omega) (by omega) same.2
      rw [byte_ext (a := a) (b := a') (by omega)]
    · simp only [encode, List.cons.injEq] at same
      exact absurd same.2.2.1.symm (standard_digit_ne_padding (by omega))
    · simp only [encode, List.cons.injEq] at same
      exact absurd same.2.2.1.symm (standard_digit_ne_padding (third_bound b' c'))
  | case3 a b =>
    intro second same
    rcases second with _ | ⟨a', _ | ⟨b', _ | ⟨c', rest⟩⟩⟩
    · simp [encode] at same
    · simp only [encode, List.cons.injEq] at same
      exact absurd same.2.2.1 (standard_digit_ne_padding (by omega))
    · simp only [encode, List.cons.injEq, and_true] at same
      have high := standard_digit_inj (first_bound a) (first_bound a') same.1
      have middle := standard_digit_inj (second_bound a b) (second_bound a' b') same.2.1
      have low := standard_digit_inj (by omega) (by omega) same.2.2
      have := b.toNat_lt
      have := b'.toNat_lt
      rw [byte_ext (a := a) (b := a') (by omega), byte_ext (a := b) (b := b') (by omega)]
    · simp only [encode, List.cons.injEq] at same
      exact absurd same.2.2.2.1.symm (standard_digit_ne_padding (by omega))
  | case4 a b c rest ih =>
    intro second same
    rcases second with _ | ⟨a', _ | ⟨b', _ | ⟨c', others⟩⟩⟩
    · simp [encode] at same
    · simp only [encode, List.cons.injEq] at same
      exact absurd same.2.2.1 (standard_digit_ne_padding (third_bound b c))
    · simp only [encode, List.cons.injEq] at same
      exact absurd same.2.2.2.1 (standard_digit_ne_padding (by omega))
    · simp only [encode, List.cons.injEq] at same
      obtain ⟨first, second, third, fourth, rest_eq⟩ := same
      have high := standard_digit_inj (first_bound a) (first_bound a') first
      have middle := standard_digit_inj (second_bound a b) (second_bound a' b') second
      have lower := standard_digit_inj (third_bound b c) (third_bound b' c') third
      have low := standard_digit_inj (by omega) (by omega) fourth
      have := b.toNat_lt
      have := b'.toNat_lt
      have := c.toNat_lt
      have := c'.toNat_lt
      rw [byte_ext (a := a) (b := a') (by omega), byte_ext (a := b) (b := b') (by omega),
        byte_ext (a := c) (b := c') (by omega), ih rest_eq]

example : String.ofList (standard.encode "Many".toUTF8.data.toList) = "TWFueQ==" := by decide +kernel

end Encoding
