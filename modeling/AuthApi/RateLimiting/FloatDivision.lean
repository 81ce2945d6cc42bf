import Mathlib.Algebra.Order.Ring.Nat
import Mathlib.Algebra.Ring.Parity
import Mathlib.Data.Nat.Log
import Mathlib.Tactic.Ring

/-! # Ceilings of float quotients

Python divides two integers into the nearest double, so `math.ceil(n / d)` is the ceiling of a rounded
quotient. It is the exact ceiling as long as the fractions of the quotient are too coarse to be rounded
away, and it can be one less beyond.
-/

namespace RateLimiting

/-- The integer nearest to a quotient, the even one of two. -/
def roundHalfEven (n d : ℕ) : ℕ :=
  if 2 * (n % d) < d ∨ (2 * (n % d) = d ∧ n / d % 2 = 0) then n / d else n / d + 1

/-- `math.ceil(n / d)`: the double has 53 significant bits. Below one it has more than 52 of them after
the binary point, which its ceiling does not show. -/
def ceilQuotient (n d : ℕ) : ℕ :=
  let exponent := Nat.log 2 (n / d)
  if exponent ≤ 52 then
    let scale := 2 ^ (52 - exponent)
    (roundHalfEven (n * scale) d + scale - 1) / scale
  else
    let unit := 2 ^ (exponent - 52)
    roundHalfEven n (d * unit) * unit

section Rounding

variable {n d : ℕ}

theorem roundHalfEven_le (n d : ℕ) : roundHalfEven n d ≤ n / d + 1 := by
  unfold roundHalfEven
  split <;> omega

theorem le_roundHalfEven (n d : ℕ) : n / d ≤ roundHalfEven n d := by
  unfold roundHalfEven
  split <;> omega

theorem roundHalfEven_of_dvd (positive : 0 < d) (divides : n % d = 0) : roundHalfEven n d = n / d := by
  rw [roundHalfEven, divides]
  exact if_pos (.inl (by omega))

theorem roundHalfEven_of_half_lt (above : d < 2 * (n % d)) : roundHalfEven n d = n / d + 1 :=
  if_neg (by omega)

end Rounding

/-- A fraction with a numerator above zero is not rounded to zero by a scale of more than half its
denominator, and never beyond one. -/
theorem roundHalfEven_fraction {s r d scale : ℕ} (some_part : 0 < r) (below : r < d)
    (coarse : d < 2 * scale) :
    s * scale < roundHalfEven ((s * d + r) * scale) d ∧
      roundHalfEven ((s * d + r) * scale) d ≤ s * scale + scale := by
  have split : (s * d + r) * scale = r * scale + d * (s * scale) := by ring
  have positive : 0 < d := by omega
  have whole : (s * d + r) * scale / d = r * scale / d + s * scale := by
    rw [split, Nat.add_mul_div_left _ _ positive]
  have rest : (s * d + r) * scale % d = r * scale % d := by
    rw [split, Nat.add_mul_mod_self_left]
  have proper : r * scale / d < scale :=
    Nat.div_lt_of_lt_mul (Nat.mul_lt_mul_of_pos_right below (by omega))
  have upper := roundHalfEven_le ((s * d + r) * scale) d
  have lower := le_roundHalfEven ((s * d + r) * scale) d
  rw [whole] at upper lower
  refine ⟨?_, by omega⟩
  by_cases vanishes : r * scale / d = 0
  · have kept : r * scale % d = r * scale := Nat.mod_eq_of_lt ((Nat.div_eq_zero_iff_lt positive).mp vanishes)
    have least : scale ≤ r * scale := Nat.le_mul_of_pos_left scale some_part
    rw [roundHalfEven_of_half_lt (by omega), whole]
    omega
  · have some_whole : 0 < r * scale / d := Nat.pos_of_ne_zero vanishes
    omega

/-- The ceiling is exact while a double of the quotient's size tells apart its fractions: those of a
quotient below `2 ^ k` with fewer than `2 ^ (54 - k)` parts. -/
theorem ceilQuotient_eq {n d k : ℕ} (positive : 0 < d) (limit : 1 ≤ k ∧ k ≤ 52) (small : n / d < 2 ^ k)
    (fits : d < 2 ^ (54 - k)) : ceilQuotient n d = (n + d - 1) / d := by
  have exponent : Nat.log 2 (n / d) < k := Nat.log_lt_of_lt_pow' (by omega) small
  simp only [ceilQuotient, if_pos (show Nat.log 2 (n / d) ≤ 52 by omega)]
  generalize Nat.log 2 (n / d) = e at exponent
  have coarse : 2 ^ (54 - k) ≤ 2 * 2 ^ (52 - e) := by
    rw [← pow_succ']
    exact Nat.pow_le_pow_right (by decide) (by omega)
  have scales : 0 < 2 ^ (52 - e) := Nat.two_pow_pos _
  generalize 2 ^ (52 - e) = scale at coarse scales
  obtain ⟨s, r, below, rfl⟩ : ∃ s r, r < d ∧ n = s * d + r :=
    ⟨n / d, n % d, Nat.mod_lt n positive, by rw [Nat.mul_comm, Nat.div_add_mod]⟩
  rcases Nat.eq_zero_or_pos r with rfl | some_part
  · have rounded : roundHalfEven ((s * d + 0) * scale) d = s * scale := by
      have shape : (s * d + 0) * scale = d * (s * scale) := by ring
      rw [shape, roundHalfEven_of_dvd positive (Nat.mul_mod_right _ _), Nat.mul_div_cancel_left _ positive]
    have left : (s * scale + scale - 1) / scale = s :=
      Nat.div_eq_of_lt_le (by omega) (by rw [Nat.succ_mul]; omega)
    have right : (s * d + 0 + d - 1) / d = s :=
      Nat.div_eq_of_lt_le (by omega) (by rw [Nat.succ_mul]; omega)
    rw [rounded, left, right]
  · obtain ⟨above, upto⟩ := roundHalfEven_fraction (s := s) some_part below (by omega : d < 2 * scale)
    generalize roundHalfEven ((s * d + r) * scale) d = rounded at above upto
    have left : (rounded + scale - 1) / scale = s + 1 :=
      Nat.div_eq_of_lt_le (by rw [Nat.succ_mul]; omega) (by rw [Nat.succ_mul, Nat.succ_mul]; omega)
    have right : (s * d + r + d - 1) / d = s + 1 :=
      Nat.div_eq_of_lt_le (by rw [Nat.succ_mul]; omega) (by rw [Nat.succ_mul, Nat.succ_mul]; omega)
    rw [left, right]

/-- Beyond, a fraction can vanish. -/
example : ceilQuotient 17592186044416001 1000 = 17592186044416 := by decide +kernel

end RateLimiting
