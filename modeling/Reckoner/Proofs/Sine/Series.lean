import Mathlib
import Reckoner.Proofs.Sine.Horner

/-! The Maclaurin polynomials of sine and cosine on the unit interval. The terms alternate and
shrink there, so that the first term left out bounds the error. -/

namespace Reckoner.Sine

/-- The coefficients of cosine (`offset` zero) and of sine (`offset` one), without rounding. -/
def seriesCoefficient (offset k : ℕ) : ℚ := (-1) ^ k / (2 * k + offset).factorial

/-- The first coefficients of a series. -/
def seriesCoefficients (offset count : ℕ) : List ℚ := (List.range count).map (seriesCoefficient offset)

theorem abs_seriesCoefficient_le (offset k : ℕ) : |seriesCoefficient offset k| ≤ 1 := by
  have one : (1 : ℚ) ≤ (2 * k + offset).factorial := by exact_mod_cast Nat.factorial_pos _
  rw [seriesCoefficient, abs_div, abs_pow, abs_neg, abs_one, one_pow, Nat.abs_cast]
  exact div_le_one_of_le₀ one (by positivity)

theorem length_seriesCoefficients (offset count : ℕ) :
    (seriesCoefficients offset count).length = count := by
  rw [seriesCoefficients, List.length_map, List.length_range]

theorem abs_le_of_mem_seriesCoefficients (offset count : ℕ) :
    ∀ c ∈ seriesCoefficients offset count, |c| ≤ 1 := by
  intro c member
  obtain ⟨k, -, rfl⟩ := List.mem_map.mp member
  exact abs_seriesCoefficient_le offset k

/-- The terms of both series, without their signs. -/
noncomputable def term (x : ℝ) (offset k : ℕ) : ℝ := x ^ (2 * k + offset) / (2 * k + offset).factorial

section Terms

variable {x : ℝ}

theorem term_antitone (h0 : 0 ≤ x) (h1 : x ≤ 1) (offset : ℕ) : Antitone (term x offset) := by
  refine antitone_nat_of_succ_le fun k => ?_
  have power : x ^ (2 * (k + 1) + offset) ≤ x ^ (2 * k + offset) :=
    pow_le_pow_of_le_one h0 h1 (by omega)
  have factorial : ((2 * k + offset).factorial : ℝ) ≤ (2 * (k + 1) + offset).factorial := by
    exact_mod_cast Nat.factorial_le (by omega)
  exact div_le_div₀ (by positivity) power (by positivity) factorial

theorem term_summable (x : ℝ) (offset : ℕ) : Summable (term x offset) := by
  refine (Real.summable_pow_div_factorial x).comp_injective (i := fun k => 2 * k + offset) ?_
  intro a b h
  simp only at h
  omega

theorem sin_eq_tsum (x : ℝ) : Real.sin x = tsum fun k => (-1) ^ k * term x 1 k := by
  rw [Real.sin_eq_tsum]
  simp only [term, mul_div_assoc]

theorem cos_eq_tsum (x : ℝ) : Real.cos x = tsum fun k => (-1) ^ k * term x 0 k := by
  rw [Real.cos_eq_tsum]
  simp only [term, mul_div_assoc, add_zero]

/-- A polynomial in the square is a partial sum. -/
theorem cast_polynomial (q : ℚ) (offset count : ℕ) :
    ((q ^ offset * polynomial (seriesCoefficients offset count) (q ^ 2) : ℚ) : ℝ) =
      ∑ k ∈ Finset.range count, (-1) ^ k * term q offset k := by
  rw [seriesCoefficients, polynomial_range, Finset.mul_sum]
  push_cast
  refine Finset.sum_congr rfl fun k _ => ?_
  rw [seriesCoefficient, term, pow_add, pow_mul]
  push_cast
  ring

/-- The first term left out bounds the error of the sine polynomial. -/
theorem abs_sin_sub_le {q : ℚ} (h : |q| ≤ 1) (count : ℕ) :
    |Real.sin q - (q * polynomial (seriesCoefficients 1 count) (q ^ 2) : ℚ)| ≤
      |(q : ℝ)| ^ (2 * count + 1) / (2 * count + 1).factorial := by
  have nonneg : ∀ p : ℚ, 0 ≤ p → p ≤ 1 →
      |Real.sin p - (p * polynomial (seriesCoefficients 1 count) (p ^ 2) : ℚ)| ≤
        (p : ℝ) ^ (2 * count + 1) / (2 * count + 1).factorial := by
    intro p h0 h1
    have sum := cast_polynomial p 1 count
    rw [pow_one] at sum
    rw [sum, sin_eq_tsum]
    exact alternating_series_error_bound _
      (term_antitone (by exact_mod_cast h0) (by exact_mod_cast h1) 1) (term_summable p 1) count
  rcases le_total 0 q with h0 | h0
  · rw [abs_of_nonneg (a := (q : ℝ)) (by exact_mod_cast h0)]
    exact nonneg q h0 (by rwa [abs_of_nonneg h0] at h)
  · have opposite := nonneg (-q) (by linarith) (by rwa [abs_of_nonpos h0] at h)
    rw [abs_of_nonpos (a := (q : ℝ)) (by exact_mod_cast h0), ← abs_neg]
    push_cast at opposite ⊢
    rw [Real.sin_neg, neg_sq] at opposite
    refine le_trans (le_of_eq ?_) opposite
    congr 1
    ring

/-- The first term left out bounds the error of the cosine polynomial. -/
theorem abs_cos_sub_le {q : ℚ} (h : |q| ≤ 1) (count : ℕ) :
    |Real.cos q - (polynomial (seriesCoefficients 0 count) (q ^ 2) : ℚ)| ≤
      |(q : ℝ)| ^ (2 * count) / (2 * count).factorial := by
  have sum := cast_polynomial |q| 0 count
  rw [pow_zero, one_mul, sq_abs] at sum
  rw [sum, ← Real.cos_abs, ← Rat.cast_abs, cos_eq_tsum]
  exact alternating_series_error_bound _
    (term_antitone (by exact_mod_cast abs_nonneg q) (by exact_mod_cast h) 0) (term_summable _ 0) count

end Terms

end Reckoner.Sine
