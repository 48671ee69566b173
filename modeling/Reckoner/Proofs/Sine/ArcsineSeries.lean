import Mathlib

/-! Pi as a series. The inverse square root of `1 - y` has a binomial series, whose integral over
`y = x ^ 2` is the arcsine; at one half the arcsine is a sixth of pi. Every term is less than a
quarter of the one before, so what is left of the series is less than a third of the last term. -/

namespace Reckoner.Sine

/-- The coefficients of the inverse square root. -/
def rootCoefficient (n : ℕ) : ℚ := ∏ j ∈ Finset.range n, (2 * j + 1 : ℚ) / (2 * j + 2)

/-- The terms of the arcsine series at one half, six times over. -/
def piTerm (n : ℕ) : ℚ :=
  3 * ∏ j ∈ Finset.range n, (2 * j + 1 : ℚ) ^ 2 / (8 * (j + 1) * (2 * j + 3))

theorem rootCoefficient_succ (n : ℕ) :
    rootCoefficient (n + 1) = rootCoefficient n * ((2 * n + 1) / (2 * n + 2)) :=
  Finset.prod_range_succ _ _

theorem piTerm_succ (n : ℕ) :
    piTerm (n + 1) = piTerm n * ((2 * n + 1) ^ 2 / (8 * (n + 1) * (2 * n + 3))) := by
  rw [piTerm, Finset.prod_range_succ, ← mul_assoc]
  rfl

theorem rootCoefficient_bounds (n : ℕ) : 0 ≤ rootCoefficient n ∧ rootCoefficient n ≤ 1 := by
  constructor
  · exact Finset.prod_nonneg fun j _ => by positivity
  · refine Finset.prod_le_one (fun j _ => by positivity) fun j _ => ?_
    rw [div_le_one (by positivity)]
    linarith

theorem multichoose_half (n : ℕ) :
    Ring.multichoose (1 / 2 : ℝ) n = rootCoefficient n := by
  induction n with
  | zero => simp [rootCoefficient]
  | succ n ih =>
    have here := Ring.factorial_nsmul_multichoose_eq_ascPochhammer (1 / 2 : ℝ) n
    have next := Ring.factorial_nsmul_multichoose_eq_ascPochhammer (1 / 2 : ℝ) (n + 1)
    rw [Polynomial.ascPochhammer_smeval_eq_eval, nsmul_eq_mul] at here next
    rw [ascPochhammer_succ_eval, ← here, ih, Nat.factorial_succ] at next
    have factorial : (0 : ℝ) < n.factorial := by positivity
    rw [rootCoefficient_succ]
    push_cast at next ⊢
    have cancelled : (n + 1) * Ring.multichoose (1 / 2 : ℝ) (n + 1) =
        rootCoefficient n * (1 / 2 + n) := by
      refine mul_left_cancel₀ factorial.ne' ?_
      linarith
    field_simp
    linarith

/-- The binomial series of the inverse square root. -/
theorem hasSum_inverse_root {y : ℝ} (hy : |y| < 1) :
    HasSum (fun n => rootCoefficient n * y ^ n) (1 / √(1 - y)) := by
  have inside : y ∈ Metric.eball (0 : ℝ) 1 := by
    simpa [Metric.mem_eball, edist_dist, Real.dist_eq] using hy
  have series := (Real.one_div_one_sub_rpow_hasFPowerSeriesOnBall_zero (1 / 2)).hasSum inside
  rw [zero_add, ← Real.sqrt_eq_rpow] at series
  refine series.congr_fun fun n => ?_
  rw [FormalMultilinearSeries.ofScalars_apply_eq, ← Ring.multichoose_eq, multichoose_half,
    smul_eq_mul]

/-- The terms are six times the integrals of the binomial series up to one half. -/
theorem piTerm_eq_integral (n : ℕ) :
    (piTerm n : ℝ) = 6 * ∫ x in (0 : ℝ)..(1 / 2), rootCoefficient n * (x ^ 2) ^ n := by
  have power : ∫ x in (0 : ℝ)..(1 / 2), rootCoefficient n * (x ^ 2) ^ n =
      rootCoefficient n * ((1 / 2) ^ (2 * n + 1) / (2 * n + 1)) := by
    simp only [← pow_mul]
    rw [intervalIntegral.integral_const_mul, integral_pow]
    norm_num
  rw [power]
  clear power
  induction n with
  | zero => norm_num [piTerm, rootCoefficient]
  | succ n ih =>
    rw [piTerm_succ, rootCoefficient_succ]
    push_cast
    rw [ih]
    field_simp
    ring

theorem integral_inverse_root : ∫ x in (0 : ℝ)..(1 / 2), 1 / √(1 - x ^ 2) = Real.pi / 6 := by
  have inside : ∀ x ∈ Set.uIcc (0 : ℝ) (1 / 2), 0 ≤ x ∧ x ≤ 1 / 2 := by
    intro x hx
    rwa [Set.uIcc_of_le (by norm_num)] at hx
  have derivative : ∀ x ∈ Set.uIcc (0 : ℝ) (1 / 2),
      HasDerivAt Real.arcsin (1 / √(1 - x ^ 2)) x := by
    intro x hx
    have bounds := inside x hx
    exact Real.hasDerivAt_arcsin (by linarith) (by linarith)
  have continuous : ContinuousOn (fun x : ℝ => 1 / √(1 - x ^ 2)) (Set.uIcc 0 (1 / 2)) := by
    refine ContinuousOn.div continuousOn_const (by fun_prop) fun x hx => ?_
    have bounds := inside x hx
    exact (Real.sqrt_pos.mpr (by nlinarith)).ne'
  have half : Real.arcsin (1 / 2) = Real.pi / 6 := by
    rw [← Real.sin_pi_div_six]
    exact Real.arcsin_sin (by linarith [Real.pi_pos]) (by linarith [Real.pi_pos])
  rw [intervalIntegral.integral_eq_sub_of_hasDerivAt derivative continuous.intervalIntegrable,
    half, Real.arcsin_zero, sub_zero]

/-- The terms sum to pi. -/
theorem hasSum_piTerm : HasSum (fun n => (piTerm n : ℝ)) Real.pi := by
  have within : ∀ x : ℝ, x ∈ Set.uIoc 0 (1 / 2) → |x ^ 2| ≤ 1 / 4 := by
    intro x hx
    rw [Set.uIoc_of_le (by norm_num)] at hx
    rw [abs_of_nonneg (by positivity)]
    nlinarith [hx.1, hx.2]
  have integrals : HasSum (fun n => ∫ x in (0 : ℝ)..(1 / 2), rootCoefficient n * (x ^ 2) ^ n)
      (∫ x in (0 : ℝ)..(1 / 2), 1 / √(1 - x ^ 2)) := by
    refine intervalIntegral.hasSum_integral_of_dominated_convergence (fun n _ => (1 / 4) ^ n)
      (fun n => by fun_prop) (fun n => ?_) ?_ ?_ ?_
    · refine MeasureTheory.ae_of_all _ fun x hx => ?_
      have bounds := rootCoefficient_bounds n
      have coefficient : |(rootCoefficient n : ℝ)| ≤ 1 := by
        rw [abs_of_nonneg (by exact_mod_cast bounds.1)]
        exact_mod_cast bounds.2
      rw [Real.norm_eq_abs, abs_mul, abs_pow]
      exact (mul_le_of_le_one_left (by positivity) coefficient).trans
        (pow_le_pow_left₀ (abs_nonneg _) (within x hx) n)
    · exact MeasureTheory.ae_of_all _ fun x _ =>
        summable_geometric_of_lt_one (by norm_num) (by norm_num)
    · exact intervalIntegrable_const
    · refine MeasureTheory.ae_of_all _ fun x hx => ?_
      exact hasSum_inverse_root ((within x hx).trans_lt (by norm_num))
  have six := integrals.mul_left 6
  rw [integral_inverse_root] at six
  simpa only [← piTerm_eq_integral, mul_div_cancel₀ _ (by norm_num : (6 : ℝ) ≠ 0)] using six

theorem piTerm_nonneg (n : ℕ) : 0 ≤ piTerm n :=
  mul_nonneg (by norm_num) (Finset.prod_nonneg fun j _ => by positivity)

theorem piTerm_succ_le (n : ℕ) : piTerm (n + 1) ≤ piTerm n / 4 := by
  have ratio : ((2 * n + 1) ^ 2 / (8 * (n + 1) * (2 * n + 3)) : ℚ) ≤ 1 / 4 := by
    rw [div_le_iff₀ (by positivity)]
    nlinarith
  rw [piTerm_succ]
  linarith [mul_le_mul_of_nonneg_left ratio (piTerm_nonneg n)]

theorem piTerm_le (n : ℕ) : piTerm (n + 1) ≤ 1 / 8 * (1 / 4) ^ n := by
  induction n with
  | zero => norm_num [piTerm]
  | succ n ih =>
    have next := piTerm_succ_le (n + 1)
    rw [pow_succ]
    linarith

/-- The terms fall faster than the squares that multiply them grow. -/
theorem piTerm_mul_sq_le (n : ℕ) : piTerm n * (2 * n + 1) ^ 2 ≤ 3 := by
  induction n with
  | zero => norm_num [piTerm]
  | succ n ih =>
    have square : (0 : ℚ) < (2 * n + 1) ^ 2 := by positivity
    have ratio : ((2 * n + 3) ^ 2 / (8 * (n + 1) * (2 * n + 3)) : ℚ) ≤ 1 := by
      rw [div_le_one (by positivity)]
      nlinarith
    have regrouped : piTerm (n + 1) * (2 * (n + 1 : ℕ) + 1) ^ 2 =
        piTerm n * (2 * n + 1) ^ 2 * ((2 * n + 3) ^ 2 / (8 * (n + 1) * (2 * n + 3))) := by
      rw [piTerm_succ]
      push_cast
      ring
    have scaled : 0 ≤ piTerm n * (2 * n + 1) ^ 2 := mul_nonneg (piTerm_nonneg n) square.le
    rw [regrouped]
    exact (mul_le_of_le_one_right scaled ratio).trans ih

/-- The sum of the terms up to one of them. -/
def piSum (n : ℕ) : ℚ := ∑ j ∈ Finset.range (n + 1), piTerm j

theorem piSum_succ (n : ℕ) : piSum (n + 1) = piSum n + piTerm (n + 1) :=
  Finset.sum_range_succ _ _

theorem piTerm_add_le (n k : ℕ) : piTerm (n + k) ≤ piTerm n * (1 / 4) ^ k := by
  induction k with
  | zero => simp
  | succ k ih =>
    have next := piTerm_succ_le (n + k)
    rw [← Nat.add_assoc, pow_succ]
    linarith

/-- Less than a third of the last term is missing from a partial sum. -/
theorem pi_sub_piSum_bounds (n : ℕ) :
    0 ≤ Real.pi - piSum n ∧ Real.pi - piSum n ≤ piTerm n / 3 := by
  have rest := (hasSum_nat_add_iff' (n + 1)).mpr hasSum_piTerm
  have missing : Real.pi - ∑ j ∈ Finset.range (n + 1), (piTerm j : ℝ) = Real.pi - piSum n := by
    rw [piSum]
    push_cast
    rfl
  rw [missing] at rest
  have geometric := (hasSum_geometric_of_lt_one (r := 1 / 4) (by norm_num) (by norm_num)).mul_left
    ((piTerm n : ℝ) * (1 / 4))
  constructor
  · exact rest.nonneg fun k => by exact_mod_cast piTerm_nonneg _
  · have value : (piTerm n : ℝ) * (1 / 4) * (1 - 1 / 4)⁻¹ = piTerm n / 3 := by ring
    rw [value] at geometric
    refine hasSum_le (fun k => ?_) rest geometric
    have bound : piTerm (k + (n + 1)) ≤ piTerm n * (1 / 4) * (1 / 4) ^ k := by
      have geometric := piTerm_add_le n (k + 1)
      rw [pow_succ] at geometric
      rw [show k + (n + 1) = n + (k + 1) by omega]
      linarith
    have real : ((piTerm (k + (n + 1)) : ℚ) : ℝ) ≤ (piTerm n * (1 / 4) * (1 / 4) ^ k : ℚ) :=
      Rat.cast_le.mpr bound
    push_cast at real
    exact real

theorem piSum_le (n : ℕ) : piSum n ≤ 13 / 4 := by
  have bounds := (pi_sub_piSum_bounds n).1
  have pi := Real.pi_lt_d2
  have real : (piSum n : ℝ) ≤ (13 / 4 : ℚ) := by
    push_cast
    linarith
  exact_mod_cast real

end Reckoner.Sine
