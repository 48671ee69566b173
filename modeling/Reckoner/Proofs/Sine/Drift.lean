import Mathlib
import Reckoner.Proofs.Sine.Accuracy

/-! The sine against the sine of real numbers. Reduction takes off whole multiples of the stored pi,
each of them a little more than a half turn, so that what is left has moved by as many times the
excess. The error of the polynomials outweighs this drift up to some `10 ^ 99`; beyond, the drift
grows with the angle until nothing is left of the sine. -/

namespace Reckoner.Sine

theorem sin_withSign (negative : Bool) (y : ℝ) :
    Real.sin (withSign negative y) = withSign negative (Real.sin y) := by
  cases negative
  · rfl
  · exact Real.sin_neg y

theorem cast_toRat (x : Decimal) : (x.toRat : ℝ) = withSign x.negative ((|x.toRat| : ℚ) : ℝ) := by
  rw [Decimal.abs_toRat, Decimal.toRat]
  cases x.negative <;> simp

/-- The real sine of an angle by what is left of it: each half turn that a number near pi stands for
moves the rest by its excess over pi. -/
theorem sin_eq_drifted (pi : ℚ) (x : Decimal) :
    Real.sin x.toRat = withSign x.negative ((-1) ^ turns pi |x.toRat| *
      Real.sin (residue pi |x.toRat| + turns pi |x.toRat| * (pi - Real.pi))) := by
  have split : ((|x.toRat| : ℚ) : ℝ) =
      residue pi |x.toRat| + turns pi |x.toRat| * (pi - Real.pi) +
        turns pi |x.toRat| * Real.pi := by
    rw [residue]
    push_cast
    ring
  rw [cast_toRat, sin_withSign, split, Real.sin_add_int_mul_pi]

theorem abs_withSign_sub (negative : Bool) (a b : ℝ) :
    |withSign negative a - withSign negative b| = |a - b| := by
  cases negative
  · rfl
  · rw [withSign_true, withSign_true, neg_sub_neg, abs_sub_comm]

/-- So the sine of the rest is as far from the real one as the drift moves it. -/
theorem abs_sin_sub_reduced (pi : ℚ) (x : Decimal) :
    |withSign x.negative ((-1) ^ turns pi |x.toRat| * Real.sin (residue pi |x.toRat|)) -
        Real.sin x.toRat| =
      |Real.sin (residue pi |x.toRat|) -
        Real.sin (residue pi |x.toRat| + turns pi |x.toRat| * (pi - Real.pi))| := by
  rw [sin_eq_drifted pi x, abs_withSign_sub, ← mul_sub, abs_mul, abs_neg_one_zpow, one_mul]

theorem abs_turns_le {pi : ℚ} (large : 3 ≤ pi) {angle : ℚ} (nonneg : 0 ≤ angle) :
    |((turns pi angle : ℤ) : ℝ)| ≤ angle / 3 := by
  have positive : 0 < pi := by linarith
  have some : 0 ≤ turns pi angle := Int.floor_nonneg.mpr (by positivity)
  have few : (turns pi angle : ℚ) ≤ angle / 3 :=
    (Int.floor_le _).trans (div_le_div_of_nonneg_left nonneg (by norm_num) large)
  rw [abs_of_nonneg (by exact_mod_cast some)]
  exact_mod_cast few

/-- The evaluator's sine of any decimal, against the sine of what the stored pi leaves of it. -/
theorem exists_sine (ev : Evaluator) (x : Decimal) :
    ∃ d, sine ev.context x = .ok d ∧
      |(d.toRat : ℝ) - withSign x.negative ((-1) ^ turns storedPi.toRat |x.toRat| *
        Real.sin (residue storedPi.toRat |x.toRat|))| ≤ 8 / 10 ^ 21 := by
  obtain ⟨t, built, accurate⟩ := exists_table
  rw [← accurate.pi]
  by_cases zero : x.isZero
  · have angle : x.toRat = 0 := (x.toRat_eq_zero_iff).mpr zero
    have sign : withSign x.negative (0 : ℝ) = 0 := by cases x.negative <;> simp
    have none : withSign x.negative ((-1) ^ turns t.pi.toRat |x.toRat| *
        Real.sin (residue t.pi.toRat |x.toRat|)) = 0 := by
      simp [angle, residue, turns, sign]
    refine ⟨.zero, if_pos zero, ?_⟩
    rw [none, Decimal.zero, Decimal.toRat_ofNat]
    norm_num
  · obtain ⟨d, delivered, close⟩ := exists_withTable_near (context_fine ev) accurate x
    refine ⟨d, ?_, close⟩
    rw [sine, if_neg zero, built]
    exact delivered

/-- The sine is as accurate as its polynomials up to `2 * 10 ^ 99`, and from there on loses a unit
of the hundred and twentieth place for each unit of the angle. -/
theorem sine_near_real (ev : Evaluator) (x : Decimal) :
    ∃ d, sine ev.context x = .ok d ∧
      |(d.toRat : ℝ) - Real.sin x.toRat| ≤ 8 / 10 ^ 21 + |(x.toRat : ℝ)| / 10 ^ 120 ∧
      (|x.toRat| ≤ 2 * 10 ^ 99 → |(d.toRat : ℝ) - Real.sin x.toRat| ≤ 1 / 10 ^ 20) := by
  obtain ⟨d, delivered, close⟩ := exists_sine ev x
  have moved := abs_sin_sub_reduced storedPi.toRat x
  have excess : |(storedPi.toRat : ℝ) - Real.pi| ≤ 3 / 10 ^ 120 := by
    have bounds := storedPi_sub_pi_bounds
    rw [abs_le]
    constructor <;> linarith
  have few := abs_turns_le (by linarith [storedPi_bounds.1]) (abs_nonneg x.toRat)
  have drift : |Real.sin (residue storedPi.toRat |x.toRat|) -
      Real.sin (residue storedPi.toRat |x.toRat| +
        turns storedPi.toRat |x.toRat| * (storedPi.toRat - Real.pi))| ≤ |(x.toRat : ℝ)| / 10 ^ 120 := by
    refine (Real.abs_sin_sub_sin_le _ _).trans ?_
    rw [sub_add_cancel_left, abs_neg, abs_mul]
    calc _ ≤ ((|x.toRat| : ℚ) : ℝ) / 3 * (3 / 10 ^ 120) :=
          mul_le_mul few excess (abs_nonneg _) (by positivity)
      _ = |(x.toRat : ℝ)| / 10 ^ 120 := by
        rw [Rat.cast_abs]
        ring
  rw [← moved] at drift
  have near : |(d.toRat : ℝ) - Real.sin x.toRat| ≤ 8 / 10 ^ 21 + |(x.toRat : ℝ)| / 10 ^ 120 :=
    (abs_sub_le _ _ _).trans (add_le_add close drift)
  refine ⟨d, delivered, near, fun moderate => near.trans ?_⟩
  have size : |(x.toRat : ℝ)| ≤ 2 * 10 ^ 99 := cast_abs_le moderate (by norm_num)
  linarith

/-- At the end of that range. -/
theorem sine_near_real_moderate :
    |Decimal.toRat ⟨true, 2, 99⟩| ≤ 2 * 10 ^ 99 ∧
      ∃ d, sine ({} : Evaluator).context ⟨true, 2, 99⟩ = .ok d ∧
        |(d.toRat : ℝ) - Real.sin (Decimal.toRat ⟨true, 2, 99⟩)| ≤ 1 / 10 ^ 20 := by
  have moderate : |Decimal.toRat ⟨true, 2, 99⟩| ≤ 2 * 10 ^ 99 := by
    rw [Decimal.abs_toRat]
    norm_num
  obtain ⟨d, delivered, -, close⟩ := sine_near_real {} ⟨true, 2, 99⟩
  exact ⟨moderate, d, delivered, close moderate⟩

/-- Up to one the sine rises by at least a quarter of the step. -/
theorem le_sin_add_sub_sin {r h : ℝ} (hr : 0 ≤ r) (hh : 0 ≤ h) (top : r + h ≤ 1) :
    h / 4 ≤ Real.sin (r + h) - Real.sin r := by
  have slope : 1 / 2 ≤ Real.cos ((r + h + r) / 2) := by
    have flat := Real.one_sub_sq_div_two_le_cos (x := (r + h + r) / 2)
    nlinarith
  have rise : h / 4 ≤ Real.sin (h / 2) := by
    have steep := Real.mul_le_sin (x := h / 2) (by linarith) (by linarith [Real.pi_gt_three])
    have half : 1 / 2 ≤ 2 / Real.pi := by
      rw [div_le_div_iff₀ two_pos Real.pi_pos]
      linarith [Real.pi_lt_four]
    nlinarith
  rw [Real.sin_sub_sin, show (r + h - r) / 2 = h / 2 by ring]
  nlinarith

/-- What the stored pi leaves of `10 ^ 117`, and how often it is taken off. -/
theorem reduced_large :
    0 ≤ residue storedPi.toRat (10 ^ 117) ∧ residue storedPi.toRat (10 ^ 117) ≤ 1 / 4 ∧
      3 * 10 ^ 116 ≤ turns storedPi.toRat (10 ^ 117) ∧
      turns storedPi.toRat (10 ^ 117) ≤ 4 * 10 ^ 116 := by
  rw [toRat_storedPi]
  decide +kernel

/-- There the drift shows in the third decimal. -/
theorem not_sine_near_real_of_large :
    ¬∃ d, sine ({} : Evaluator).context ⟨false, 1, 117⟩ = .ok d ∧
      |(d.toRat : ℝ) - Real.sin (Decimal.toRat ⟨false, 1, 117⟩)| ≤ 1 / 10 ^ 20 := by
  rintro ⟨d, delivered, near⟩
  obtain ⟨e, delivered', close⟩ := exists_sine {} ⟨false, 1, 117⟩
  obtain rfl : d = e := Except.ok.inj (delivered.symm.trans delivered')
  have moved := abs_sin_sub_reduced storedPi.toRat ⟨false, 1, 117⟩
  have size : |Decimal.toRat ⟨false, 1, 117⟩| = 10 ^ 117 := by
    rw [Decimal.abs_toRat, Nat.cast_one, one_mul]
    rfl
  rw [size] at moved close
  obtain ⟨nonneg, low, many, few⟩ := reduced_large
  have bounds := storedPi_sub_pi_bounds
  generalize residue storedPi.toRat (10 ^ 117) = r at *
  generalize turns storedPi.toRat (10 ^ 117) = k at *
  have many' : 3 * 10 ^ 116 ≤ (k : ℝ) := by exact_mod_cast many
  have few' : (k : ℝ) ≤ 4 * 10 ^ 116 := by exact_mod_cast few
  have low' : (r : ℝ) ≤ 1 / 4 := (Rat.cast_le.mpr low).trans_eq (by norm_num)
  have lower : 3 * 10 ^ 116 * (28 / 10 ^ 121) ≤ (k : ℝ) * (storedPi.toRat - Real.pi) :=
    mul_le_mul many' bounds.1 (by positivity) (by linarith)
  have upper : (k : ℝ) * (storedPi.toRat - Real.pi) ≤ 4 * 10 ^ 116 * (30 / 10 ^ 121) :=
    mul_le_mul few' bounds.2 (by linarith) (by positivity)
  have rise := le_sin_add_sub_sin (r := r) (h := k * (storedPi.toRat - Real.pi))
    (by exact_mod_cast nonneg) (by linarith) (by linarith)
  have total := (abs_sub_le _ (d.toRat : ℝ) _).trans
    (add_le_add ((abs_sub_comm _ _).trans_le close) near)
  rw [moved, abs_sub_comm] at total
  have apart := (le_abs_self _).trans total
  linarith

end Reckoner.Sine
