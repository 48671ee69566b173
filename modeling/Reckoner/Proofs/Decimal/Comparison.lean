import Mathlib
import Reckoner.Proofs.Decimal.Denotation

/-! Comparison of decimals is comparison of the rationals they denote, whatever their exponents
and the signs of their zeros. -/

namespace Reckoner

theorem compare_congr {α β : Type} [LinearOrder α] [LinearOrder β] {x y : α} {x' y' : β}
    (less : x < y ↔ x' < y') (greater : y < x ↔ y' < x') : compare x y = compare x' y' := by
  rcases lt_trichotomy x y with lt | eq | gt
  · rw [compare_lt_iff_lt.mpr lt, compare_lt_iff_lt.mpr (less.mp lt)]
  · have same : x' = y' :=
      le_antisymm (not_lt.mp fun h => (greater.mpr h).ne eq.symm)
        (not_lt.mp fun h => (less.mpr h).ne eq)
    rw [compare_eq_iff_eq.mpr eq, compare_eq_iff_eq.mpr same]
  · rw [compare_gt_iff_gt.mpr gt, compare_gt_iff_gt.mpr (greater.mp gt)]

namespace Decimal

/-- A leading digit at a higher place makes the larger number. -/
theorem abs_lt_of_adjusted_lt {a b : Decimal} (ha : a.isZero = false) (hb : b.isZero = false)
    (h : a.adjusted < b.adjusted) : |a.toRat| < |b.toRat| := by
  rw [a.adjusted_eq_log ha, b.adjusted_eq_log hb] at h
  have upper := ((log_ten_eq_iff (abs_toRat_pos ha) _).mp rfl).2
  have lower := ten_zpow_log_le (abs_toRat_pos hb)
  refine upper.trans_le (le_trans ?_ lower)
  exact zpow_le_zpow_right₀ (by norm_num) (by omega)

/-- The absolute value in units of a place at or under the last one. -/
theorem abs_toRat_at (d : Decimal) {place : ℤ} (h : place ≤ d.exponent) :
    |d.toRat| = (d.coefficient * 10 ^ (d.exponent - place).toNat : ℕ) * 10 ^ place := by
  have split : (10 : ℚ) ^ d.exponent = 10 ^ (d.exponent - place).toNat * 10 ^ place :=
    ten_zpow_split (by omega)
  rw [abs_toRat, split]
  push_cast
  ring

theorem compareAbs_eq (a b : Decimal) : compareAbs a b = compare |a.toRat| |b.toRat| := by
  have zero : ∀ d : Decimal, d.isZero = true → |d.toRat| = 0 := by
    intro d h
    rw [abs_eq_zero, toRat_eq_zero_iff, h]
  unfold compareAbs
  cases ha : a.isZero <;> cases hb : b.isZero
  · dsimp only
    have places : ∀ o, compare a.adjusted b.adjusted = o → o ≠ .eq →
        o = compare |a.toRat| |b.toRat| := by
      intro o h unequal
      rcases lt_trichotomy a.adjusted b.adjusted with lt | eq | gt
      · rw [compare_lt_iff_lt.mpr (abs_lt_of_adjusted_lt ha hb lt), ← h, compare_lt_iff_lt.mpr lt]
      · exact absurd (h.symm.trans (compare_eq_iff_eq.mpr eq)) unequal
      · rw [compare_gt_iff_gt.mpr (abs_lt_of_adjusted_lt hb ha gt), ← h, compare_gt_iff_gt.mpr gt]
    have aligned : compare (a.coefficient * 10 ^ (a.exponent - min a.exponent b.exponent).toNat)
        (b.coefficient * 10 ^ (b.exponent - min a.exponent b.exponent).toNat) =
        compare |a.toRat| |b.toRat| := by
      have unit : (0 : ℚ) < 10 ^ min a.exponent b.exponent := by positivity
      rw [a.abs_toRat_at (min_le_left _ _), b.abs_toRat_at (min_le_right _ _)]
      refine compare_congr ?_ ?_ <;> rw [mul_lt_mul_iff_left₀ unit, Nat.cast_lt]
    split
    · exact aligned
    · rename_i unequal
      exact places _ rfl fun same => unequal same
  · rw [zero b hb, compare_gt_iff_gt.mpr (abs_toRat_pos ha)]
  · rw [zero a ha, compare_lt_iff_lt.mpr (abs_toRat_pos hb)]
  · rw [zero a ha, zero b hb, compare_eq_iff_eq.mpr rfl]

theorem toRat_nonneg_of {d : Decimal} (h : (d.negative && !d.isZero) = false) : 0 ≤ d.toRat := by
  cases zero : d.isZero
  · have positive : d.negative = false := by simpa [zero] using h
    rw [toRat, positive, withSign_false]
    positivity
  · rw [(toRat_eq_zero_iff d).mpr zero]

theorem toRat_neg_of {d : Decimal} (h : (d.negative && !d.isZero) = true) : d.toRat < 0 := by
  obtain ⟨negative, nonzero⟩ := Bool.and_eq_true_iff.mp h
  have large := abs_toRat_pos (d := d) (by simpa using nonzero)
  rw [abs_toRat] at large
  rw [toRat, negative, withSign_true]
  linarith

theorem order_eq (a b : Decimal) : order a b = compare a.toRat b.toRat := by
  unfold order
  split
  · rename_i zeros
    obtain ⟨ha, hb⟩ := Bool.and_eq_true_iff.mp zeros
    rw [(toRat_eq_zero_iff a).mpr ha, (toRat_eq_zero_iff b).mpr hb, compare_eq_iff_eq.mpr rfl]
  · split
    · rename_i ha hb
      rw [compareAbs_eq, abs_of_nonneg (toRat_nonneg_of ha), abs_of_nonneg (toRat_nonneg_of hb)]
    · rename_i ha hb
      rw [compareAbs_eq, abs_of_neg (toRat_neg_of ha), abs_of_neg (toRat_neg_of hb)]
      exact compare_congr neg_lt_neg_iff neg_lt_neg_iff
    · rename_i ha hb
      exact (compare_lt_iff_lt.mpr ((toRat_neg_of ha).trans_le (toRat_nonneg_of hb))).symm
    · rename_i ha hb
      exact (compare_gt_iff_gt.mpr ((toRat_neg_of hb).trans_le (toRat_nonneg_of ha))).symm

theorem below_iff {a b : Decimal} : a.below b ↔ a.toRat < b.toRat := by
  rw [below, order_eq, beq_iff_eq, compare_lt_iff_lt]

end Decimal

end Reckoner
