import Mathlib
import Reckoner.Proofs.Decimal.RoundingError

/-! Rounding to nearest is off by half a unit at most. From one to ten the unit is fixed by the
precision alone, so that a sum is left as it is by whatever is less than half of the unit. -/

namespace Reckoner.Context

variable {ctx : Context} {q x : ℚ}

theorem digit_mem_numbers (least : ctx.etiny ≤ 0) (n : ℕ) (digit : n < 10) :
    (n : ℚ) ∈ ctx.numbers := by
  refine ⟨n, 0, ?_, least, by simp⟩
  have one : (10 : ℤ) ^ 1 ≤ 10 ^ ctx.precision :=
    pow_le_pow_right₀ (by norm_num) ctx.precision_pos
  rw [Nat.abs_cast]
  omega

/-- What an operation delivers when its exact result is at most nine. -/
theorem exists_rounded_of_le_nine {r : Except Signal Decimal}
    (h : r.map Decimal.toRat = ctx.roundRat q) (nonneg : 0 ≤ q) (small : q ≤ 9)
    (least : ctx.etiny ≤ 0) (range : 0 ≤ ctx.emax) : ∃ d, r = .ok d ∧ d.toRat = ctx.correct q := by
  have nine : (9 : ℚ) ∈ ctx.numbers := ctx.digit_mem_numbers least 9 (by norm_num)
  have below := ctx.correct_le_of_mem_numbers nine small
  have ten : (10 : ℚ) ^ (1 : ℤ) ≤ 10 ^ (ctx.emax + 1) :=
    zpow_le_zpow_right₀ (by norm_num) (by omega)
  refine ctx.delivers_inside h ?_
  rw [abs_of_nonneg (ctx.correct_nonneg nonneg)]
  rw [zpow_one] at ten
  linarith

theorem unitPlace_of_units (least : ctx.etiny ≤ 1 - ctx.precision) (one : 1 ≤ q) (ten : q < 10) :
    ctx.unitPlace q = 1 - ctx.precision := by
  have log : Int.log 10 |q| = 0 := by
    rw [abs_of_pos (by linarith), log_ten_eq_iff (by linarith)]
    norm_num
    exact ⟨one, ten⟩
  rw [unitPlace, log]
  omega

section Nearest

variable (nearest : ctx.rounding = .nearest)
include nearest

theorem abs_correct_sub_le_half_unit (q : ℚ) : |ctx.correct q - q| ≤ 10 ^ ctx.unitPlace q / 2 := by
  have unit : (0 : ℚ) < 10 ^ ctx.unitPlace q := by positivity
  have near := Rounding.nearest_spec (q / 10 ^ ctx.unitPlace q)
  have half : |(Rounding.nearest.toInteger (q / 10 ^ ctx.unitPlace q) : ℚ) -
      q / 10 ^ ctx.unitPlace q| ≤ 1 / 2 := by
    rw [abs_sub_comm]
    exact near.elim le_of_lt fun h => h.1.le
  rw [ctx.correct_sub_eq, nearest, abs_mul, abs_of_pos unit]
  linarith [mul_le_mul_of_nonneg_right half unit.le]

theorem abs_correct_sub_le_of_units (least : ctx.etiny ≤ 1 - ctx.precision) (one : 1 ≤ q)
    (ten : q < 10) : |ctx.correct q - q| ≤ 10 ^ (1 - ctx.precision : ℤ) / 2 := by
  have half := abs_correct_sub_le_half_unit nearest q
  rwa [unitPlace_of_units least one ten] at half

/-- Below one tenth the least place may be coarser than the digits. -/
theorem abs_correct_sub_le_half (below : ctx.emin ≤ -1) (q : ℚ) :
    |ctx.correct q - q| ≤ (|q| + 1 / 10) * (10 ^ (1 - ctx.precision : ℤ) / 2) := by
  by_cases zero : q = 0
  · rw [zero, correct_zero, sub_zero, abs_zero, zero_add]
    positivity
  have half := abs_correct_sub_le_half_unit nearest q
  have relative : (0 : ℚ) < 10 ^ (1 - ctx.precision : ℤ) := by positivity
  have magnitude := abs_nonneg q
  rcases max_choice (Int.log 10 |q| - ctx.precision + 1) ctx.etiny with h | h
  · have place : (10 : ℚ) ^ ctx.unitPlace q =
        10 ^ Int.log 10 |q| * 10 ^ (1 - ctx.precision : ℤ) := by
      rw [unitPlace, h, ← zpow_add₀ (by norm_num)]
      congr 1
      ring
    have leading := ten_zpow_log_le (abs_pos.mpr zero)
    nlinarith
  · have place : (10 : ℚ) ^ ctx.unitPlace q ≤ 1 / 10 * 10 ^ (1 - ctx.precision : ℤ) := by
      have tenth : (1 / 10 : ℚ) = 10 ^ (-1 : ℤ) := by norm_num
      rw [unitPlace, h, tenth, ← zpow_add₀ (by norm_num)]
      exact zpow_le_zpow_right₀ (by norm_num) (by rw [etiny]; omega)
    nlinarith

/-- A sum between one and ten is not moved by less than half a unit. -/
theorem correct_add_of_lt_half (least : ctx.etiny ≤ 1 - ctx.precision) (held : q ∈ ctx.numbers)
    (one : 1 ≤ q) (nonneg : 0 ≤ x) (half : x < 10 ^ (1 - ctx.precision : ℤ) / 2)
    (ten : q + x < 10) : ctx.correct (q + x) = q := by
  have unit : (0 : ℚ) < 10 ^ (1 - ctx.precision : ℤ) := by positivity
  obtain ⟨n, multiple⟩ : ∃ n : ℤ, q = n * 10 ^ ctx.unitPlace q := by
    have nonzero : q ≠ 0 := (zero_lt_one.trans_le one).ne'
    rcases ctx.multiple_or_small nonzero held with multiple | ⟨n, above, below⟩
    · exact multiple
    · exact absurd above (not_lt.mpr below)
  rw [unitPlace_of_units least one (by linarith)] at multiple
  have fraction :
      (q + x) / 10 ^ (1 - ctx.precision : ℤ) - n = x / 10 ^ (1 - ctx.precision : ℤ) := by
    rw [multiple]
    field_simp
    ring
  have integer : Rounding.nearest.toInteger ((q + x) / 10 ^ (1 - ctx.precision : ℤ)) = n := by
    refine Rounding.nearest_eq_iff.mpr (.inl ?_)
    rw [fraction, abs_of_nonneg (by positivity), div_lt_iff₀ unit]
    linarith
  rw [correct, unitPlace_of_units least (by linarith) ten, nearest, integer, ← multiple]

end Nearest

end Reckoner.Context
