import Mathlib
import Reckoner.Proofs.Decimal.RoundingError

/-! Where rounding to nearest leaves the range: from half a unit of the last place under its end
on, the midpoint included, since the end is an even multiple of the unit. -/

namespace Reckoner

theorem Rounding.le_abs_nearest_iff {x : ℚ} {n : ℕ} (even : Even n) :
    (n : ℚ) ≤ |(nearest.toInteger x : ℚ)| ↔ n - 1 / 2 ≤ |x| := by
  have spec := nearest_spec x
  generalize nearest.toInteger x = m at *
  have half : |x - m| ≤ 1 / 2 := spec.elim le_of_lt fun h => h.1.le
  have outward : |(m : ℚ)| ≤ |x| + 1 / 2 := by linarith [abs_sub_abs_le_abs_sub (m : ℚ) x, abs_sub_comm x m]
  constructor
  · intro h
    linarith
  · intro h
    by_contra inside
    have whole : |m| < (n : ℤ) := by exact_mod_cast not_le.mp inside
    have below : |(m : ℚ)| ≤ n - 1 := by exact_mod_cast Int.le_sub_one_of_lt whole
    have inward : |x| - |(m : ℚ)| ≤ |x - m| := abs_sub_abs_le_abs_sub x m
    -- Only the midpoint is left, and there the neighbour of an even number is not taken.
    have midpoint : Even m := (spec.resolve_left (by linarith)).2
    have neighbour : |m| = n - 1 := by
      have : |(m : ℚ)| = n - 1 := by linarith
      exact_mod_cast this
    obtain ⟨k, rfl⟩ := even
    obtain ⟨l, rfl⟩ := midpoint
    rcases abs_choice (l + l) with h | h <;> omega

namespace Context

/-- The least absolute value that rounding to nearest carries out of the range. -/
def threshold (ctx : Context) : ℚ :=
  (10 ^ ctx.precision - 1 / 2) * 10 ^ (ctx.emax + 1 - ctx.precision)

variable (ctx : Context)

theorem threshold_bounds :
    (10 : ℚ) ^ ctx.emax < ctx.threshold ∧ ctx.threshold < 10 ^ (ctx.emax + 1) := by
  have digits := ctx.precision_pos
  have unit : (0 : ℚ) < 10 ^ (ctx.emax + 1 - ctx.precision) := by positivity
  have low : (10 : ℚ) ^ ctx.emax = 10 ^ (ctx.precision - 1) * 10 ^ (ctx.emax + 1 - ctx.precision) :=
    ten_zpow_split (by omega)
  have high : (10 : ℚ) ^ (ctx.emax + 1) = 10 ^ ctx.precision * 10 ^ (ctx.emax + 1 - ctx.precision) :=
    ten_zpow_split (by omega)
  have next : (10 : ℚ) ^ ctx.precision = 10 * 10 ^ (ctx.precision - 1) := by
    rw [← pow_succ', Nat.sub_add_cancel digits]
  have one : (1 : ℚ) ≤ 10 ^ (ctx.precision - 1) := one_le_pow₀ (by norm_num)
  rw [low, high, threshold]
  exact ⟨mul_lt_mul_of_pos_right (by linarith) unit, mul_lt_mul_of_pos_right (by linarith) unit⟩

theorem overflow_iff (h : ctx.rounding = .nearest) (span : ctx.emin ≤ ctx.emax) (q : ℚ) :
    10 ^ (ctx.emax + 1) ≤ |ctx.correct q| ↔ ctx.threshold ≤ |q| := by
  have digits := ctx.precision_pos
  obtain ⟨low, high⟩ := ctx.threshold_bounds
  rcases lt_or_ge |q| (10 ^ ctx.emax) with small | atLeast
  · have inside := ctx.abs_correct_le small.le (by rw [etiny]; omega)
    have range : (10 : ℚ) ^ ctx.emax < 10 ^ (ctx.emax + 1) := low.trans high
    constructor <;> intro h <;> linarith
  rcases lt_or_ge |q| (10 ^ (ctx.emax + 1)) with within | outside
  · have positive : 0 < |q| := lt_of_lt_of_le (by positivity) atLeast
    have place : ctx.unitPlace q = ctx.emax + 1 - ctx.precision := by
      have leading : Int.log 10 |q| = ctx.emax := (log_ten_eq_iff positive _).mpr ⟨atLeast, within⟩
      rw [unitPlace, leading, etiny]
      omega
    have unit : (0 : ℚ) < 10 ^ (ctx.emax + 1 - ctx.precision) := by positivity
    have split : (10 : ℚ) ^ (ctx.emax + 1) =
        10 ^ ctx.precision * 10 ^ (ctx.emax + 1 - ctx.precision) := ten_zpow_split (by omega)
    have even : Even (10 ^ ctx.precision) := Nat.even_pow.mpr ⟨by decide, digits.ne'⟩
    have reaches := Rounding.le_abs_nearest_iff (x := q / 10 ^ (ctx.emax + 1 - ctx.precision)) even
    rw [abs_div, abs_of_pos unit, le_div_iff₀ unit] at reaches
    push_cast at reaches
    rw [correct, place, h, abs_mul, abs_of_pos unit, split, mul_le_mul_iff_left₀ unit]
    exact reaches
  · have carried := ctx.le_abs_correct outside (by rw [etiny]; omega)
    exact ⟨fun _ => high.le.trans outside, fun _ => carried⟩

end Context

end Reckoner
