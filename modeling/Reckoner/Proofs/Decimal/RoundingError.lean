import Mathlib
import Reckoner.Proofs.Decimal.Arithmetic

/-! How far a rounded number lies from the exact one: less than one unit of its last place, which
is a fixed part of the number itself unless the number is as small as the least place of the
context. The bounds hold in every direction of rounding. -/

namespace Reckoner

theorem Rounding.abs_toInteger_sub_le (mode : Rounding) (x : ℚ) : |mode.toInteger x - x| ≤ 1 := by
  have lower : (⌊x⌋ : ℚ) ≤ mode.toInteger x := by exact_mod_cast mode.floor_le_toInteger x
  have upper : (mode.toInteger x : ℚ) ≤ ⌈x⌉ := by exact_mod_cast mode.toInteger_le_ceil x
  have floor := Int.sub_one_lt_floor x
  have ceil := Int.ceil_lt_add_one x
  rw [abs_le]
  constructor <;> linarith

namespace Context

variable (ctx : Context) {q : ℚ} {place : ℤ}

theorem correct_sub_eq (q : ℚ) :
    ctx.correct q - q = (ctx.rounding.toInteger (q / 10 ^ ctx.unitPlace q) -
      q / 10 ^ ctx.unitPlace q) * 10 ^ ctx.unitPlace q := by
  have unit : (0 : ℚ) < 10 ^ ctx.unitPlace q := by positivity
  rw [correct, sub_mul, div_mul_cancel₀ _ unit.ne']

theorem abs_correct_sub_le_unit (q : ℚ) : |ctx.correct q - q| ≤ 10 ^ ctx.unitPlace q := by
  have unit : (0 : ℚ) < 10 ^ ctx.unitPlace q := by positivity
  rw [correct_sub_eq, abs_mul, abs_of_pos unit]
  exact mul_le_of_le_one_left unit.le (ctx.rounding.abs_toInteger_sub_le _)

theorem abs_correct_sub_le (q : ℚ) :
    |ctx.correct q - q| ≤ |q| * 10 ^ (1 - ctx.precision : ℤ) + 10 ^ ctx.etiny := by
  by_cases zero : q = 0
  · rw [zero, correct_zero, sub_zero, abs_zero, zero_mul, zero_add]
    positivity
  have leading := ten_zpow_log_le (abs_pos.mpr zero)
  have place : (10 : ℚ) ^ (Int.log 10 |q| - ctx.precision + 1) =
      10 ^ Int.log 10 |q| * 10 ^ (1 - ctx.precision : ℤ) := by
    rw [← zpow_add₀ (by norm_num)]
    congr 1
    ring
  have least : (0 : ℚ) < 10 ^ ctx.etiny := by positivity
  have relative : (0 : ℚ) < 10 ^ (1 - ctx.precision : ℤ) := by positivity
  refine (ctx.abs_correct_sub_le_unit q).trans ?_
  have grown := mul_le_mul_of_nonneg_right leading relative.le
  rcases max_choice (Int.log 10 |q| - ctx.precision + 1) ctx.etiny with h | h
  · rw [unitPlace, h, place]
    linarith
  · rw [unitPlace, h]
    have := mul_pos (abs_pos.mpr zero) relative
    linarith

theorem le_correct_of_mem_numbers {y : ℚ} (hy : y ∈ ctx.numbers) (le : y ≤ q) :
    y ≤ ctx.correct q := by
  refine (ctx.le_floor_of_mem_numbers hy le).trans ?_
  have below : ((⌊q / 10 ^ ctx.unitPlace q⌋ : ℤ) : ℚ) ≤
      ctx.rounding.toInteger (q / 10 ^ ctx.unitPlace q) := by
    exact_mod_cast ctx.rounding.floor_le_toInteger _
  exact mul_le_mul_of_nonneg_right below (by positivity)

/-- Rounding does not pass a power of ten. -/
theorem abs_correct_le (small : |q| ≤ 10 ^ place) (least : ctx.etiny ≤ place) :
    |ctx.correct q| ≤ 10 ^ place := by
  have power := ctx.zpow_mem_numbers least
  rw [abs_le] at small ⊢
  exact ⟨ctx.le_correct_of_mem_numbers (ctx.neg_mem_numbers power) small.1,
    ctx.correct_le_of_mem_numbers power small.2⟩

/-- Nor does it fall below one. -/
theorem le_abs_correct (large : 10 ^ place ≤ |q|) (least : ctx.etiny ≤ place) :
    10 ^ place ≤ |ctx.correct q| := by
  have power := ctx.zpow_mem_numbers least
  rcases le_abs.mp large with positive | negative
  · exact (ctx.le_correct_of_mem_numbers power positive).trans (le_abs_self _)
  · have := ctx.correct_le_of_mem_numbers (ctx.neg_mem_numbers power) (by linarith)
    exact le_abs.mpr (.inr (by linarith))

/-- What an operation delivers when its exact result is far from the end of the range. -/
theorem exists_rounded {r : Except Signal Decimal} (h : r.map Decimal.toRat = ctx.roundRat q)
    (small : |q| ≤ 10 ^ place) (least : ctx.etiny ≤ place) (range : place ≤ ctx.emax) :
    ∃ d, r = .ok d ∧ d.toRat = ctx.correct q := by
  refine ctx.delivers_inside h ((ctx.abs_correct_le small least).trans_lt ?_)
  exact zpow_lt_zpow_right₀ (by norm_num) (by omega)

end Context

end Reckoner
