import Mathlib
import Reckoner.Proofs.Sine.Series

/-! The table of the sine. Pi is the number that the series was summed to; it is compared with
the real pi by the difference of sine and cosine at a quarter of it, which a partial sum of their
series bounds. All other constants are quotients rounded once. -/

namespace Reckoner

theorem cast_abs_le {q ε : ℚ} {δ : ℝ} (h : |q| ≤ ε) (same : (ε : ℝ) = δ) : |(q : ℝ)| ≤ δ := by
  rw [← same, ← Rat.cast_abs]
  exact Rat.cast_le.mpr h

theorem cast_abs_sub_le {a b ε : ℚ} {δ : ℝ} (h : |a - b| ≤ ε) (same : (ε : ℝ) = δ) :
    |(a : ℝ) - b| ≤ δ := by
  rw [← Rat.cast_sub]
  exact cast_abs_le h same

namespace Sine

/-- Pi with the digits of the table. -/
def storedPi : Decimal where
  negative := false
  coefficient :=
    314159265358979323846264338327950288419716939937510582097494459230781640628620899862803482534211706798214808651328230665
  exponent := -119

theorem tableDigits_pos : 0 < tableDigits := by decide

def tableContext : Context := seriesContext tableDigits tableDigits_pos

theorem pi_tableContext : pi tableContext = .ok storedPi := by decide +kernel

theorem toRat_storedPi : storedPi.toRat = storedPi.coefficient / 10 ^ 119 := by
  rw [Decimal.toRat, storedPi, withSign_false, zpow_neg, div_eq_mul_inv]
  rfl

theorem abs_sub_quarter_pi_le {y : ℝ} (h0 : 0 ≤ y) (h1 : y ≤ 1) :
    |y - Real.pi / 4| ≤ 2 * |Real.sin y - Real.cos y| := by
  have lower := Real.pi_gt_three
  have upper := Real.pi_lt_four
  have shifted : Real.sin (y - Real.pi / 4) = √2 / 2 * (Real.sin y - Real.cos y) := by
    rw [Real.sin_sub, Real.cos_pi_div_four, Real.sin_pi_div_four]
    ring
  have root : √2 / 2 ≤ 1 := by
    have : √2 ≤ 2 := Real.sqrt_le_iff.mpr ⟨by norm_num, by norm_num⟩
    linarith
  have small : |Real.sin (y - Real.pi / 4)| ≤ |Real.sin y - Real.cos y| := by
    rw [shifted, abs_mul, abs_of_nonneg (by positivity : 0 ≤ √2 / 2)]
    exact mul_le_of_le_one_left (abs_nonneg _) root
  have steep := Real.mul_abs_le_abs_sin (x := y - Real.pi / 4)
    (abs_le.mpr ⟨by linarith, by linarith⟩)
  rw [div_mul_eq_mul_div, div_le_iff₀ Real.pi_pos] at steep
  nlinarith [abs_nonneg (Real.sin y - Real.cos y)]

/-- How far four times a number is from pi, by the gap between partial sums of sine and cosine at
the number. -/
theorem abs_four_mul_sub_pi_le {y ε : ℚ} (h0 : 0 ≤ y) (h1 : y ≤ 1) (count : ℕ)
    (gap : |y * polynomial (seriesCoefficients 1 count) (y ^ 2) -
      polynomial (seriesCoefficients 0 count) (y ^ 2)| ≤ ε) :
    |4 * (y : ℝ) - Real.pi| ≤ 8 * (ε + 2 / (2 * count).factorial) := by
  have unit : |y| ≤ 1 := abs_le.mpr ⟨by linarith, h1⟩
  have power : ∀ n : ℕ, |(y : ℝ)| ^ n ≤ 1 := fun n =>
    pow_le_one₀ (abs_nonneg _) (by exact_mod_cast unit)
  have sine : |Real.sin y - (y * polynomial (seriesCoefficients 1 count) (y ^ 2) : ℚ)| ≤
      1 / (2 * count).factorial := by
    have longer : ((2 * count).factorial : ℝ) ≤ (2 * count + 1).factorial := by
      exact_mod_cast Nat.factorial_le (Nat.le_succ _)
    exact (abs_sin_sub_le unit count).trans
      (div_le_div₀ zero_le_one (power _) (by positivity) longer)
  have cosine : |Real.cos y - (polynomial (seriesCoefficients 0 count) (y ^ 2) : ℚ)| ≤
      1 / (2 * count).factorial :=
    (abs_cos_sub_le unit count).trans (div_le_div_of_nonneg_right (power _) (by positivity))
  have gap' : |((y * polynomial (seriesCoefficients 1 count) (y ^ 2) : ℚ) : ℝ) -
      (polynomial (seriesCoefficients 0 count) (y ^ 2) : ℚ)| ≤ ε := cast_abs_sub_le gap rfl
  have quarter := abs_sub_quarter_pi_le (y := y) (by exact_mod_cast h0) (by exact_mod_cast h1)
  have twice : (2 : ℝ) / (2 * count).factorial = 2 * (1 / (2 * count).factorial) := by ring
  have difference : |Real.sin y - Real.cos y| ≤ ε + 2 / (2 * count).factorial := by
    rw [twice]
    rw [abs_le] at gap' sine cosine ⊢
    constructor <;> linarith
  rw [abs_le] at quarter ⊢
  constructor <;> linarith

/-- Pi to two more digits than the table holds. -/
def finerPi : ℚ := storedPi.toRat - 29 / 10 ^ 121

theorem abs_finerPi_sub_pi_le : |(finerPi : ℝ) - Real.pi| ≤ 1 / 10 ^ 121 := by
  have bounds : 0 ≤ finerPi / 4 ∧ finerPi / 4 ≤ 1 := by
    rw [finerPi, toRat_storedPi]
    decide +kernel
  have gap : |finerPi / 4 * polynomial (seriesCoefficients 1 41) ((finerPi / 4) ^ 2) -
      polynomial (seriesCoefficients 0 41) ((finerPi / 4) ^ 2)| ≤ 5 / 10 ^ 123 := by
    rw [finerPi, toRat_storedPi]
    decide +kernel
  have close := abs_four_mul_sub_pi_le bounds.1 bounds.2 41 gap
  have split : (finerPi : ℝ) = 4 * ((finerPi / 4 : ℚ) : ℝ) := by
    push_cast
    ring
  rw [split]
  refine close.trans ?_
  norm_num [Nat.factorial]

/-- The stored pi is above pi, by about three units of the place after its last one. -/
theorem storedPi_sub_pi_bounds :
    28 / 10 ^ 121 ≤ (storedPi.toRat : ℝ) - Real.pi ∧
      (storedPi.toRat : ℝ) - Real.pi ≤ 30 / 10 ^ 121 := by
  have close := abs_le.mp abs_finerPi_sub_pi_le
  have split : (finerPi : ℝ) = storedPi.toRat - 29 / 10 ^ 121 := by
    rw [finerPi]
    push_cast
    ring
  rw [split] at close
  constructor <;> linarith

theorem abs_storedPi_sub_pi_le : |(storedPi.toRat : ℝ) - Real.pi| ≤ 1 / 10 ^ 30 := by
  have bounds := storedPi_sub_pi_bounds
  rw [abs_le]
  constructor <;> linarith

/-- An error far under the accuracy of the polynomials. -/
def tolerance : ℚ := 1 / 10 ^ 90

/-- A context with digits to spare over the accuracy of the sine. -/
structure Fine (ctx : Context) : Prop where
  digits : 100 ≤ ctx.precision
  below : ctx.emin ≤ -1
  above : ctx.precision ≤ ctx.emax + 1

theorem tableContext_fine : Fine tableContext := ⟨by decide, by decide, by decide⟩

section Fine

variable {ctx : Context} (fine : Fine ctx)
include fine

theorem Fine.unit_le : (10 : ℚ) ^ (1 - ctx.precision : ℤ) ≤ 1 / 10 ^ 99 := by
  have digits := fine.digits
  have power : (1 / 10 ^ 99 : ℚ) = 10 ^ (-99 : ℤ) := by
    rw [zpow_neg, one_div]
    rfl
  rw [power]
  exact zpow_le_zpow_right₀ (by norm_num) (by omega)

theorem Fine.le_power {q : ℚ} (small : |q| ≤ 10) : |q| ≤ 10 ^ (ctx.precision - 1 : ℤ) := by
  have digits := fine.digits
  refine small.trans ?_
  calc (10 : ℚ) = 10 ^ (1 : ℤ) := by norm_num
    _ ≤ 10 ^ (ctx.precision - 1 : ℤ) := zpow_le_zpow_right₀ (by norm_num) (by omega)

/-- An operation on small numbers gives nearly its exact result. -/
theorem Fine.exists_close {r : Except Signal Decimal} {q : ℚ}
    (h : r.map Decimal.toRat = ctx.roundRat q) (small : |q| ≤ 10) :
    ∃ d, r = .ok d ∧ d.toRat = ctx.correct q ∧ |d.toRat - q| ≤ tolerance := by
  obtain ⟨d, delivered, value, error⟩ :=
    exists_near ctx fine.below fine.above h (fine.le_power small)
  refine ⟨d, delivered, value, error.trans ?_⟩
  calc (|q| + 1 / 10) * 10 ^ (1 - ctx.precision : ℤ) ≤ (10 + 1 / 10) * (1 / 10 ^ 99) :=
        mul_le_mul (by linarith) fine.unit_le (by positivity) (by norm_num)
    _ ≤ tolerance := by norm_num [tolerance]

/-- Within the unit, so is what is delivered. -/
theorem Fine.exists_unit {r : Except Signal Decimal} {q : ℚ}
    (h : r.map Decimal.toRat = ctx.roundRat q) (small : |q| ≤ 1) :
    ∃ d, r = .ok d ∧ d.toRat = ctx.correct q ∧ |d.toRat - q| ≤ tolerance ∧ |d.toRat| ≤ 1 := by
  obtain ⟨d, delivered, value, close⟩ := fine.exists_close h (small.trans (by norm_num))
  refine ⟨d, delivered, value, close, ?_⟩
  have digits := fine.digits
  have below := fine.below
  have unit : |ctx.correct q| ≤ 10 ^ (0 : ℤ) :=
    ctx.abs_correct_le (by rwa [zpow_zero]) (by rw [Context.etiny]; omega)
  rwa [zpow_zero, ← value] at unit

end Fine

/-- The numbers of a table, against pi and the exact coefficients. -/
structure Table.Accurate (t : Table) : Prop where
  pi : t.pi = storedPi
  halfPi : |t.halfPi.toRat - storedPi.toRat / 2| ≤ tolerance
  quarterPi : |t.quarterPi.toRat - storedPi.toRat / 4| ≤ tolerance
  sine : List.Forall₂ (fun q c => |c.toRat - q| ≤ tolerance ∧ |c.toRat| ≤ 1)
    (seriesCoefficients 1 termCount) t.sineCoefficients
  cosine : List.Forall₂ (fun q c => |c.toRat - q| ≤ tolerance ∧ |c.toRat| ≤ 1)
    (seriesCoefficients 0 termCount) t.cosineCoefficients

theorem factorial_eq (n : ℕ) : factorial n = n.factorial := by
  induction n with
  | zero => rfl
  | succ n ih => rw [factorial, ih, Nat.factorial_succ]

theorem exists_coefficient {ctx : Context} (fine : Fine ctx) (offset k : ℕ) :
    ∃ c, coefficient ctx offset k = .ok c ∧
      |c.toRat - seriesCoefficient offset k| ≤ tolerance ∧ |c.toRat| ≤ 1 := by
  have sign : Decimal.toRat ⟨k % 2 == 1, 1, 0⟩ = (-1) ^ k := by
    rcases Nat.even_or_odd k with even | odd
    · simp [Decimal.toRat, even.neg_one_pow, Nat.even_iff.mp even]
    · simp [Decimal.toRat, odd.neg_one_pow, Nat.odd_iff.mp odd]
  have nonzero : (Decimal.ofNat (factorial (2 * k + offset))).isZero = false := by
    rw [factorial_eq]
    simpa [Decimal.isZero, Decimal.ofNat] using Nat.factorial_ne_zero _
  have value : (coefficient ctx offset k).map Decimal.toRat =
      ctx.roundRat (seriesCoefficient offset k) := by
    rw [coefficient, ctx.div_map_toRat _ _ nonzero, sign, Decimal.toRat_ofNat, factorial_eq]
    rfl
  obtain ⟨c, delivered, -, close⟩ := fine.exists_unit value (abs_seriesCoefficient_le offset k)
  exact ⟨c, delivered, close⟩

theorem exists_coefficients {ctx : Context} (fine : Fine ctx) (offset : ℕ) :
    ∃ cs, coefficients ctx offset = .ok cs ∧
      List.Forall₂ (fun q c => |c.toRat - q| ≤ tolerance ∧ |c.toRat| ≤ 1)
        (seriesCoefficients offset termCount) cs := by
  obtain ⟨cs, delivered, each⟩ := exists_mapM fun k (_ : k ∈ List.range termCount) =>
    exists_coefficient fine offset k
  exact ⟨cs, delivered, List.forall₂_map_left_iff.mpr each⟩

/-- The table exists, and all its numbers are what they stand for. -/
theorem exists_table : ∃ t, table = .ok t ∧ t.Accurate := by
  have fine := tableContext_fine
  have size : |storedPi.toRat| ≤ 4 := by
    rw [toRat_storedPi]
    decide +kernel
  have small : ∀ n : ℕ, 0 < n → |storedPi.toRat / (Decimal.ofNat n).toRat| ≤ 10 := by
    intro n positive
    have one : (1 : ℚ) ≤ n := by exact_mod_cast positive
    rw [Decimal.toRat_ofNat, abs_div, Nat.abs_cast, div_le_iff₀ (by linarith)]
    linarith
  obtain ⟨half, halved, -, halfClose⟩ := fine.exists_close
    (tableContext.div_map_toRat storedPi (.ofNat 2) rfl) (small 2 (by decide))
  obtain ⟨quarter, quartered, -, quarterClose⟩ := fine.exists_close
    (tableContext.div_map_toRat storedPi (.ofNat 4) rfl) (small 4 (by decide))
  obtain ⟨sines, sineList, sineClose⟩ := exists_coefficients fine 1
  obtain ⟨cosines, cosineList, cosineClose⟩ := exists_coefficients fine 0
  refine ⟨⟨storedPi, half, quarter, sines, cosines⟩, ?_, rfl, ?_, ?_, sineClose, cosineClose⟩
  · show Table.build tableContext = _
    rw [Table.build, pi_tableContext]
    show (tableContext.div storedPi (.ofNat 2) >>= fun _ => _) = _
    rw [halved, quartered, sineList, cosineList]
    rfl
  · simpa [Decimal.toRat_ofNat] using halfClose
  · simpa [Decimal.toRat_ofNat] using quarterClose

end Sine

end Reckoner
