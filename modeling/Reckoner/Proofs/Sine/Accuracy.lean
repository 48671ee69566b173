import Mathlib
import Reckoner.Evaluator.Basic
import Reckoner.Proofs.Sine.Reduction
import Reckoner.Proofs.Sine.Table

/-! The accuracy of the sine. The reduced angle is exact up to the stored pi; the fold and the
complement add errors of the size of the stored pi's own, the polynomials those of their rounded
steps, and the first term left out outweighs all of them. The angle may be rounded across either
boundary between the branches, so each branch is bounded a little beyond its own range. -/

namespace Reckoner.Sine

theorem storedPi_bounds : 157 / 50 ≤ storedPi.toRat ∧ storedPi.toRat ≤ 1571 / 500 := by
  rw [toRat_storedPi]
  decide +kernel

section Turned

variable {a b : ℚ}

/-- Sines of an angle and of nearly its complement to a half turn. -/
theorem abs_sin_sub_sin_of_supplement (near : |a + b - storedPi.toRat| ≤ 1 / 10 ^ 30) :
    |Real.sin a - Real.sin b| ≤ 2 / 10 ^ 30 := by
  have stored := abs_storedPi_sub_pi_le
  have sides : |((a + b - storedPi.toRat : ℚ) : ℝ)| ≤ 1 / 10 ^ 30 := cast_abs_le near (by norm_num)
  push_cast at sides
  rw [← Real.sin_pi_sub]
  refine (Real.abs_sin_sub_sin_le _ _).trans ?_
  rw [abs_le] at sides stored ⊢
  constructor <;> linarith

/-- Cosine of an angle and sine of nearly its complement. -/
theorem abs_cos_sub_sin_of_complement (near : |a + b - storedPi.toRat / 2| ≤ 1 / 10 ^ 30) :
    |Real.cos a - Real.sin b| ≤ 2 / 10 ^ 30 := by
  have stored := abs_storedPi_sub_pi_le
  have sides : |((a + b - storedPi.toRat / 2 : ℚ) : ℝ)| ≤ 1 / 10 ^ 30 :=
    cast_abs_le near (by norm_num)
  push_cast at sides
  rw [← Real.sin_pi_div_two_sub]
  refine (Real.abs_sin_sub_sin_le _ _).trans ?_
  rw [abs_le] at sides stored ⊢
  constructor <;> linarith

end Turned

section Truncation

variable {a : ℚ} (small : |a| ≤ 4 / 5)
include small

theorem abs_pow_div_factorial_le (n : ℕ) :
    |(a : ℝ)| ^ n / n.factorial ≤ (4 / 5) ^ n / n.factorial := by
  have bound : |(a : ℝ)| ≤ 4 / 5 := cast_abs_le small (by norm_num)
  exact div_le_div_of_nonneg_right (pow_le_pow_left₀ (abs_nonneg _) bound n) (by positivity)

theorem sine_truncated :
    |Real.sin a - (a * polynomial (seriesCoefficients 1 termCount) (a ^ 2) : ℚ)| ≤ 3 / 10 ^ 22 := by
  refine (abs_sin_sub_le (small.trans (by norm_num)) termCount).trans
    ((abs_pow_div_factorial_le small _).trans ?_)
  norm_num [termCount, Nat.factorial]

theorem cosine_truncated :
    |Real.cos a - (polynomial (seriesCoefficients 0 termCount) (a ^ 2) : ℚ)| ≤ 5 / 10 ^ 21 := by
  refine (abs_cos_sub_le (small.trans (by norm_num)) termCount).trans
    ((abs_pow_div_factorial_le small _).trans ?_)
  norm_num [termCount, Nat.factorial]

end Truncation

section Quadrant

variable {ctx : Context} (fine : Fine ctx)
include fine

/-- Either polynomial at the rounded square of an angle. -/
theorem exists_series {offset : ℕ} {cs : List Decimal}
    (close : List.Forall₂ (fun q c => |c.toRat - q| ≤ tolerance ∧ |c.toRat| ≤ 1)
      (seriesCoefficients offset termCount) cs)
    {angle : Decimal} (small : |angle.toRat| ≤ 4 / 5) :
    ∃ square series, ctx.mul angle angle = .ok square ∧ horner ctx square cs = .ok series ∧
      |series.toRat - polynomial (seriesCoefficients offset termCount) (angle.toRat ^ 2)| ≤
        1 / 10 ^ 80 := by
  have digits := fine.digits
  have below := fine.below
  have above := fine.above
  have unit : |angle.toRat ^ 2| ≤ 1 := by
    rw [abs_pow]
    exact pow_le_one₀ (abs_nonneg _) (small.trans (by norm_num))
  obtain ⟨square, squared, value, squareError, squareUnit⟩ := fine.exists_unit
    (q := angle.toRat ^ 2) (by rw [ctx.mul_map_toRat, pow_two]) unit
  have squareNonneg : 0 ≤ square.toRat := value ▸ ctx.correct_nonneg (sq_nonneg _)
  have length : (cs.length : ℚ) = 10 := by
    rw [← close.length_eq, length_seriesCoefficients]
    rfl
  have few : 10 * (cs.length : ℚ) ≤ 10 ^ (ctx.precision - 1 : ℤ) := by
    rw [length]
    calc (10 : ℚ) * 10 = 10 ^ (2 : ℤ) := by norm_num
      _ ≤ 10 ^ (ctx.precision - 1 : ℤ) := zpow_le_zpow_right₀ (by norm_num) (by omega)
  have bounded : ∀ c ∈ cs, |c.toRat| ≤ 1 := by
    intro c member
    obtain ⟨i, hi, rfl⟩ := List.getElem_of_mem member
    exact (close.get (close.length_eq ▸ hi) hi).2
  obtain ⟨series, computed, rounding⟩ :=
    exists_horner ctx below above cs bounded squareNonneg ((le_abs_self _).trans squareUnit) few
  have coefficients : List.Forall₂ (fun c d : ℚ => |c - d| ≤ tolerance)
      (cs.map Decimal.toRat) (seriesCoefficients offset termCount) :=
    List.forall₂_map_left_iff.mpr (close.imp fun _ _ h => h.1).flip
  have moved := abs_polynomial_sub_le_of_close coefficients squareUnit
  have shifted := abs_polynomial_sub_le (abs_le_of_mem_seriesCoefficients offset termCount)
    squareUnit unit
  rw [List.length_map, length] at moved
  rw [close.length_eq, length] at shifted
  rw [length] at rounding
  refine ⟨square, series, squared, computed, ?_⟩
  have units := fine.unit_le
  have argument := mul_le_mul_of_nonneg_left squareError (by norm_num : (0 : ℚ) ≤ 10 ^ 2)
  have errors : 2 * 10 ^ 2 * (1 / 10 ^ 99) + 10 * tolerance + 10 ^ 2 * tolerance ≤
      (1 / 10 ^ 80 : ℚ) := by norm_num [tolerance]
  rw [abs_le] at rounding moved shifted ⊢
  constructor <;> linarith

/-- Up to a quarter of pi the sine polynomial is used. -/
theorem exists_quadrant_near {t : Table} (accurate : t.Accurate) {angle : Decimal}
    (near : ¬t.quarterPi.below angle) (small : |angle.toRat| ≤ 4 / 5) :
    ∃ d, quadrant ctx t angle = .ok d ∧ |(d.toRat : ℝ) - Real.sin angle.toRat| ≤ 1 / 10 ^ 21 := by
  obtain ⟨square, series, squared, computed, error⟩ := exists_series fine accurate.sine small
  obtain ⟨p, hp⟩ : ∃ p, p = polynomial (seriesCoefficients 1 termCount) (angle.toRat ^ 2) :=
    ⟨_, rfl⟩
  have bounded : |p| ≤ 10 := by
    have := abs_polynomial_le (abs_le_of_mem_seriesCoefficients 1 termCount) (s := angle.toRat ^ 2)
      (by rw [abs_pow]; exact pow_le_one₀ (abs_nonneg _) (small.trans (by norm_num)))
    rwa [length_seriesCoefficients, ← hp] at this
  rw [← hp] at error
  have scaled : |angle.toRat * series.toRat - angle.toRat * p| ≤ 1 / 10 ^ 80 := by
    rw [← mul_sub, abs_mul]
    exact (mul_le_of_le_one_left (abs_nonneg _) (small.trans (by norm_num))).trans error
  have exact : |angle.toRat * p| ≤ 8 := by
    rw [abs_mul]
    nlinarith [abs_nonneg angle.toRat]
  obtain ⟨d, delivered, -, close⟩ := fine.exists_close (ctx.mul_map_toRat angle series)
    (by rw [abs_le] at exact scaled ⊢; constructor <;> linarith)
  refine ⟨d, ?_, ?_⟩
  · rw [quadrant, if_neg near, squared]
    show (horner ctx square t.sineCoefficients >>= fun series => ctx.mul angle series) = .ok d
    rw [computed]
    exact delivered
  · have rounded : |d.toRat - angle.toRat * p| ≤ 1 / 10 ^ 79 := by
      have errors : tolerance + 1 / 10 ^ 80 ≤ 1 / 10 ^ 79 := by norm_num [tolerance]
      rw [abs_le] at scaled close ⊢
      constructor <;> linarith
    have rounded' : |(d.toRat : ℝ) - (angle.toRat * p : ℚ)| ≤ 1 / 10 ^ 79 :=
      cast_abs_sub_le rounded (by norm_num)
    have truncated := sine_truncated small
    rw [← hp] at truncated
    rw [abs_le] at rounded' truncated ⊢
    constructor <;> linarith

/-- Beyond, the cosine polynomial of the complement is used. -/
theorem exists_quadrant_far {t : Table} (accurate : t.Accurate) {angle : Decimal}
    (far : t.quarterPi.below angle) (upper : angle.toRat ≤ storedPi.toRat / 2 + 3 * tolerance) :
    ∃ d, quadrant ctx t angle = .ok d ∧ |(d.toRat : ℝ) - Real.sin angle.toRat| ≤ 6 / 10 ^ 21 := by
  have lower := Decimal.below_iff.mp far
  have halfPi := accurate.halfPi
  have quarterPi := accurate.quarterPi
  have bounds := storedPi_bounds
  have fuzz : tolerance ≤ 1 / 10 ^ 40 := by norm_num [tolerance]
  obtain ⟨complement, subtracted, -, near⟩ := fine.exists_close (ctx.sub_map_toRat t.halfPi angle)
    (by rw [abs_le] at halfPi quarterPi ⊢; constructor <;> linarith)
  have small : |complement.toRat| ≤ 4 / 5 := by
    rw [abs_le] at halfPi quarterPi near ⊢
    constructor <;> linarith
  obtain ⟨square, d, squared, computed, error⟩ := exists_series fine accurate.cosine small
  refine ⟨d, ?_, ?_⟩
  · rw [quadrant, if_pos far, subtracted]
    show (ctx.mul complement complement >>= fun square => horner ctx square t.cosineCoefficients) =
      .ok d
    rw [squared]
    exact computed
  · have sides : |complement.toRat + angle.toRat - storedPi.toRat / 2| ≤ 1 / 10 ^ 30 := by
      rw [abs_le] at halfPi near ⊢
      constructor <;> linarith
    have turned := abs_cos_sub_sin_of_complement sides
    have truncated := cosine_truncated small
    have computed' : |(d.toRat : ℝ) - (polynomial (seriesCoefficients 0 termCount)
        (complement.toRat ^ 2) : ℚ)| ≤ 1 / 10 ^ 80 := cast_abs_sub_le error (by norm_num)
    rw [abs_le] at turned truncated computed' ⊢
    constructor <;> linarith

theorem exists_quadrant {t : Table} (accurate : t.Accurate) {angle : Decimal}
    (lower : -tolerance ≤ angle.toRat) (upper : angle.toRat ≤ storedPi.toRat / 2 + 3 * tolerance) :
    ∃ d, quadrant ctx t angle = .ok d ∧ |(d.toRat : ℝ) - Real.sin angle.toRat| ≤ 6 / 10 ^ 21 := by
  have fuzz : tolerance ≤ 1 / 10 ^ 40 := by norm_num [tolerance]
  by_cases far : t.quarterPi.below angle
  · exact exists_quadrant_far fine accurate far upper
  · have less : angle.toRat ≤ t.quarterPi.toRat := by
      rw [Decimal.below_iff] at far
      exact not_lt.mp far
    have quarterPi := accurate.quarterPi
    have bounds := storedPi_bounds
    have small : |angle.toRat| ≤ 4 / 5 := by
      rw [abs_le] at quarterPi ⊢
      constructor <;> linarith
    obtain ⟨d, delivered, error⟩ := exists_quadrant_near fine accurate far small
    exact ⟨d, delivered, error.trans (by norm_num)⟩

/-- The fold into the first quadrant. -/
theorem exists_folded {t : Table} (accurate : t.Accurate) {reduced : Decimal}
    (nonneg : 0 ≤ reduced.toRat) (below : reduced.toRat < storedPi.toRat) :
    ∃ f, (if t.halfPi.below reduced then ctx.sub t.pi reduced else .ok reduced) = .ok f ∧
      -tolerance ≤ f.toRat ∧ f.toRat ≤ storedPi.toRat / 2 + 3 * tolerance ∧
      |Real.sin f.toRat - Real.sin reduced.toRat| ≤ 2 / 10 ^ 30 := by
  have halfPi := accurate.halfPi
  have bounds := storedPi_bounds
  have positive : 0 ≤ tolerance := by norm_num [tolerance]
  by_cases far : t.halfPi.below reduced
  · have more := Decimal.below_iff.mp far
    obtain ⟨f, folded, -, near⟩ := fine.exists_close (ctx.sub_map_toRat t.pi reduced)
      (by rw [accurate.pi, abs_le]; constructor <;> linarith)
    rw [accurate.pi] at near
    refine ⟨f, by rw [if_pos far, folded], ?_, ?_, ?_⟩
    · linarith [(abs_le.mp near).1]
    · linarith [(abs_le.mp near).2, (abs_le.mp halfPi).1]
    · have sides : |f.toRat + reduced.toRat - storedPi.toRat| ≤ 1 / 10 ^ 30 := by
        have fuzz : tolerance ≤ 1 / 10 ^ 30 := by norm_num [tolerance]
        rw [abs_le] at near ⊢
        constructor <;> linarith
      exact abs_sin_sub_sin_of_supplement sides
  · refine ⟨reduced, if_neg far, by linarith, ?_, ?_⟩
    · rw [Decimal.below_iff, not_lt] at far
      linarith [(abs_le.mp halfPi).2]
    · rw [sub_self, abs_zero]
      positivity

/-- The sign is put on with one more rounding. -/
theorem exists_signed (negative : Bool) {result : Decimal} {y : ℝ} (unit : |y| ≤ 1)
    (error : |(result.toRat : ℝ) - y| ≤ 7 / 10 ^ 21) :
    ∃ d, (if negative then ctx.minus result else ctx.plus result) = .ok d ∧
      |(d.toRat : ℝ) - withSign negative y| ≤ 8 / 10 ^ 21 := by
  have small : |result.toRat| ≤ 10 := by
    have : |(result.toRat : ℝ)| ≤ 10 := by
      rw [abs_le] at unit error ⊢
      constructor <;> linarith
    rw [← Rat.cast_abs] at this
    exact_mod_cast this
  have fuzz : ((tolerance : ℚ) : ℝ) = 1 / 10 ^ 90 := by norm_num [tolerance]
  cases negative with
  | false =>
    obtain ⟨d, delivered, -, near⟩ := fine.exists_close (ctx.plus_map_toRat result) small
    have near' := cast_abs_sub_le near fuzz
    refine ⟨d, delivered, ?_⟩
    rw [withSign_false]
    rw [abs_le] at near' error ⊢
    constructor <;> linarith
  | true =>
    obtain ⟨d, delivered, -, near⟩ := fine.exists_close (ctx.minus_map_toRat result)
      (by rwa [abs_neg])
    have near' := cast_abs_sub_le near fuzz
    push_cast at near'
    refine ⟨d, delivered, ?_⟩
    rw [withSign_true]
    rw [abs_le] at near' error ⊢
    constructor <;> linarith

end Quadrant

/-- The number of whole times that an angle holds pi. -/
def turns (pi angle : ℚ) : ℤ := ⌊angle / pi⌋

/-- What is left of an angle then. -/
def residue (pi angle : ℚ) : ℚ := angle - turns pi angle * pi

theorem residue_bounds {pi : ℚ} (positive : 0 < pi) (angle : ℚ) :
    0 ≤ residue pi angle ∧ residue pi angle < pi := by
  have lower := (le_div_iff₀ positive).mp (Int.floor_le (angle / pi))
  have upper := (div_lt_iff₀ positive).mp (Int.lt_floor_add_one (angle / pi))
  rw [residue, turns]
  constructor <;> linarith

/-- The sign of the angle and the parity of the turns together. -/
theorem withSign_turns {negative odd : Bool} {k : ℤ} (parity : odd = true ↔ Odd k) (y : ℝ) :
    withSign (negative != odd) y = withSign negative ((-1) ^ k * y) := by
  cases odd with
  | false =>
    have even : Even k := Int.not_odd_iff_even.mp fun h => absurd (parity.mpr h) (by decide)
    rw [Bool.bne_false, even.neg_one_zpow, one_mul]
  | true =>
    rw [(parity.mp rfl).neg_one_zpow, neg_one_mul]
    cases negative <;> simp

theorem abs_signed_le (negative : Bool) (k : ℤ) {y : ℝ} (unit : |y| ≤ 1) :
    |withSign negative ((-1) ^ k * y)| ≤ 1 := by
  have parity : decide (Odd k) = true ↔ Odd k := decide_eq_true_iff
  rw [← withSign_turns parity]
  cases negative != decide (Odd k)
  · exact unit
  · rwa [withSign_true, abs_neg]

theorem withTable_eq (ctx : Context) (t : Table) (x : Decimal) :
    withTable ctx t x =
      ((if t.halfPi.below (reduceModuloPi x.abs t.pi).1 then
          ctx.sub t.pi (reduceModuloPi x.abs t.pi).1 else .ok (reduceModuloPi x.abs t.pi).1) >>=
        fun folded => quadrant ctx t folded >>= fun result =>
          if x.negative != (reduceModuloPi x.abs t.pi).2 then ctx.minus result
          else ctx.plus result) := by
  unfold withTable
  split
  rename_i h
  rw [h]
  dsimp only
  split <;> rfl

theorem exists_withTable_near {ctx : Context} (fine : Fine ctx) {t : Table} (accurate : t.Accurate)
    (x : Decimal) :
    ∃ d, withTable ctx t x = .ok d ∧
      |(d.toRat : ℝ) - withSign x.negative ((-1) ^ turns t.pi.toRat |x.toRat| *
        Real.sin (residue t.pi.toRat |x.toRat|))| ≤ 8 / 10 ^ 21 := by
  have positive : 0 < t.pi.toRat := by
    rw [accurate.pi]
    linarith [storedPi_bounds.1]
  obtain ⟨exact, parity⟩ := reduceModuloPi_exact (Decimal.toRat_nonneg_of (d := x.abs) rfl) positive
  rw [Decimal.toRat_abs] at exact parity
  obtain ⟨nonneg, below⟩ := residue_bounds positive |x.toRat|
  have same : (reduceModuloPi x.abs t.pi).1.toRat = residue t.pi.toRat |x.toRat| := exact
  rw [← same] at nonneg below
  obtain ⟨f, folded, lower, upper, turned⟩ :=
    exists_folded fine accurate nonneg (below.trans_eq (congrArg _ accurate.pi))
  obtain ⟨result, computed, error⟩ := exists_quadrant fine accurate lower upper
  have total : |(result.toRat : ℝ) - Real.sin (residue t.pi.toRat |x.toRat|)| ≤ 7 / 10 ^ 21 := by
    rw [← same]
    rw [abs_le] at turned error ⊢
    constructor <;> linarith
  obtain ⟨d, delivered, close⟩ := exists_signed fine (x.negative != (reduceModuloPi x.abs t.pi).2)
    (Real.abs_sin_le_one _) total
  refine ⟨d, ?_, ?_⟩
  · rw [withTable_eq, folded]
    show (quadrant ctx t f >>= fun result => if x.negative != (reduceModuloPi x.abs t.pi).2 then
      ctx.minus result else ctx.plus result) = .ok d
    rw [computed]
    exact delivered
  · rwa [withSign_turns parity] at close

theorem exists_withTable {ctx : Context} (fine : Fine ctx) {t : Table} (accurate : t.Accurate)
    (x : Decimal) :
    ∃ d, withTable ctx t x = .ok d ∧
      |(d.toRat : ℝ) - withSign x.negative ((-1) ^ turns t.pi.toRat |x.toRat| *
        Real.sin (residue t.pi.toRat |x.toRat|))| ≤ 1 / 10 ^ 20 := by
  obtain ⟨d, delivered, close⟩ := exists_withTable_near fine accurate x
  exact ⟨d, delivered, close.trans (by norm_num)⟩

theorem context_fine (ev : Evaluator) : Fine ev.context := by
  refine ⟨?_, ?_, ?_⟩ <;> cases ev.precision <;> simp [Evaluator.context, Precision.digits]

/-- The sine of any decimal against the real sine of the angle reduced by the stored pi. -/
theorem sine_accurate (ev : Evaluator) (x : Decimal) :
    ∃ t d, table = .ok t ∧ digitCount t.pi.coefficient = tableDigits ∧
      sine ev.context x = .ok d ∧
      |(d.toRat : ℝ) - withSign x.negative ((-1) ^ turns t.pi.toRat |x.toRat| *
        Real.sin (residue t.pi.toRat |x.toRat|))| ≤ 1 / 10 ^ 20 ∧
      |d.toRat| ≤ 1 + 1 / 10 ^ 20 := by
  obtain ⟨t, built, accurate⟩ := exists_table
  have digits : digitCount t.pi.coefficient = tableDigits := by
    rw [accurate.pi]
    decide +kernel
  by_cases zero : x.isZero
  · refine ⟨t, .zero, built, digits, if_pos zero, ?_, ?_⟩
    · have angle : x.toRat = 0 := (x.toRat_eq_zero_iff).mpr zero
      have sign : withSign x.negative (0 : ℝ) = 0 := by cases x.negative <;> simp
      simp [angle, residue, turns, sign, Decimal.zero, Decimal.toRat_ofNat]
    · rw [Decimal.zero, Decimal.toRat_ofNat]
      norm_num
  · obtain ⟨d, delivered, close⟩ := exists_withTable (context_fine ev) accurate x
    refine ⟨t, d, built, digits, ?_, close, ?_⟩
    · rw [sine, if_neg zero, built]
      exact delivered
    · have unit := abs_signed_le x.negative (turns t.pi.toRat |x.toRat|)
        (Real.abs_sin_le_one (residue t.pi.toRat |x.toRat|))
      have bound : |(d.toRat : ℝ)| ≤ 1 + 1 / 10 ^ 20 := by
        rw [abs_le] at unit close ⊢
        constructor <;> linarith
      rw [← Rat.cast_abs] at bound
      exact Rat.cast_le.mp (bound.trans_eq (by norm_num))

end Reckoner.Sine
