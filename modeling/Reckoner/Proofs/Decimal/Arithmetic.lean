import Mathlib
import Reckoner.Decimal.Extended
import Reckoner.Proofs.Decimal.Round

/-! Each operation on finite decimals is the rational operation followed by one correct
rounding. Products and quotients are formed exactly. A sum of far apart operands is formed with
a unit of two places under the last kept digit in the place of the smaller operand; both lie in
one cell of the multiples of the next place up, which no rounding tells apart. -/

namespace Reckoner

/-- The rational that a sign and a magnitude denote. -/
def signedRat (signed : Bool × Magnitude) : ℚ := withSign signed.1 signed.2.toRat

namespace Context

variable (ctx : Context)

theorem combine_denominator (left right : Bool × Nat) (place : Int) :
    (combine left right place).2.denominator = 1 := by
  unfold combine
  split_ifs <;> rfl

theorem signedRat_combine (left right : Bool × Nat) (place : Int) :
    signedRat (combine left right place) =
      (withSign left.1 (left.2 : ℚ) + withSign right.1 (right.2 : ℚ)) * 10 ^ place := by
  obtain ⟨a, x⟩ := left
  obtain ⟨b, y⟩ := right
  unfold combine
  split_ifs with same le
  · simp only at same
    subst same
    cases a <;> simp [signedRat, Magnitude.toRat, -mul_eq_mul_right_iff]
    ring
  · simp only at same le
    have opposite : b = !a := by cases a <;> cases b <;> simp_all
    subst opposite
    cases a <;> simp [signedRat, Magnitude.toRat, Nat.cast_sub le, -mul_eq_mul_right_iff] <;> ring
  · simp only at same le
    have opposite : b = !a := by cases a <;> cases b <;> simp_all
    subst opposite
    cases a <;>
      simp [signedRat, Magnitude.toRat, Nat.cast_sub (Nat.le_of_not_le le),
        -mul_eq_mul_right_iff] <;> ring

theorem roundRat_congr {x y : ℚ} (h : ctx.correct x = ctx.correct y) :
    ctx.roundRat x = ctx.roundRat y := by
  rw [roundRat, roundRat, h]

section Range

variable {r : Except Signal Decimal} {q : ℚ} (h : r.map Decimal.toRat = ctx.roundRat q)
include h

/-- An operation delivers as long as its rounded result is inside the range. -/
theorem delivers_inside (inside : |ctx.correct q| < 10 ^ (ctx.emax + 1)) :
    ∃ d, r = .ok d ∧ d.toRat = ctx.correct q := by
  rw [roundRat, if_neg (not_le.mpr inside)] at h
  cases r with
  | ok d => exact ⟨d, rfl, Except.ok.inj h⟩
  | error cause => cases h

theorem toRat_eq_correct {d : Decimal} (ok : r = .ok d) : d.toRat = ctx.correct q := by
  rw [ok, roundRat] at h
  split at h
  · cases h
  · exact Except.ok.inj h

theorem overflows_outside (outside : 10 ^ (ctx.emax + 1) ≤ |ctx.correct q|) :
    r = .error .overflow := by
  rw [roundRat, if_pos outside] at h
  cases r with
  | ok d => cases h
  | error cause => rw [Except.error.inj h]

end Range

/-- A sum in units of a place at or under the last one of its first operand. -/
theorem signedRat_aligned (high : Decimal) (low : Bool × Nat) {gap : Nat} {place : ℤ}
    (aligned : high.exponent = gap + place) :
    signedRat (combine (high.negative, high.coefficient * 10 ^ gap) low place) =
      high.toRat + withSign low.1 ((low.2 : ℚ) * 10 ^ place) := by
  rw [signedRat_combine, add_mul, ← high.toRat_at aligned, withSign_mul_right]

/-- A number stays under the place above its leading digit. -/
theorem far_small (low : Decimal) {place : ℤ}
    (far : low.exponent + digitCount low.coefficient ≤ place) : |low.toRat| < 10 ^ place := by
  have bound : (low.coefficient : ℚ) < 10 ^ (digitCount low.coefficient : ℤ) := by
    rw [zpow_natCast]
    exact_mod_cast lt_pow_digitCount low.coefficient
  rw [Decimal.abs_toRat]
  calc (low.coefficient : ℚ) * 10 ^ low.exponent
      < 10 ^ (digitCount low.coefficient : ℤ) * 10 ^ low.exponent :=
        mul_lt_mul_of_pos_right bound (by positivity)
    _ = 10 ^ (digitCount low.coefficient + low.exponent) := (zpow_add₀ (by norm_num) _ _).symm
    _ ≤ 10 ^ place := zpow_le_zpow_right₀ (by norm_num) (by omega)

/-- A unit two places under the last digit that is kept does for all smaller numbers of its sign. -/
theorem correct_far (high low : Decimal) (hh : high.isZero = false) (hl : low.isZero = false)
    (far : low.exponent + digitCount low.coefficient + ctx.precision + 2 < high.exponent) :
    ctx.correct (signedRat (combine
      (high.negative, high.coefficient * 10 ^ (ctx.precision + 2)) (low.negative, 1)
      (high.exponent - (ctx.precision + 2)))) = ctx.correct (high.toRat + low.toRat) := by
  have aligned : high.exponent = (ctx.precision + 2 : ℕ) + (high.exponent - (ctx.precision + 2)) := by
    omega
  rw [signedRat_aligned high _ aligned, Nat.cast_one, one_mul]
  have multiple : high.toRat =
      (withSign high.negative ((high.coefficient * 10 ^ (ctx.precision + 1) : ℕ) : ℤ) : ℤ) *
        10 ^ (high.exponent - ctx.precision - 1) := by
    rw [withSign_intCast, Int.cast_natCast]
    exact high.toRat_at (by omega)
  have sides := Decimal.sides_of_unit hl (high.exponent - (ctx.precision + 2))
  have unit : |withSign low.negative ((10 : ℚ) ^ (high.exponent - (ctx.precision + 2)))| <
      10 ^ (high.exponent - ctx.precision - 1) := by
    rw [abs_withSign, abs_of_pos (by positivity)]
    exact zpow_lt_zpow_right₀ (by norm_num) (by omega)
  generalize withSign low.negative ((10 : ℚ) ^ (high.exponent - (ctx.precision + 2))) = small at *
  rw [multiple]
  apply ctx.correct_add_small sides unit (far_small low (by omega))
  rw [← multiple]
  have leading := Decimal.zpow_exponent_le_abs_toRat hh
  have lower : (10 : ℚ) ^ (high.exponent - ctx.precision - 1) ≤ 10 ^ (high.exponent - 1) :=
    zpow_le_zpow_right₀ (by norm_num) (by omega)
  have tenfold : (10 : ℚ) ^ high.exponent = 10 * 10 ^ (high.exponent - 1) := by
    rw [zpow_sub_one₀ (by norm_num)]
    ring
  have positive : (0 : ℚ) < 10 ^ (high.exponent - 1) := by positivity
  calc (10 : ℚ) ^ (high.exponent - ctx.precision - 1 + ctx.precision)
      = 10 ^ (high.exponent - 1) := by congr 1; ring
    _ ≤ |high.toRat| - |small| := by linarith
    _ ≤ |high.toRat + small| := by
      have apart := abs_sub_abs_le_abs_sub high.toRat (-small)
      rwa [abs_neg, sub_neg_eq_add] at apart

theorem alignedSum_denominator (high low : Decimal) :
    (ctx.alignedSum high low).2.denominator = 1 := by
  unfold alignedSum
  dsimp only
  split <;> exact combine_denominator _ _ _

theorem correct_alignedSum (high low : Decimal) (hh : high.isZero = false)
    (hl : low.isZero = false) (le : low.exponent ≤ high.exponent) :
    ctx.correct (signedRat (ctx.alignedSum high low)) = ctx.correct (high.toRat + low.toRat) := by
  unfold alignedSum
  dsimp only
  split
  next =>
    have aligned : high.exponent = (high.exponent - low.exponent).toNat + low.exponent := by omega
    rw [signedRat_aligned high _ aligned]
    rfl
  next far => exact ctx.correct_far high low hh hl (by omega)

theorem signedSum_denominator (a b : Decimal) : (ctx.signedSum a b).2.denominator = 1 := by
  unfold signedSum
  split_ifs
  · rfl
  · rfl
  · exact ctx.alignedSum_denominator a b
  · exact ctx.alignedSum_denominator b a

theorem signedRat_magnitude (d : Decimal) : signedRat (d.negative, d.magnitude) = d.toRat := by
  rw [signedRat, Decimal.toRat_magnitude, Decimal.abs_toRat, Decimal.toRat]

theorem correct_signedSum (a b : Decimal) :
    ctx.correct (signedRat (ctx.signedSum a b)) = ctx.correct (a.toRat + b.toRat) := by
  unfold signedSum
  split_ifs with zero_b zero_a le
  · rw [signedRat_magnitude, (Decimal.toRat_eq_zero_iff b).mpr zero_b, add_zero]
  · rw [signedRat_magnitude, (Decimal.toRat_eq_zero_iff a).mpr zero_a, zero_add]
  · exact ctx.correct_alignedSum a b (by simpa using zero_a) (by simpa using zero_b) le
  · rw [add_comm]
    exact ctx.correct_alignedSum b a (by simpa using zero_b) (by simpa using zero_a) (by omega)

theorem add_map_toRat (a b : Decimal) :
    (ctx.add a b).map Decimal.toRat = ctx.roundRat (a.toRat + b.toRat) := by
  have denominator := ctx.signedSum_denominator a b
  have value : ∀ sign, withSign (if (ctx.signedSum a b).2.numerator = 0 then sign
      else (ctx.signedSum a b).1) (ctx.signedSum a b).2.toRat = signedRat (ctx.signedSum a b) := by
    intro sign
    split
    next zero => simp [signedRat, Magnitude.toRat, zero]
    next => rfl
  rw [add]
  dsimp only
  rw [ctx.round_map_toRat (by rw [denominator]; exact one_ne_zero), value]
  exact ctx.roundRat_congr (ctx.correct_signedSum a b)

theorem sub_map_toRat (a b : Decimal) :
    (ctx.sub a b).map Decimal.toRat = ctx.roundRat (a.toRat - b.toRat) := by
  rw [sub, add_map_toRat, Decimal.toRat_negate, sub_eq_add_neg]

theorem mul_map_toRat (a b : Decimal) :
    (ctx.mul a b).map Decimal.toRat = ctx.roundRat (a.toRat * b.toRat) := by
  rw [mul, ctx.round_map_toRat one_ne_zero, Decimal.toRat, Decimal.toRat, ← withSign_bne,
    Magnitude.toRat]
  push_cast
  rw [zpow_add₀ (by norm_num), div_one, mul_mul_mul_comm]

theorem div_map_toRat (a b : Decimal) (hb : b.isZero = false) :
    (ctx.div a b).map Decimal.toRat = ctx.roundRat (a.toRat / b.toRat) := by
  have nonzero : b.coefficient ≠ 0 := by simpa [Decimal.isZero] using hb
  rw [div, if_neg (by simp [hb]), ctx.round_map_toRat nonzero, Decimal.toRat, Decimal.toRat,
    Magnitude.toRat]
  push_cast
  rw [zpow_sub₀ (by norm_num), div_mul_div_comm]
  congr 1
  cases a.negative <;> cases b.negative <;> simp [neg_div, div_neg]

theorem plus_map_toRat (a : Decimal) : (ctx.plus a).map Decimal.toRat = ctx.roundRat a.toRat := by
  rw [plus]
  split
  next zero =>
    have : a.toRat = 0 := (Decimal.toRat_eq_zero_iff a).mpr (by simp_all)
    rw [Decimal.roundIn_map_toRat, Decimal.toRat_abs, this, abs_zero]
  next => rw [Decimal.roundIn_map_toRat]

theorem minus_map_toRat (a : Decimal) :
    (ctx.minus a).map Decimal.toRat = ctx.roundRat (-a.toRat) := by
  rw [minus]
  split
  next zero =>
    have : a.toRat = 0 := (Decimal.toRat_eq_zero_iff a).mpr (by simp_all)
    rw [Decimal.roundIn_map_toRat, Decimal.toRat_abs, this, abs_zero, neg_zero]
  next => rw [Decimal.roundIn_map_toRat, Decimal.toRat_negate]

end Context

end Reckoner
