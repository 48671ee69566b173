import Mathlib
import Reckoner.Proofs.Decimal.CorrectRounding
import Reckoner.Proofs.Decimal.DigitCount

/-! The rationals that decimals and magnitudes denote. The places of their leading digits are
the integer logarithms of those rationals, so that all comparisons of digit counts below are
comparisons of numbers. -/

namespace Reckoner

/-- A number with the sign that a flag gives it. -/
def withSign {α : Type} [Neg α] (negative : Bool) (x : α) : α := if negative then -x else x

@[simp] theorem withSign_false {α : Type} [Neg α] (x : α) : withSign false x = x := rfl

@[simp] theorem withSign_true {α : Type} [Neg α] (x : α) : withSign true x = -x := rfl

@[simp] theorem abs_withSign (negative : Bool) (q : ℚ) : |withSign negative q| = |q| := by
  cases negative <;> simp

@[simp] theorem withSign_zero (negative : Bool) : withSign negative (0 : ℚ) = 0 := by
  cases negative <;> simp

theorem withSign_mul_right (negative : Bool) (q r : ℚ) :
    withSign negative q * r = withSign negative (q * r) := by
  cases negative <;> simp

theorem withSign_intCast (negative : Bool) (z : ℤ) :
    ((withSign negative z : ℤ) : ℚ) = withSign negative (z : ℚ) := by
  cases negative <;> simp

theorem withSign_div (negative : Bool) (q r : ℚ) :
    withSign negative q / r = withSign negative (q / r) := by
  cases negative <;> simp [neg_div]

theorem withSign_natAbs (z : ℤ) : withSign (z < 0) (z.natAbs : ℚ) = z := by
  rw [Nat.cast_natAbs]
  by_cases below : z < 0
  · simp [below, abs_of_neg below]
  · simp [below, abs_of_nonneg (not_lt.mp below)]

theorem withSign_bne (a b : Bool) (q r : ℚ) :
    withSign (a != b) (q * r) = withSign a q * withSign b r := by
  cases a <;> cases b <;> simp

namespace Decimal

/-- The rational that a decimal denotes. -/
def toRat (d : Decimal) : ℚ := withSign d.negative (d.coefficient * 10 ^ d.exponent)

theorem abs_toRat (d : Decimal) : |d.toRat| = d.coefficient * 10 ^ d.exponent := by
  rw [toRat, abs_withSign, abs_of_nonneg (by positivity)]

theorem toRat_eq_zero_iff (d : Decimal) : d.toRat = 0 ↔ d.isZero := by
  rw [← abs_eq_zero, abs_toRat, isZero, beq_iff_eq]
  simp [zpow_ne_zero]

theorem abs_toRat_pos {d : Decimal} (h : d.isZero = false) : 0 < |d.toRat| := by
  rw [abs_pos, Ne, toRat_eq_zero_iff, h]
  decide

theorem zpow_exponent_le_abs_toRat {d : Decimal} (h : d.isZero = false) :
    10 ^ d.exponent ≤ |d.toRat| := by
  have nonzero : d.coefficient ≠ 0 := by simpa [isZero] using h
  have one : (1 : ℚ) ≤ d.coefficient := by exact_mod_cast Nat.one_le_iff_ne_zero.mpr nonzero
  rw [abs_toRat]
  exact le_mul_of_one_le_left (by positivity) one

/-- A unit with the sign of a number lies on the same side of zero. -/
theorem sides_of_unit {d : Decimal} (h : d.isZero = false) (place : ℤ) :
    0 < withSign d.negative ((10 : ℚ) ^ place) ∧ 0 < d.toRat ∨
      withSign d.negative ((10 : ℚ) ^ place) < 0 ∧ d.toRat < 0 := by
  have unit : (0 : ℚ) < 10 ^ place := by positivity
  have size := abs_toRat_pos h
  rw [abs_toRat] at size
  rw [toRat]
  cases d.negative
  · exact .inl ⟨unit, size⟩
  · exact .inr ⟨neg_lt_zero.mpr unit, neg_lt_zero.mpr size⟩

@[simp] theorem toRat_negate (d : Decimal) : d.negate.toRat = -d.toRat := by
  cases d with
  | mk negative _ _ => cases negative <;> simp [toRat, negate]

@[simp] theorem isZero_negate (d : Decimal) : d.negate.isZero = d.isZero := rfl

@[simp] theorem toRat_abs (d : Decimal) : d.abs.toRat = |d.toRat| := by
  rw [abs_toRat]
  rfl

/-- A decimal as a number of units of a lower place. -/
theorem toRat_at (d : Decimal) {n : Nat} {place : ℤ} (h : d.exponent = n + place) :
    d.toRat = withSign d.negative ((d.coefficient * 10 ^ n : ℕ) : ℚ) * 10 ^ place := by
  rw [toRat, ten_zpow_split h, withSign_mul_right]
  push_cast
  rw [mul_assoc]

theorem toRat_ofNat (n : Nat) : (ofNat n).toRat = n := by simp [toRat, ofNat]

theorem toRat_ofInt (z : Int) : (ofInt z).toRat = z := by
  rw [toRat, ofInt, zpow_zero, mul_one, withSign_natAbs]

end Decimal

theorem log_ten_natCast (n : Nat) : Int.log 10 (n : ℚ) = digitCount n - 1 := by
  rw [Int.log_natCast, digitCount_eq_log]
  push_cast
  ring

theorem log_ten_mul_zpow {q : ℚ} (hq : 0 < q) (e : ℤ) :
    Int.log 10 (q * 10 ^ e) = Int.log 10 q + e := by
  have general := log_mul_zpow (by decide : 1 < 10) hq e
  rwa [Nat.cast_ofNat] at general

theorem Decimal.adjusted_eq_log (d : Decimal) (h : d.isZero = false) :
    d.adjusted = Int.log 10 |d.toRat| := by
  have nonzero : (0 : ℚ) < d.coefficient := by
    have : d.coefficient ≠ 0 := by simpa [isZero] using h
    positivity
  rw [abs_toRat, log_ten_mul_zpow nonzero, log_ten_natCast, adjusted]
  ring

namespace Magnitude

def toRat (m : Magnitude) : ℚ := m.numerator / m.denominator * 10 ^ m.exponent

theorem toRat_nonneg (m : Magnitude) : 0 ≤ m.toRat := by
  unfold toRat
  positivity

theorem toRat_pos {m : Magnitude} (hn : m.numerator ≠ 0) (hd : m.denominator ≠ 0) :
    0 < m.toRat := by
  unfold toRat
  positivity

/-- The test of `leading` whether the quotient reaches the power of ten that the digit counts of
its parts suggest. -/
theorem reached_iff (a b above under : Nat) (hb : b ≠ 0) :
    (if under ≤ above then b * 10 ^ (above - under) ≤ a else b ≤ a * 10 ^ (under - above)) ↔
      (10 : ℚ) ^ ((above : ℤ) - under) ≤ a / b := by
  have general := scaled_le_iff (by decide : 0 < 10) hb (a := a) ((above : ℤ) - under)
  have up : ((above : ℤ) - under).toNat = above - under := by omega
  have down : (-((above : ℤ) - under)).toNat = under - above := by omega
  rw [Nat.cast_ofNat, up, down] at general
  rw [← general]
  split
  next h => rw [Nat.sub_eq_zero_of_le h, pow_zero, mul_one]
  next h => rw [Nat.sub_eq_zero_of_le (by omega : above ≤ under), pow_zero, mul_one]

theorem log_ten_quotient (a b : Nat) (ha : a ≠ 0) (hb : b ≠ 0) :
    Int.log 10 (a / b : ℚ) = digitCount a - digitCount b -
      if (10 : ℚ) ^ ((digitCount a : ℤ) - digitCount b) ≤ a / b then 0 else 1 := by
  have general := log_quotient (by decide : 1 < 10) ha hb
  rw [Nat.cast_ofNat] at general
  rw [digitCount_eq_log, digitCount_eq_log, Nat.cast_add_one, Nat.cast_add_one,
    add_sub_add_right_eq_sub]
  exact general

theorem leading_eq_log {m : Magnitude} (hn : m.numerator ≠ 0) (hd : m.denominator ≠ 0) :
    m.leading = Int.log 10 m.toRat := by
  have quotient : (0 : ℚ) < m.numerator / m.denominator := by positivity
  rw [toRat, log_ten_mul_zpow quotient, log_ten_quotient _ _ hn hd]
  simp only [leading, reached_iff _ _ _ _ hd]
  split <;> omega

end Magnitude

theorem Decimal.toRat_magnitude (d : Decimal) : d.magnitude.toRat = |d.toRat| := by
  rw [abs_toRat, Magnitude.toRat, magnitude]
  simp

end Reckoner
