import Mathlib
import Reckoner.Proofs.Decimal.Comparison
import Reckoner.Sine.Reduction

/-! Reduction of an angle is exact: what is left is the angle less whole multiples of pi, below
pi, and the flag tells whether their number is odd. An integer remainder by twice pi gives both. -/

namespace Reckoner.Sine

/-- The remainder by twice a number against the remainder and the quotient by the number. -/
theorem mod_double (n half : ℕ) :
    n % (2 * half) = half * (n / half % 2) + n % half := by
  have quotient : n / half % 2 = n % (2 * half) / half := by
    rw [mul_comm, Nat.mod_mul_right_div_self]
  have rest : n % half = n % (2 * half) % half := (Nat.mod_mod_of_dvd _ (dvd_mul_left _ _)).symm
  rw [quotient, rest, Nat.div_add_mod]

theorem half_le_mod_double_iff (n : ℕ) {half : ℕ} (positive : 0 < half) :
    half ≤ n % (2 * half) ↔ n / half % 2 = 1 := by
  have split := mod_double n half
  have small := Nat.mod_lt n positive
  rcases Nat.mod_two_eq_zero_or_one (n / half) with parity | parity
  · rw [parity] at split
    omega
  · rw [parity] at split
    omega

variable {x pi : Decimal}

/-- An angle below pi stays as it is. -/
theorem reduceModuloPi_below (h : x.toRat < pi.toRat) : reduceModuloPi x pi = (x, false) := by
  rw [reduceModuloPi, if_pos (Decimal.below_iff.mpr h)]

/-- Any other is reduced in units of the lower of the two places. -/
theorem reduceModuloPi_above (h : pi.toRat ≤ x.toRat) {low : ℤ}
    (hlow : low = min x.exponent pi.exponent) {angle half : ℕ}
    (hangle : angle = x.coefficient * 10 ^ (x.exponent - low).toNat)
    (hhalf : half = pi.coefficient * 10 ^ (pi.exponent - low).toNat) (positive : 0 < half) :
    reduceModuloPi x pi =
      ((⟨false, angle % half, low⟩ : Decimal), decide (angle / half % 2 = 1)) := by
  have far : x.below pi = false := by
    rw [← Bool.not_eq_true, Decimal.below_iff, not_lt]
    exact h
  have remainder : x.coefficient % (2 * half) * powMod 10 (x.exponent - low).toNat (2 * half) %
      (2 * half) = angle % (2 * half) := by
    rw [powMod_eq, ← Nat.mul_mod, hangle]
  have odd := half_le_mod_double_iff angle positive
  have split := mod_double angle half
  rw [reduceModuloPi, far, if_neg (by decide)]
  dsimp only
  rw [← hlow, ← hhalf, remainder]
  rcases Nat.mod_two_eq_zero_or_one (angle / half) with parity | parity
  · rw [if_neg (by rw [odd, parity]; decide), split, parity, mul_zero, zero_add]
    rfl
  · rw [if_pos (odd.mpr parity), split, parity, mul_one, Nat.add_sub_cancel_left]
    rfl

theorem reduceModuloPi_exact (nonneg : 0 ≤ x.toRat) (positive : 0 < pi.toRat) :
    (reduceModuloPi x pi).1.toRat = x.toRat - ⌊x.toRat / pi.toRat⌋ * pi.toRat ∧
      ((reduceModuloPi x pi).2 = true ↔ Odd ⌊x.toRat / pi.toRat⌋) := by
  rcases lt_or_ge x.toRat pi.toRat with less | more
  · have none : ⌊x.toRat / pi.toRat⌋ = 0 :=
      Int.floor_eq_zero_iff.mpr ⟨by positivity, (div_lt_one positive).mpr less⟩
    rw [reduceModuloPi_below less, none]
    simp
  · obtain ⟨low, hlow⟩ : ∃ low, low = min x.exponent pi.exponent := ⟨_, rfl⟩
    obtain ⟨angle, hangle⟩ : ∃ n, n = x.coefficient * 10 ^ (x.exponent - low).toNat := ⟨_, rfl⟩
    obtain ⟨half, hhalf⟩ : ∃ n, n = pi.coefficient * 10 ^ (pi.exponent - low).toNat := ⟨_, rfl⟩
    have unit : (0 : ℚ) < 10 ^ low := by positivity
    have valueX : x.toRat = angle * 10 ^ low := by
      rw [← abs_of_nonneg nonneg, x.abs_toRat_at (hlow ▸ min_le_left _ _), hangle]
    have valuePi : pi.toRat = half * 10 ^ low := by
      rw [← abs_of_pos positive, pi.abs_toRat_at (hlow ▸ min_le_right _ _), hhalf]
    have halfPositive : 0 < half := by
      rw [valuePi] at positive
      exact_mod_cast pos_of_mul_pos_left positive unit.le
    have quotient : ⌊x.toRat / pi.toRat⌋ = (angle / half : ℕ) := by
      rw [valueX, valuePi, mul_div_mul_right _ _ unit.ne', Rat.floor_natCast_div_natCast]
      rfl
    rw [reduceModuloPi_above more hlow hangle hhalf halfPositive, quotient]
    constructor
    · have split : (angle : ℚ) = half * (angle / half : ℕ) + (angle % half : ℕ) := by
        exact_mod_cast (Nat.div_add_mod angle half).symm
      show withSign false _ = _
      rw [withSign_false, valueX, valuePi]
      show ((angle % half : ℕ) : ℚ) * 10 ^ low = _
      rw [Int.cast_natCast]
      linear_combination (-(10 : ℚ) ^ low) * split
    · rw [Int.odd_coe_nat, Nat.odd_iff, decide_eq_true_eq]

/-- What is left has no more digits than the longer of the two numbers. -/
theorem digitCount_reduceModuloPi_le (positive : 0 < pi.toRat) :
    digitCount (reduceModuloPi x pi).1.coefficient ≤
      max (digitCount x.coefficient) (digitCount pi.coefficient) := by
  have mono : ∀ {m n : ℕ}, m ≤ n → digitCount m ≤ digitCount n := by
    intro m n h
    rw [digitCount_eq_log, digitCount_eq_log]
    exact Nat.succ_le_succ (Nat.log_mono_right h)
  rcases lt_or_ge x.toRat pi.toRat with less | more
  · rw [reduceModuloPi_below less]
    exact le_max_left _ _
  · obtain ⟨low, hlow⟩ : ∃ low, low = min x.exponent pi.exponent := ⟨_, rfl⟩
    have significant : 0 < pi.coefficient := by
      rw [Nat.pos_iff_ne_zero]
      intro none
      simp [Decimal.toRat, none] at positive
    have unit : 0 < pi.coefficient * 10 ^ (pi.exponent - low).toNat := by positivity
    rw [reduceModuloPi_above more hlow rfl rfl unit]
    -- One of the two numbers keeps its own digits when both are written at the lower place.
    rcases min_choice x.exponent pi.exponent with lower | lower
    · have own : x.coefficient * 10 ^ (x.exponent - low).toNat = x.coefficient := by
        rw [hlow, lower, sub_self, Int.toNat_zero, pow_zero, mul_one]
      rw [own]
      exact le_max_of_le_left (mono (Nat.mod_le _ _))
    · have own : pi.coefficient * 10 ^ (pi.exponent - low).toNat = pi.coefficient := by
        rw [hlow, lower, sub_self, Int.toNat_zero, pow_zero, mul_one]
      rw [own]
      exact le_max_of_le_right (mono (Nat.mod_lt _ significant).le)

/-- Reduction takes off whole multiples of pi and nothing else: no digit is rounded away, whatever
the exponents of the two numbers and whatever context the caller rounds in. -/
theorem reduceModuloPi_divides (nonneg : 0 ≤ x.toRat) (positive : 0 < pi.toRat) :
    ∃ r odd, ∃ k : ℕ, reduceModuloPi x pi = (r, odd) ∧ (k : ℤ) = ⌊x.toRat / pi.toRat⌋ ∧
      x.toRat = k * pi.toRat + r.toRat ∧ 0 ≤ r.toRat ∧ r.toRat < pi.toRat ∧
      (odd = true ↔ Odd k) ∧
      digitCount r.coefficient ≤ max (digitCount x.coefficient) (digitCount pi.coefficient) := by
  obtain ⟨rest, parity⟩ := reduceModuloPi_exact nonneg positive
  obtain ⟨k, quotient⟩ := Int.eq_ofNat_of_zero_le (Int.floor_nonneg.mpr (div_nonneg nonneg positive.le))
  have lower := (le_div_iff₀ positive).mp (Int.floor_le (x.toRat / pi.toRat))
  have upper := (div_lt_iff₀ positive).mp (Int.lt_floor_add_one (x.toRat / pi.toRat))
  rw [quotient, Int.cast_natCast] at rest lower upper
  rw [quotient, Int.odd_coe_nat] at parity
  refine ⟨(reduceModuloPi x pi).1, (reduceModuloPi x pi).2, k, rfl, quotient.symm, ?_, ?_, ?_, parity,
    digitCount_reduceModuloPi_le positive⟩
  · rw [rest]
    ring
  · rw [rest]
    exact sub_nonneg.mpr lower
  · rw [rest]
    linarith

/-- An exact multiple, given to one place more than what divides it. -/
theorem reduceModuloPi_divides_multiple :
    0 ≤ Decimal.toRat ⟨false, 9420, -3⟩ ∧ 0 < Decimal.toRat ⟨false, 314, -2⟩ ∧
      ∃ r odd, ∃ k : ℕ, reduceModuloPi ⟨false, 9420, -3⟩ ⟨false, 314, -2⟩ = (r, odd) ∧
        (k : ℤ) = ⌊Decimal.toRat ⟨false, 9420, -3⟩ / Decimal.toRat ⟨false, 314, -2⟩⌋ ∧
        Decimal.toRat ⟨false, 9420, -3⟩ = k * Decimal.toRat ⟨false, 314, -2⟩ + r.toRat ∧
        0 ≤ r.toRat ∧ r.toRat < Decimal.toRat ⟨false, 314, -2⟩ ∧ (odd = true ↔ Odd k) ∧
        digitCount r.coefficient ≤ max (digitCount 9420) (digitCount 314) := by
  have nonneg : 0 ≤ Decimal.toRat ⟨false, 9420, -3⟩ := Decimal.toRat_nonneg_of rfl
  have positive : 0 < Decimal.toRat ⟨false, 314, -2⟩ := by
    rw [Decimal.toRat, withSign_false]
    positivity
  exact ⟨nonneg, positive, reduceModuloPi_divides nonneg positive⟩

end Reckoner.Sine
