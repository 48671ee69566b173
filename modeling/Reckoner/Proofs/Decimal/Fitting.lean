import Mathlib
import Reckoner.Proofs.Decimal.Arithmetic

/-! Decimals that fit a context: at most its digits, no place under its least one, and no
leading digit above its range. Every operation gives such a decimal whatever its operands
are, since all of them end in one rounding. -/

namespace Reckoner

theorem dropZeros_mul (k n : Nat) : dropZeros k (n * 10 ^ k) = (n, k) := by
  induction k with
  | zero => simp [dropZeros]
  | succ k ih =>
    have split : n * 10 ^ (k + 1) = n * 10 ^ k * 10 := by rw [pow_succ, mul_assoc]
    rw [split, dropZeros, if_pos (Nat.mul_mod_left _ _), Nat.mul_div_cancel _ (by decide), ih]

structure Decimal.Fits (ctx : Context) (d : Decimal) : Prop where
  digits : digitCount d.coefficient ≤ ctx.precision
  place : ctx.etiny ≤ d.exponent
  range : d.adjusted ≤ ctx.emax

/-- Contexts with the number one in their range. -/
structure Context.Spans (ctx : Context) : Prop where
  small : ctx.etiny ≤ 0
  large : 0 ≤ ctx.emax

namespace Decimal

variable {ctx : Context}

theorem adjusted_eq_exponent {d : Decimal} (zero : d.isZero) : d.adjusted = d.exponent := by
  have : d.coefficient = 0 := by simpa [isZero] using zero
  simp [adjusted, this, digitCount_eq_log]

/-- A zero fits as soon as its exponent does. -/
theorem fits_of_isZero {d : Decimal} (zero : d.isZero) (place : ctx.etiny ≤ d.exponent)
    (range : d.exponent ≤ ctx.emax) : d.Fits ctx := by
  have none : d.coefficient = 0 := by simpa [isZero] using zero
  refine ⟨?_, place, by rwa [adjusted_eq_exponent zero]⟩
  rw [none, digitCount_le_iff ctx.precision_pos]
  positivity

theorem fits_zero (spans : ctx.Spans) : Decimal.zero.Fits ctx :=
  fits_of_isZero rfl spans.small spans.large

/-- A decimal that fits a context is rounded to itself. -/
theorem roundIn_of_fits {d : Decimal} (fits : d.Fits ctx) : d.roundIn ctx = .ok d := by
  obtain ⟨negative, coefficient, exponent⟩ := d
  have place := fits.place
  have range := fits.range
  by_cases zero : coefficient = 0
  · rw [adjusted_eq_exponent (by simp [isZero, zero])] at range
    simp only at place range
    rw [roundIn, Context.round, magnitude, if_pos zero]
    simp only [zero]
    congr 2
    omega
  · have digits := fits.digits
    have nonzero : (⟨negative, coefficient, exponent⟩ : Decimal).isZero = false := by
      simp [isZero, zero]
    have leading : (magnitude ⟨negative, coefficient, exponent⟩).leading =
        exponent + digitCount coefficient - 1 := by
      rw [Magnitude.leading_eq_log zero Nat.one_ne_zero, toRat_magnitude,
        ← adjusted_eq_log _ nonzero, adjusted]
    have some_digit := digitCount_pos coefficient
    have quantum : ctx.quantum (magnitude ⟨negative, coefficient, exponent⟩) ≤ exponent := by
      rw [Context.quantum, leading]
      simp only at digits place
      omega
    generalize unit : ctx.quantum (magnitude ⟨negative, coefficient, exponent⟩) = place at quantum
    have quantized : (magnitude ⟨negative, coefficient, exponent⟩).quantize place =
        (coefficient * 10 ^ (exponent - place).toNat, .none) := by
      rw [Magnitude.quantize, if_neg (by rw [leading]; omega)]
      have none : (place - exponent).toNat = 0 := by omega
      simp [magnitude, none, Tail.ofRemainder]
      omega
    rw [roundIn, ctx.round_exact zero (by rw [unit]; exact quantized), unit, dropZeros_mul]
    have same : place + ((exponent - place).toNat : ℤ) = exponent := by omega
    rw [same, Context.deliver, if_neg (by simpa using fun _ => range)]

/-- A decimal up to a power of ten in the range of a context is rounded without an overflow. -/
theorem exists_roundIn {d : Decimal} {place : ℤ} (nonneg : 0 ≤ d.toRat)
    (small : d.toRat ≤ 10 ^ place) (least : ctx.etiny ≤ place) (range : place ≤ ctx.emax) :
    ∃ r, d.roundIn ctx = .ok r := by
  have below := ctx.correct_le_of_mem_numbers (ctx.zpow_mem_numbers least) small
  have inside : |ctx.correct d.toRat| < 10 ^ (ctx.emax + 1) := by
    rw [abs_of_nonneg (ctx.correct_nonneg nonneg)]
    refine below.trans_lt (zpow_lt_zpow_right₀ (by norm_num) ?_)
    omega
  obtain ⟨r, rounded, -⟩ := ctx.delivers_inside (d.roundIn_map_toRat ctx) inside
  exact ⟨r, rounded⟩

end Decimal

namespace Context

variable {ctx : Context}

theorem deliver_eq_ok {d r : Decimal} (h : ctx.deliver d = .ok r) :
    r = d ∧ (d.isZero ∨ d.adjusted ≤ ctx.emax) := by
  rw [deliver] at h
  split at h
  · cases h
  · rename_i within
    cases h
    refine ⟨rfl, ?_⟩
    simp only [Bool.and_eq_true, Bool.not_eq_true', decide_eq_true_eq, not_and] at within
    cases zero : d.isZero
    · exact .inr (not_lt.mp (within zero))
    · exact .inl rfl

theorem Holds.fits {d r : Decimal} (holds : ctx.Holds d) (range : ctx.etiny ≤ ctx.emax)
    (h : ctx.deliver d = .ok r) : r.Fits ctx := by
  obtain ⟨rfl, zero | within⟩ := deliver_eq_ok h
  · exact Decimal.fits_of_isZero zero holds.place ((holds.zero zero).trans_le range)
  · exact ⟨(digitCount_le_iff ctx.precision_pos).mpr holds.digits, holds.place, within⟩

theorem Spans.range (spans : ctx.Spans) : ctx.etiny ≤ ctx.emax :=
  spans.small.trans spans.large

variable (spans : ctx.Spans)
include spans

/-- A rounded magnitude fits; an exact zero takes the exponent next to the ideal one. -/
theorem round_fits {negative : Bool} {m : Magnitude} {ideal : Int} {d : Decimal}
    (hd : m.denominator ≠ 0) (h : ctx.round negative m ideal = .ok d) : d.Fits ctx := by
  by_cases zero : m.numerator = 0
  · rw [round, if_pos zero] at h
    cases h
    have := spans.range
    exact Decimal.fits_of_isZero rfl (le_max_left _ _) (by dsimp only; omega)
  · obtain ⟨r, delivered, -, -, holds⟩ := ctx.round_eq_deliver zero hd negative ideal
    exact holds.fits spans.range (delivered.symm.trans h)

theorem add_fits {a b d : Decimal} (h : ctx.add a b = .ok d) : d.Fits ctx := by
  have denominator : (ctx.signedSum a b).2.denominator ≠ 0 := by
    rw [ctx.signedSum_denominator]
    exact one_ne_zero
  exact round_fits spans denominator h

theorem sub_fits {a b d : Decimal} (h : ctx.sub a b = .ok d) : d.Fits ctx :=
  add_fits spans h

theorem mul_fits {a b d : Decimal} (h : ctx.mul a b = .ok d) : d.Fits ctx :=
  round_fits spans one_ne_zero h

theorem div_fits {a b d : Decimal} (h : ctx.div a b = .ok d) : d.Fits ctx := by
  rw [div] at h
  split at h
  · cases h
  · rename_i nonzero
    exact round_fits spans (by simpa [Decimal.isZero] using nonzero) h

theorem roundIn_fits {a d : Decimal} (h : a.roundIn ctx = .ok d) : d.Fits ctx :=
  round_fits spans one_ne_zero h

theorem plus_fits {a d : Decimal} (h : ctx.plus a = .ok d) : d.Fits ctx := by
  rw [plus] at h
  split at h <;> exact roundIn_fits spans h

theorem minus_fits {a d : Decimal} (h : ctx.minus a = .ok d) : d.Fits ctx := by
  rw [minus] at h
  split at h <;> exact roundIn_fits spans h

end Context

end Reckoner
