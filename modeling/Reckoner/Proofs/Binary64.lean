import Mathlib
import Reckoner.Binary64
import Reckoner.Proofs.Decimal.Comparison
import Reckoner.Proofs.Decimal.OverflowThreshold

/-! Rounding to floating point is correct rounding: the result is the nearest multiple of the unit
of 53 bits, or of the least unit, and the whole part of a decimal is taken from that. A number
overflows from half a unit above the largest one on, the midpoint included. -/

namespace Reckoner.Binary64

/-- The exponent of the unit that a rational is rounded to. -/
def unitPlace (q : ℚ) : ℤ := max (Int.log 2 |q| - (significantBits - 1)) leastExponent

/-- The nearest number with the unit of a rational, whatever its size. -/
def nearest (q : ℚ) : ℚ := Rounding.nearest.toInteger (q / 2 ^ unitPlace q) * 2 ^ unitPlace q

/-- The least absolute value that is rounded to an infinity. -/
def threshold : ℚ := 2 ^ overflowExponent - 2 ^ (overflowExponent - significantBits - 1)

theorem threshold_eq : threshold = 2 ^ 1024 - 2 ^ 970 :=
  congrArg₂ _ (zpow_natCast 2 1024) (zpow_natCast 2 970)

def Number.toRat (x : Number) : ℚ := x.units * 2 ^ x.exponent

theorem Number.truncate_eq (x : Number) : (x.truncate : ℤ) = ⌊x.toRat⌋ := by
  have quotient := scaled_quotient (by decide : 0 < 2) x.units 1 (-x.exponent)
  rw [neg_neg, Nat.cast_one, div_one, Nat.cast_ofNat, zpow_neg, div_inv_eq_mul, one_mul] at quotient
  rw [toRat, ← quotient, Rat.floor_natCast_div_natCast, truncate]
  split
  next whole =>
    have : (-x.exponent).toNat = 0 := by omega
    rw [this, pow_zero, Nat.cast_one, Int.ediv_one]
  next fraction =>
    have : x.exponent.toNat = 0 := by omega
    rw [this, pow_zero, mul_one, Int.natCast_ediv]

section Nearest

variable {q : ℚ}

theorem log_two_eq_iff (hq : 0 < q) (place : ℤ) :
    Int.log 2 q = place ↔ 2 ^ place ≤ q ∧ q < 2 ^ (place + 1) := by
  have general := log_eq_iff (by decide : 1 < 2) hq place
  rwa [Nat.cast_ofNat] at general

theorem nearest_zero : nearest 0 = 0 := by
  have := Rounding.nearest.toInteger_intCast 0
  simp_all [nearest]

theorem nearest_nonneg (hq : 0 ≤ q) : 0 ≤ nearest q := by
  have floor : 0 ≤ ⌊q / 2 ^ unitPlace q⌋ := Int.floor_nonneg.mpr (by positivity)
  have units : (0 : ℚ) ≤ Rounding.nearest.toInteger (q / 2 ^ unitPlace q) := by
    exact_mod_cast floor.trans (Rounding.floor_le_toInteger _ _)
  exact mul_nonneg units (by positivity)

/-- Above the least unit the quotient by the unit has 53 bits. -/
theorem le_scaled (hq : 0 < q) (above : leastExponent < unitPlace q) :
    2 ^ 52 ≤ q / 2 ^ unitPlace q := by
  have place : Int.log 2 q = unitPlace q + 52 := by
    rw [unitPlace, abs_of_pos hq, significantBits] at above ⊢
    omega
  have lower := ((log_two_eq_iff hq _).mp place).1
  rw [le_div_iff₀ (by positivity)]
  calc (2 : ℚ) ^ 52 * 2 ^ unitPlace q = 2 ^ (unitPlace q + 52) := by
        rw [add_comm, zpow_add₀ two_ne_zero]
        norm_cast
    _ ≤ q := lower

theorem le_nearest (hq : 0 < q) (above : leastExponent < unitPlace q) :
    2 ^ 52 * 2 ^ unitPlace q ≤ nearest q := by
  have floor : (2 ^ 52 : ℤ) ≤ ⌊q / 2 ^ unitPlace q⌋ :=
    Int.le_floor.mpr (by exact_mod_cast le_scaled hq above)
  have units : (2 : ℚ) ^ 52 ≤ Rounding.nearest.toInteger (q / 2 ^ unitPlace q) := by
    exact_mod_cast floor.trans (Rounding.floor_le_toInteger _ _)
  exact mul_le_mul_of_nonneg_right units (by positivity)

/-- Rounding does not pass a power of two. -/
theorem nearest_le {place : ℤ} (hq : 0 < q) (small : q ≤ 2 ^ place)
    (least : leastExponent ≤ place) : nearest q ≤ 2 ^ place := by
  have unit : (0 : ℚ) < 2 ^ unitPlace q := by positivity
  have leading : Int.log 2 q ≤ place := by
    have lower := ((log_two_eq_iff hq _).mp rfl).1
    exact (zpow_le_zpow_iff_right₀ one_lt_two).mp (lower.trans small)
  have within : unitPlace q ≤ place := by
    rw [unitPlace, abs_of_pos hq, significantBits]
    omega
  have power : (2 : ℚ) ^ place = (2 ^ (place - unitPlace q).toNat : ℤ) * 2 ^ unitPlace q := by
    push_cast
    rw [← zpow_natCast, ← zpow_add₀ two_ne_zero]
    congr 1
    omega
  have ceil : ⌈q / 2 ^ unitPlace q⌉ ≤ 2 ^ (place - unitPlace q).toNat := by
    rw [Int.ceil_le, div_le_iff₀ unit, ← power]
    exact small
  rw [power]
  refine mul_le_mul_of_nonneg_right ?_ unit.le
  exact_mod_cast (Rounding.toInteger_le_ceil _ _).trans ceil

/-- The unit of the largest numbers. -/
def lastUnit : ℚ := 2 ^ (overflowExponent - significantBits)

theorem lastUnit_pos : 0 < lastUnit := by
  unfold lastUnit
  positivity

theorem top_eq : (2 : ℚ) ^ overflowExponent = 2 ^ 53 * lastUnit := by
  rw [lastUnit, ← zpow_natCast, ← zpow_add₀ two_ne_zero]
  rfl

theorem top_half_eq : (2 : ℚ) ^ (overflowExponent - 1) = 2 ^ 52 * lastUnit := by
  rw [lastUnit, ← zpow_natCast, ← zpow_add₀ two_ne_zero]
  rfl

theorem nearest_eq_zero (hq : 0 < q) (small : q < 2 ^ (leastExponent - 1)) : nearest q = 0 := by
  have leading : Int.log 2 q < leastExponent - 1 :=
    (Int.lt_zpow_iff_log_lt (by decide : 1 < 2) hq).mp (by exact_mod_cast small)
  have place : unitPlace q = leastExponent := by
    rw [unitPlace, abs_of_pos hq, significantBits]
    omega
  have unit : (0 : ℚ) < 2 ^ leastExponent := by positivity
  have units : Rounding.nearest.toInteger (q / 2 ^ leastExponent) = 0 := by
    rw [Rounding.nearest_eq_iff, Int.cast_zero, sub_zero, abs_of_pos (div_pos hq unit)]
    left
    rw [zpow_sub_one₀ two_ne_zero] at small
    rw [div_lt_iff₀ unit]
    linarith
  rw [nearest, place, units, Int.cast_zero, zero_mul]

theorem threshold_eq_units : threshold = (2 ^ 53 - 1 / 2) * lastUnit := by
  rw [threshold, top_eq, zpow_sub_one₀ two_ne_zero, ← lastUnit]
  ring

theorem threshold_pos : 0 < threshold := by
  rw [threshold_eq_units]
  exact mul_pos (by norm_num) lastUnit_pos

theorem threshold_bounds :
    (2 : ℚ) ^ (overflowExponent - 1) < threshold ∧ threshold < 2 ^ overflowExponent := by
  rw [threshold_eq_units, top_eq, top_half_eq]
  exact ⟨mul_lt_mul_of_pos_right (by norm_num) lastUnit_pos,
    mul_lt_mul_of_pos_right (by norm_num) lastUnit_pos⟩

theorem overflow_iff (hq : 0 < q) : 2 ^ overflowExponent ≤ nearest q ↔ threshold ≤ q := by
  have unit := lastUnit_pos
  rw [threshold_eq_units, top_eq]
  rcases lt_or_ge q (2 ^ (overflowExponent - 1)) with small | atLeast
  · have inside := nearest_le hq small.le (by decide)
    rw [top_half_eq] at small inside
    constructor <;> intro h <;> nlinarith
  have reached : overflowExponent - 1 ≤ Int.log 2 q :=
    (Int.zpow_le_iff_le_log (by decide : 1 < 2) hq).mp (by exact_mod_cast atLeast)
  rcases lt_or_ge q (2 ^ overflowExponent) with within | outside
  · have place : (2 : ℚ) ^ unitPlace q = lastUnit := by
      have leading : Int.log 2 q = overflowExponent - 1 :=
        (log_two_eq_iff hq _).mpr ⟨atLeast, by rwa [sub_add_cancel]⟩
      rw [unitPlace, abs_of_pos hq, leading]
      rfl
    have reaches := Rounding.le_abs_nearest_iff (x := q / lastUnit) (by decide : Even (2 ^ 53))
    have nonneg : (0 : ℚ) ≤ Rounding.nearest.toInteger (q / lastUnit) := by
      have := nearest_nonneg hq.le
      rw [nearest, place] at this
      exact nonneg_of_mul_nonneg_left this unit
    rw [abs_of_nonneg nonneg, abs_of_pos (div_pos hq unit), le_div_iff₀ unit] at reaches
    push_cast at reaches
    rw [nearest, place, mul_le_mul_iff_left₀ unit]
    exact reaches
  · have place : overflowExponent - significantBits < unitPlace q := by
      have leading : overflowExponent ≤ Int.log 2 q :=
        (Int.zpow_le_iff_le_log (by decide : 1 < 2) hq).mp (by exact_mod_cast outside)
      rw [unitPlace, abs_of_pos hq]
      omega
    have coarse : lastUnit * 2 ≤ 2 ^ unitPlace q := by
      rw [lastUnit, ← zpow_add_one₀ two_ne_zero]
      exact zpow_le_zpow_right₀ one_le_two place
    have carried := le_nearest hq (lt_trans (by decide) place)
    rw [top_eq] at outside
    exact ⟨fun _ => by nlinarith, fun _ => by nlinarith⟩

end Nearest

/-- A number of units passes a power of two when its leading bit does. -/
theorem overflow_test {units : ℕ} {e : ℤ} (low : units = 0 → e < overflowExponent) :
    overflowExponent ≤ e + units.log2 ↔ (2 : ℚ) ^ overflowExponent ≤ units * 2 ^ e := by
  rcases Nat.eq_zero_or_pos units with rfl | positive
  · have top : (0 : ℚ) < 2 ^ overflowExponent := by positivity
    rw [Nat.cast_zero, zero_mul, Nat.log2_zero, Nat.cast_zero, add_zero]
    exact iff_of_false (not_le.mpr (low rfl)) (not_le.mpr top)
  · have magnitude : (0 : ℚ) < units := by exact_mod_cast positive
    have log := log_mul_zpow (by decide : 1 < 2) magnitude e
    have reaches := Int.zpow_le_iff_le_log (by decide : 1 < 2) (x := overflowExponent)
      (by positivity : (0 : ℚ) < units * 2 ^ e)
    rw [Int.log_natCast, ← Nat.log2_eq_log_two, Nat.cast_ofNat] at log
    rw [Nat.cast_ofNat] at reaches
    rw [reaches, log, add_comm]

section Quotient

variable {a b : ℕ} (hb : b ≠ 0)
include hb

theorem roundQuotient_eq (a : ℕ) :
    (roundQuotient a b : ℤ) = Rounding.nearest.toInteger (a / b) := by
  have divisor : (0 : ℚ) < b := by positivity
  have floor : ⌊(a / b : ℚ)⌋ = (a / b : ℕ) := Rat.floor_natCast_div_natCast a b
  have below : ((a % b : ℕ) : ℚ) / b < 1 / 2 ↔ 2 * (a % b) < b := by
    rw [div_lt_div_iff₀ divisor two_pos]
    norm_cast
    omega
  have half : ((a % b : ℕ) : ℚ) / b = 1 / 2 ↔ 2 * (a % b) = b := by
    rw [div_eq_div_iff divisor.ne' two_ne_zero]
    norm_cast
    omega
  have even : Even ((a / b : ℕ) : ℤ) ↔ a / b % 2 = 0 := by rw [Int.even_coe_nat, Nat.even_iff]
  simp only [Rounding.toInteger, floor, Int.fract_div_natCast_eq_div_natCast_mod, below, half,
    even, roundQuotient]
  split_ifs <;> omega

/-- The comparison of integers that finds the leading bit of a quotient. -/
theorem reached_iff (guess : ℤ) :
    (if 0 ≤ guess then b * 2 ^ guess.toNat ≤ a else b ≤ a * 2 ^ (-guess).toNat) ↔
      (2 : ℚ) ^ guess ≤ a / b := by
  have general := scaled_le_iff (by decide : 0 < 2) hb (a := a) guess
  rw [Nat.cast_ofNat] at general
  rw [← general]
  split
  next up => rw [(by omega : (-guess).toNat = 0), pow_zero, mul_one]
  next down => rw [(by omega : guess.toNat = 0), pow_zero, mul_one]

theorem unitExponent_eq (ha : a ≠ 0) : unitExponent a b = unitPlace (a / b) := by
  have leading := log_quotient (by decide : 1 < 2) ha hb
  rw [← Nat.log2_eq_log_two, ← Nat.log2_eq_log_two, Nat.cast_ofNat] at leading
  have quotient : (0 : ℚ) < a / b := by positivity
  rw [unitPlace, abs_of_pos quotient, leading]
  simp only [unitExponent, reached_iff hb]
  split <;> omega

theorem scaled_eq (a : ℕ) (e : ℤ) :
    ((roundQuotient (a * 2 ^ (-e).toNat) (b * 2 ^ e.toNat) : ℕ) : ℤ) =
      Rounding.nearest.toInteger (a / b / 2 ^ e) := by
  have quotient := scaled_quotient (by decide : 0 < 2) a b e
  rw [Nat.cast_ofNat] at quotient
  rw [roundQuotient_eq (by positivity), quotient]

theorem ofQuotient?_map (a : ℕ) :
    (ofQuotient? a b).map Number.toRat =
      if threshold ≤ (a / b : ℚ) then none else some (nearest (a / b)) := by
  rw [ofQuotient?]
  split
  next zero =>
    rw [zero, Nat.cast_zero, zero_div, nearest_zero, if_neg (not_le.mpr threshold_pos)]
    exact congrArg some (by rw [Number.toRat, Nat.cast_zero, zero_mul])
  next nonzero =>
    have quotient : (0 : ℚ) < a / b := by positivity
    have rounded := scaled_eq hb a (unitPlace (a / b))
    dsimp only
    rw [unitExponent_eq hb nonzero]
    generalize roundQuotient _ _ = units at *
    have value : nearest (a / b) = units * 2 ^ unitPlace (a / b) := by
      rw [nearest, ← rounded, Int.cast_natCast]
    have low : units = 0 → unitPlace (a / b) < overflowExponent := by
      intro zero
      by_contra high
      have above : leastExponent < unitPlace (a / b) := lt_of_lt_of_le (by decide) (not_lt.mp high)
      have positive : (0 : ℚ) < 2 ^ 52 * 2 ^ unitPlace (a / b : ℚ) := by positivity
      have reached := le_nearest quotient above
      rw [value, zero, Nat.cast_zero, zero_mul] at reached
      linarith
    have passes := overflow_test low
    rw [← value, overflow_iff quotient] at passes
    split
    next large =>
      rw [if_pos (passes.mp large)]
      rfl
    next within =>
      rw [if_neg fun large => within (passes.mpr large), value]
      rfl

end Quotient

section Decimal

/-- Ten is more than the third power of two. -/
theorem two_zpow_le {k : ℤ} (hk : 0 ≤ k) : (2 : ℚ) ^ (3 * k) ≤ 10 ^ k := by
  rw [zpow_mul]
  exact zpow_le_zpow_left₀ hk (by norm_num) (by norm_num)

theorem ten_zpow_le {k : ℤ} (hk : k ≤ 0) : (10 : ℚ) ^ k ≤ 2 ^ (3 * k) := by
  have inverse := inv_anti₀ (by positivity) (two_zpow_le (by omega : 0 ≤ -k))
  rwa [← zpow_neg, ← zpow_neg, neg_neg, mul_neg, neg_neg] at inverse

variable (d : Decimal)

theorem ofDecimal?_map :
    (ofDecimal? d).map Number.toRat =
      if threshold ≤ |d.toRat| then none else some (nearest |d.toRat|) := by
  have zeroNumber : (⟨0, 0⟩ : Number).toRat = 0 := by rw [Number.toRat, Nat.cast_zero, zero_mul]
  cases zero : d.isZero with
  | true =>
    rw [ofDecimal?, zero, Bool.true_or, if_pos rfl, (Decimal.toRat_eq_zero_iff d).mpr zero,
      abs_zero, nearest_zero, if_neg (not_le.mpr threshold_pos)]
    exact congrArg some zeroNumber
  | false =>
    have positive := Decimal.abs_toRat_pos zero
    obtain ⟨lower, upper⟩ := (log_ten_eq_iff positive _).mp (d.adjusted_eq_log zero).symm
    rw [ofDecimal?, zero, Bool.false_or]
    split
    next small =>
      have small : d.adjusted + 1 ≤ -400 := by simpa using small
      have tiny : |d.toRat| < 2 ^ (leastExponent - 1) :=
        calc |d.toRat| < 10 ^ (d.adjusted + 1) := upper
          _ ≤ 10 ^ (-400 : ℤ) := zpow_le_zpow_right₀ (by norm_num) small
          _ ≤ 2 ^ (3 * -400 : ℤ) := ten_zpow_le (by decide)
          _ ≤ 2 ^ (leastExponent - 1) := zpow_le_zpow_right₀ one_le_two (by decide)
      have within : |d.toRat| < threshold :=
        calc |d.toRat| < 2 ^ (leastExponent - 1) := tiny
          _ ≤ 2 ^ (overflowExponent - 1) := zpow_le_zpow_right₀ one_le_two (by decide)
          _ < threshold := threshold_bounds.1
      rw [if_neg (not_le.mpr within), nearest_eq_zero positive tiny]
      exact congrArg some zeroNumber
    next =>
      split
      next large =>
        have huge : threshold ≤ |d.toRat| :=
          calc threshold ≤ 2 ^ overflowExponent := threshold_bounds.2.le
            _ ≤ 2 ^ (3 * 400 : ℤ) := zpow_le_zpow_right₀ one_le_two (by decide)
            _ ≤ 10 ^ (400 : ℤ) := two_zpow_le (by decide)
            _ ≤ 10 ^ d.adjusted := zpow_le_zpow_right₀ (by norm_num) large.le
            _ ≤ |d.toRat| := lower
        rw [if_pos huge]
        rfl
      next =>
        have quotient := scaled_quotient (by decide : 0 < 10) d.coefficient 1 (-d.exponent)
        rw [neg_neg, Nat.cast_one, div_one, Nat.cast_ofNat, zpow_neg, div_inv_eq_mul, one_mul,
          ← d.abs_toRat] at quotient
        rw [ofQuotient?_map (by positivity), quotient]

/-- The whole part is that of the nearest number. -/
theorem truncate?_eq :
    truncate? d =
      if threshold ≤ |d.toRat| then none else some (withSign d.negative ⌊nearest |d.toRat|⌋) := by
  have truncated : truncate? d =
      ((ofDecimal? d).map Number.toRat).map fun q => withSign d.negative ⌊q⌋ := by
    rw [truncate?, Option.map_map]
    congr 1
    funext x
    show _ = withSign d.negative ⌊x.toRat⌋
    rw [← x.truncate_eq]
    rfl
  rw [truncated, ofDecimal?_map]
  split <;> rfl

end Decimal

end Reckoner.Binary64
