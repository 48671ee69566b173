import Mathlib
import Reckoner.Proofs.Decimal.Comparison
import Reckoner.Proofs.Decimal.Layout

/-! Decimals with one number and several exponents. The digits of the one with the lower exponent
are those of the other and zeros, which the display fills up or cuts in any case; and whatever is
rounded is rounded by its number alone. -/

namespace Reckoner

theorem writeDigits_mul_pow {n : ℕ} (positive : n ≠ 0) (k : ℕ) :
    writeDigits (n * 10 ^ k) = writeDigits n ++ List.replicate k '0' := by
  induction k with
  | zero => simp
  | succ k ih =>
    have nonzero : n * 10 ^ k ≠ 0 := by positivity
    have split : n * 10 ^ (k + 1) = n * 10 ^ k * 10 := by rw [pow_succ, mul_assoc]
    rw [split, writeDigits, Nat.toDigits_eq_if (by decide), if_neg (by omega),
      Nat.mul_div_cancel _ (by decide), Nat.mul_mod_left, List.replicate_succ', ← List.append_assoc,
      ← ih]
    rfl

namespace Decimal

/-- Two decimals for one number, whatever their exponents. -/
abbrev SameNumber (a b : Decimal) : Prop := a.toRat = b.toRat

variable {a b : Decimal}

theorem isZero_eq_of_same (same : a.SameNumber b) : a.isZero = b.isZero := by
  rw [Bool.eq_iff_iff, ← toRat_eq_zero_iff, ← toRat_eq_zero_iff, same]

theorem negative_iff_toRat_neg {d : Decimal} (nonzero : d.isZero = false) :
    d.negative ↔ d.toRat < 0 := by
  cases negative : d.negative with
  | true => exact iff_of_true rfl (toRat_neg_of (by rw [negative, nonzero]; rfl))
  | false => exact iff_of_false (by decide) (not_lt.mpr (toRat_nonneg_of (by rw [negative]; rfl)))

/-- Only zeros of both signs denote one number. -/
theorem negative_eq_of_same (nonzero : a.isZero = false) (same : a.SameNumber b) :
    a.negative = b.negative := by
  have nonzero' : b.isZero = false := (isZero_eq_of_same same).symm.trans nonzero
  rw [Bool.eq_iff_iff, negative_iff_toRat_neg nonzero, negative_iff_toRat_neg nonzero', same]

theorem adjusted_eq_of_same (nonzero : a.isZero = false) (same : a.SameNumber b) :
    a.adjusted = b.adjusted := by
  rw [a.adjusted_eq_log nonzero, same, ← b.adjusted_eq_log]
  exact (isZero_eq_of_same same).symm.trans nonzero

theorem below_congr {a b a' b' : Decimal} (ha : a.SameNumber a')
    (hb : b.SameNumber b') : a.below b = a'.below b' := by
  rw [Bool.eq_iff_iff, below_iff, below_iff, ha, hb]

/-- The coefficient for the lower exponent is the other one with zeros after it. -/
theorem coefficient_eq_of_same (same : a.SameNumber b) (le : a.exponent ≤ b.exponent) :
    a.coefficient = b.coefficient * 10 ^ (b.exponent - a.exponent).toNat := by
  have magnitude := congrArg (fun q : ℚ => |q|) same
  rw [a.abs_toRat, b.abs_toRat_at le] at magnitude
  have unit : (10 : ℚ) ^ a.exponent ≠ 0 := by positivity
  exact_mod_cast mul_right_cancel₀ unit magnitude

theorem filled_eq_of_same {width : ℕ} (some_digit : 0 < width) (nonzero : a.isZero = false)
    (same : a.SameNumber b) (ha : a.coefficient < 10 ^ width) (hb : b.coefficient < 10 ^ width) :
    a.filled width = b.filled width := by
  wlog le : a.exponent ≤ b.exponent generalizing a b
  · exact (this ((isZero_eq_of_same same).symm.trans nonzero) same.symm hb ha
      (not_le.mp le).le).symm
  have positive : b.coefficient ≠ 0 := by
    simpa [isZero] using (isZero_eq_of_same same).symm.trans nonzero
  have digits := coefficient_eq_of_same same le
  have length : (writeDigits a.coefficient).length ≤ width :=
    (Nat.length_toDigits_le_iff (by decide) some_digit).mpr ha
  have zeros := writeDigits_mul_pow positive (b.exponent - a.exponent).toNat
  rw [digits, zeros, List.length_append, List.length_replicate] at length
  rw [filled, digits, zeros, List.append_assoc, ← List.replicate_add, filled, List.length_append,
    List.length_replicate]
  congr 2
  omega

theorem laidOut_eq_of_same {width : ℕ} (some_digit : 0 < width) (nonzero : a.isZero = false)
    (same : a.SameNumber b) (ha : a.coefficient < 10 ^ width) (hb : b.coefficient < 10 ^ width) :
    a.laidOut width = b.laidOut width := by
  rw [laidOut, laidOut, negative_eq_of_same nonzero same, adjusted_eq_of_same nonzero same,
    filled_eq_of_same some_digit nonzero same ha hb]

/-- Rounding leaves one number, which has one sign and one text; what is rounded to zero stands at
the least place. -/
theorem laidOut_congr {ctx : Context} (nonzero : a.isZero = false) (same : a.SameNumber b)
    {r s : Decimal} (hr : ctx.plus a = .ok r) (hs : ctx.plus b = .ok s)
    (rounded : r.SameNumber s) : r.laidOut ctx.precision = s.laidOut ctx.precision := by
  obtain ⟨signA, digitsA, leastA⟩ := plus_spec nonzero hr
  obtain ⟨signB, digitsB, leastB⟩ := plus_spec ((isZero_eq_of_same same).symm.trans nonzero) hs
  have zero := isZero_eq_of_same rounded
  cases vanished : r.isZero with
  | true =>
    have sign : r.negative = s.negative := by
      rw [signA, signB, negative_eq_of_same nonzero same]
    have zeroA : r.coefficient = 0 := beq_iff_eq.mp vanished
    have zeroB : s.coefficient = 0 := beq_iff_eq.mp (zero.symm.trans vanished)
    rw [laidOut, laidOut, sign, leastA vanished, leastB (zero.symm.trans vanished), filled, filled,
      zeroA, zeroB]
  | false => exact laidOut_eq_of_same ctx.precision_pos vanished rounded digitsA digitsB

/-- The display text tells the number and nothing of its exponent. -/
theorem display_congr {width : ℕ} (some_digit : 0 < width) (same : a.SameNumber b) :
    a.display width some_digit = b.display width some_digit := by
  obtain ⟨ctx, precision⟩ : ∃ ctx : Context,
      ({ precision := width, precision_pos := some_digit } : Context) = ctx := ⟨_, rfl⟩
  have width_eq : width = ctx.precision := by rw [← precision]
  rw [display_eq, display_eq, ← isZero_eq_of_same same, precision]
  split
  · rfl
  · rename_i nonzero
    have rounded : (ctx.plus a).map toRat = (ctx.plus b).map toRat := by
      rw [ctx.plus_map_toRat, ctx.plus_map_toRat, same]
    have texts : Agree (fun r s => laidOut width r = laidOut width s) (ctx.plus a) (ctx.plus b) :=
      (Agree.of_map rounded).imp fun r s hr hs value =>
        width_eq ▸ laidOut_congr (by simpa using nonzero) same hr hs value
    exact (texts.map fun _ _ text => text).eq

end Decimal

namespace Context

variable (ctx : Context) {a b a' b' : Decimal}

/-- Two roundings of one number. -/
theorem agree_of_roundRat {r s : Except Signal Decimal} {q q' : ℚ}
    (hr : r.map Decimal.toRat = ctx.roundRat q) (hs : s.map Decimal.toRat = ctx.roundRat q')
    (same : q = q') : Agree Decimal.SameNumber r s :=
  .of_map (by rw [hr, hs, same])

theorem add_agree (ha : a.SameNumber a') (hb : b.SameNumber b') :
    Agree Decimal.SameNumber (ctx.add a b) (ctx.add a' b') :=
  ctx.agree_of_roundRat (ctx.add_map_toRat a b) (ctx.add_map_toRat a' b') (by rw [ha, hb])

theorem sub_agree (ha : a.SameNumber a') (hb : b.SameNumber b') :
    Agree Decimal.SameNumber (ctx.sub a b) (ctx.sub a' b') :=
  ctx.agree_of_roundRat (ctx.sub_map_toRat a b) (ctx.sub_map_toRat a' b') (by rw [ha, hb])

theorem mul_agree (ha : a.SameNumber a') (hb : b.SameNumber b') :
    Agree Decimal.SameNumber (ctx.mul a b) (ctx.mul a' b') :=
  ctx.agree_of_roundRat (ctx.mul_map_toRat a b) (ctx.mul_map_toRat a' b') (by rw [ha, hb])

theorem plus_agree (ha : a.SameNumber a') :
    Agree Decimal.SameNumber (ctx.plus a) (ctx.plus a') :=
  ctx.agree_of_roundRat (ctx.plus_map_toRat a) (ctx.plus_map_toRat a') ha

theorem minus_agree (ha : a.SameNumber a') :
    Agree Decimal.SameNumber (ctx.minus a) (ctx.minus a') :=
  ctx.agree_of_roundRat (ctx.minus_map_toRat a) (ctx.minus_map_toRat a') (by rw [ha])

end Context

end Reckoner
