import Mathlib
import Reckoner.Proofs.Decimal.Denotation

/-! Rounding of magnitudes is correct rounding: the units and the tail found by one integer
division are the floor and the fractional part of the magnitude over its unit, and the step to
the next unit is taken exactly when the integer of the direction lies there. The delivered
decimal has the digits and places of the context. -/

namespace Reckoner

/-- What a tail says of the fractional part it stands for. -/
def Tail.Describes (part : ℚ) : Tail → Prop
  | .none => part = 0
  | .belowHalf => 0 < part ∧ part < 1 / 2
  | .half => part = 1 / 2
  | .aboveHalf => 1 / 2 < part

theorem Tail.eq_none_iff {part : ℚ} {tail : Tail} (h : tail.Describes part) :
    tail = .none ↔ part = 0 := by
  cases tail with
  | none => exact iff_of_true rfl h
  | belowHalf => exact iff_of_false nofun h.1.ne'
  | half => exact iff_of_false nofun fun zero => by norm_num [zero, Describes] at h
  | aboveHalf => exact iff_of_false nofun fun zero => by norm_num [zero, Describes] at h

theorem Tail.describes_ofRemainder (remainder unit : Nat) (h : remainder < unit) :
    (ofRemainder remainder unit).Describes (remainder / unit : ℚ) := by
  have positive : (0 : ℚ) < unit := by
    have : unit ≠ 0 := by omega
    positivity
  rw [ofRemainder]
  split
  next zero => simp [zero, Describes]
  next nonzero =>
    rcases lt_trichotomy (2 * remainder) unit with lt | eq | gt
    · rw [compare_lt_iff_lt.mpr lt]
      have : (2 : ℚ) * remainder < unit := by exact_mod_cast lt
      refine ⟨by positivity, ?_⟩
      rw [div_lt_div_iff₀ positive two_pos]
      linarith
    · rw [compare_eq_iff_eq.mpr eq]
      have : (2 : ℚ) * remainder = unit := by exact_mod_cast eq
      show (_ : ℚ) = 1 / 2
      rw [div_eq_div_iff positive.ne' two_ne_zero]
      linarith
    · rw [compare_gt_iff_gt.mpr gt]
      have : (unit : ℚ) < 2 * remainder := by exact_mod_cast gt
      show (1 / 2 : ℚ) < _
      rw [div_lt_div_iff₀ two_pos positive]
      linarith

namespace Rounding

/-- The fractional part decides the step to the next unit in rounding to nearest alone. -/
theorem increments_eq (mode : Rounding) (negative odd : Bool) {tail : Tail} (h : tail ≠ .none) :
    mode.increments negative odd tail =
      match mode with
      | .nearest => tail = .aboveHalf || (tail = .half && odd)
      | .zero => false
      | .up => !negative
      | .down => negative
      | .awayZero => true := by
  cases tail <;> first | rfl | exact absurd rfl h

theorem nearest_neg (x : ℚ) : nearest.toInteger (-x) = -nearest.toInteger x := by
  rw [nearest_eq_iff, Int.cast_neg, neg_sub_neg, abs_sub_comm, even_neg]
  exact nearest_spec x

theorem nearest_units (negative : Bool) {x : ℚ} {units : Nat} {tail : Tail}
    (floor : ⌊x⌋ = units) (part : tail.Describes (Int.fract x)) :
    nearest.toInteger x =
      (if nearest.increments negative (units % 2 == 1) tail then units + 1 else units : ℤ) := by
  rw [toInteger, floor]
  cases tail with
  | none =>
    have whole : Int.fract x = 0 := part
    rw [if_pos (.inl (by rw [whole]; norm_num))]
    rfl
  | belowHalf =>
    rw [if_pos (.inl part.2)]
    rfl
  | half =>
    have tie : Int.fract x = 1 / 2 := part
    rcases Nat.mod_two_eq_zero_or_one units with even | odd
    · simp [increments, tie, even, Nat.even_iff]
    · simp [increments, tie, odd, Nat.even_iff]
  | aboveHalf =>
    have above : 1 / 2 < Int.fract x := part
    rw [if_neg]
    · rfl
    · rintro (below | ⟨tie, -⟩) <;> linarith

theorem nearest_withSign (negative : Bool) {x : ℚ} {units : Nat} {tail : Tail}
    (floor : ⌊x⌋ = units) (part : tail.Describes (Int.fract x)) :
    nearest.toInteger (withSign negative x) = withSign negative
      (if nearest.increments negative (units % 2 == 1) tail then units + 1 else units : ℤ) := by
  rw [← nearest_units negative floor part]
  cases negative with
  | false => rfl
  | true => exact nearest_neg x

theorem toInteger_withSign (mode : Rounding) (negative : Bool) {x : ℚ} (hx : 0 ≤ x)
    {units : Nat} {tail : Tail} (floor : ⌊x⌋ = units) (part : tail.Describes (Int.fract x)) :
    mode.toInteger (withSign negative x) = withSign negative
      (if mode.increments negative (units % 2 == 1) tail then units + 1 else units : ℤ) := by
  have split_x : x = units + Int.fract x := by
    have := Int.floor_add_fract x
    rw [floor] at this
    exact_mod_cast this.symm
  by_cases whole : Int.fract x = 0
  · have integer : withSign negative x = (withSign negative (units : ℤ) : ℤ) := by
      rw [split_x, whole]
      cases negative <;> simp
    rw [integer, toInteger_intCast, (Tail.eq_none_iff part).mpr whole]
    simp [increments]
  · have positive : 0 < x := lt_of_le_of_ne hx fun h => whole (by rw [← h, Int.fract_zero])
    have ceil : ⌈x⌉ = units + 1 := by
      rw [Int.ceil_eq_iff]
      have := Int.fract_lt_one x
      have := lt_of_le_of_ne (Int.fract_nonneg x) (Ne.symm whole)
      push_cast
      constructor <;> linarith
    have stepped := increments_eq mode negative (units % 2 == 1)
      fun h => whole ((Tail.eq_none_iff part).mp h)
    cases mode with
    | nearest => exact nearest_withSign negative floor part
    | zero => cases negative <;> simp [stepped, toInteger, hx, positive.not_ge, floor, Int.ceil_neg]
    | up => cases negative <;> simp [stepped, toInteger, ceil, floor, Int.ceil_neg]
    | down => cases negative <;> simp [stepped, toInteger, ceil, floor, Int.floor_neg]
    | awayZero => cases negative <;> simp [stepped, toInteger, hx, positive.not_ge, ceil, Int.floor_neg]

end Rounding

namespace Magnitude

variable {m : Magnitude}

theorem lt_of_quantize_small (hn : m.numerator ≠ 0) (hd : m.denominator ≠ 0) {place : ℤ}
    (small : m.leading + 1 < place) : m.toRat / 10 ^ place < 1 / 2 := by
  have upper := ((log_ten_eq_iff (toRat_pos hn hd) _).mp (leading_eq_log hn hd).symm).2
  rw [div_lt_iff₀ (by positivity)]
  calc m.toRat < 10 ^ (m.leading + 1) := upper
    _ ≤ 10 ^ (place - 1) := zpow_le_zpow_right₀ (by norm_num) (by omega)
    _ < 1 / 2 * 10 ^ place := by
      rw [zpow_sub_one₀ (by norm_num), mul_comm]
      exact mul_lt_mul_of_pos_right (by norm_num) (by positivity)

theorem scaled_div_unit (m : Magnitude) (place : ℤ) :
    ((m.numerator * 10 ^ (m.exponent - place).toNat : ℕ) : ℚ) /
      (m.denominator * 10 ^ (place - m.exponent).toNat : ℕ) = m.toRat / 10 ^ place := by
  have general :=
    scaled_quotient (by decide : 0 < 10) m.numerator m.denominator (place - m.exponent)
  rwa [neg_sub, Nat.cast_ofNat, zpow_sub₀ (by norm_num), div_div_eq_mul_div] at general

theorem quantize_spec (hn : m.numerator ≠ 0) (hd : m.denominator ≠ 0) (place : ℤ) :
    ⌊m.toRat / 10 ^ place⌋ = (m.quantize place).1 ∧
      (m.quantize place).2.Describes (Int.fract (m.toRat / 10 ^ place)) := by
  have positive := toRat_pos hn hd
  rw [quantize]
  split
  next small =>
    have upper := lt_of_quantize_small hn hd small
    have lower : 0 < m.toRat / 10 ^ place := by positivity
    have floor : ⌊m.toRat / 10 ^ place⌋ = 0 := by
      rw [Int.floor_eq_zero_iff]
      exact ⟨lower.le, by linarith⟩
    refine ⟨floor, ?_⟩
    rw [Int.fract, floor, Int.cast_zero, sub_zero]
    exact ⟨lower, upper⟩
  next =>
    have unit : 0 < m.denominator * 10 ^ (place - m.exponent).toNat := by positivity
    dsimp only
    rw [← scaled_div_unit, Int.fract_div_natCast_eq_div_natCast_mod]
    refine ⟨?_, Tail.describes_ofRemainder _ _ (Nat.mod_lt _ unit)⟩
    rw [← Int.natCast_floor_eq_floor (by positivity), Nat.floor_div_eq_div]

end Magnitude

namespace Decimal

/-- Zeros at the end of a coefficient may stand in the exponent. -/
theorem toRat_dropZeros (negative : Bool) (limit units : Nat) (place : ℤ) :
    toRat ⟨negative, (dropZeros limit units).1, place + (dropZeros limit units).2⟩ =
      toRat ⟨negative, units, place⟩ := by
  have kept : ((dropZeros limit units).1 : ℚ) * 10 ^ (dropZeros limit units).2 = units := by
    exact_mod_cast dropZeros_mul_pow limit units
  rw [toRat, toRat, ← kept, zpow_add₀ (by norm_num), zpow_natCast]
  congr 1
  ring

/-- A digit more is a zero at the end of the power of ten. -/
theorem toRat_carry {negative : Bool} {precision : Nat} (positive : 0 < precision) (place : ℤ) :
    toRat ⟨negative, 10 ^ (precision - 1), place + 1⟩ = toRat ⟨negative, 10 ^ precision, place⟩ := by
  have power := pow_sub_one_mul positive.ne' (10 : ℚ)
  rw [toRat, toRat, Nat.cast_pow, Nat.cast_pow, Nat.cast_ofNat, ← power, zpow_add_one₀ (by norm_num)]
  congr 1
  ring

end Decimal

namespace Context

variable (ctx : Context)

theorem deliver_map_toRat (d : Decimal) :
    (ctx.deliver d).map Decimal.toRat =
      if 10 ^ (ctx.emax + 1) ≤ |d.toRat| then .error .overflow else .ok d.toRat := by
  rw [deliver]
  cases zero : d.isZero with
  | true =>
    rw [(Decimal.toRat_eq_zero_iff d).mpr zero, abs_zero,
      if_neg (not_le.mpr (by positivity))]
    simp [Except.map, (Decimal.toRat_eq_zero_iff d).mpr zero]
  | false =>
    have above : ctx.emax < d.adjusted ↔ 10 ^ (ctx.emax + 1) ≤ |d.toRat| := by
      have := Int.zpow_le_iff_le_log (b := 10) (by decide) (x := ctx.emax + 1)
        (Decimal.abs_toRat_pos zero)
      rw [Nat.cast_ofNat] at this
      rw [this, d.adjusted_eq_log zero, Int.add_one_le_iff]
    simp only [Bool.not_false, Bool.true_and, decide_eq_true_eq, above]
    split <;> rfl

/-- A decimal with the digits and places of a context, its leading digit standing anywhere; a
number rounded away to zero stands at the least place. -/
structure Holds (d : Decimal) : Prop where
  digits : d.coefficient < 10 ^ ctx.precision
  place : ctx.etiny ≤ d.exponent
  zero : d.isZero → d.exponent = ctx.etiny

variable {m : Magnitude} (hn : m.numerator ≠ 0) (hd : m.denominator ≠ 0)
include hn hd

theorem quantum_eq_unitPlace (negative : Bool) :
    ctx.quantum m = ctx.unitPlace (withSign negative m.toRat) := by
  rw [quantum, unitPlace, abs_withSign, abs_of_nonneg m.toRat_nonneg, Magnitude.leading_eq_log hn hd]

theorem scaled_lt : m.toRat / 10 ^ ctx.quantum m < 10 ^ ctx.precision := by
  have upper := ((log_ten_eq_iff (Magnitude.toRat_pos hn hd) _).mp
    (Magnitude.leading_eq_log hn hd).symm).2
  rw [div_lt_iff₀ (by positivity), ← zpow_natCast, ← zpow_add₀ (by norm_num)]
  refine upper.trans_le (zpow_le_zpow_right₀ (by norm_num) ?_)
  have : m.leading - ctx.precision + 1 ≤ ctx.quantum m := le_max_left _ _
  omega

/-- Above the least place, a number has all the digits of the context. -/
theorem one_le_scaled (above : ctx.etiny < ctx.quantum m) :
    1 ≤ m.toRat / 10 ^ ctx.quantum m := by
  have lower := ((log_ten_eq_iff (Magnitude.toRat_pos hn hd) _).mp
    (Magnitude.leading_eq_log hn hd).symm).1
  have place : ctx.quantum m = m.leading - ctx.precision + 1 := by
    rw [quantum] at above ⊢
    omega
  have := ctx.precision_pos
  rw [one_le_div₀ (by positivity)]
  exact (zpow_le_zpow_right₀ (by norm_num) (by omega)).trans lower

/-- The digits of the context suffice for the whole units. -/
theorem quantize_lt : (m.quantize (ctx.quantum m)).1 < 10 ^ ctx.precision := by
  have digits := (Int.floor_le _).trans_lt (ctx.scaled_lt hn hd)
  rw [(Magnitude.quantize_spec hn hd _).1] at digits
  exact_mod_cast digits

/-- What has no whole unit lies under the least place. -/
theorem quantum_eq_etiny (none : (m.quantize (ctx.quantum m)).1 = 0) :
    ctx.quantum m = ctx.etiny := by
  by_contra above
  have one := ctx.one_le_scaled hn hd (lt_of_le_of_ne (le_max_right _ _) (Ne.symm above))
  have whole : (1 : ℤ) ≤ ⌊m.toRat / 10 ^ ctx.quantum m⌋ := Int.le_floor.mpr (by exact_mod_cast one)
  rw [(Magnitude.quantize_spec hn hd _).1, none] at whole
  exact absurd whole (by decide)

/-- A number without a tail has whole units. -/
theorem units_ne_zero {units : Nat} (quantized : m.quantize (ctx.quantum m) = (units, .none)) :
    units ≠ 0 := by
  rintro rfl
  obtain ⟨floor, part⟩ := Magnitude.quantize_spec hn hd (ctx.quantum m)
  rw [quantized] at floor part
  have zero := Int.floor_add_fract (m.toRat / 10 ^ ctx.quantum m)
  rw [floor, (Tail.eq_none_iff part).mp rfl, add_zero] at zero
  have positive : 0 < m.toRat / 10 ^ ctx.quantum m :=
    div_pos (Magnitude.toRat_pos hn hd) (by positivity)
  exact positive.ne (Nat.cast_zero.symm.trans zero)

/-- Correct rounding in units of the last place. -/
theorem correct_eq_units {negative : Bool} {units : Nat} {tail : Tail}
    (quantized : m.quantize (ctx.quantum m) = (units, tail)) {rounded : Nat}
    (step : (if ctx.rounding.increments negative (units % 2 == 1) tail then units + 1 else units) =
      rounded) :
    ctx.correct (withSign negative m.toRat) =
      Decimal.toRat ⟨negative, rounded, ctx.quantum m⟩ := by
  obtain ⟨floor, part⟩ := Magnitude.quantize_spec hn hd (ctx.quantum m)
  rw [quantized] at floor part
  have nonneg : 0 ≤ m.toRat / 10 ^ ctx.quantum m := div_nonneg m.toRat_nonneg (by positivity)
  rw [correct, ← ctx.quantum_eq_unitPlace hn hd, withSign_div,
    Rounding.toInteger_withSign _ _ nonneg floor part, Decimal.toRat, ← withSign_mul_right, ← step]
  congr 1
  cases negative <;> split <;> simp

omit hd in
theorem round_exact {negative : Bool} {ideal : Int} {units : Nat}
    (quantized : m.quantize (ctx.quantum m) = (units, .none)) :
    ctx.round negative m ideal =
      ctx.deliver ⟨negative, (dropZeros (ideal - ctx.quantum m).toNat units).1,
        ctx.quantum m + (dropZeros (ideal - ctx.quantum m).toNat units).2⟩ := by
  rw [round, if_neg hn]
  dsimp only
  rw [quantized]

omit hd in
theorem round_inexact {negative : Bool} {ideal : Int} {units : Nat} {tail : Tail}
    (quantized : m.quantize (ctx.quantum m) = (units, tail)) (inexact : tail ≠ .none) {rounded : Nat}
    (step : (if ctx.rounding.increments negative (units % 2 == 1) tail then units + 1 else units) =
      rounded) :
    ctx.round negative m ideal =
      if rounded = 10 ^ ctx.precision then
        ctx.deliver ⟨negative, 10 ^ (ctx.precision - 1), ctx.quantum m + 1⟩
      else ctx.deliver ⟨negative, rounded, ctx.quantum m⟩ := by
  rw [round, if_neg hn]
  dsimp only
  rw [quantized, ← step]
  cases tail <;> first | rfl | exact absurd rfl inexact

/-- Whole units are delivered with any zeros at their end left out. -/
theorem round_eq_deliver_exact {negative : Bool} {ideal : Int} {units : Nat}
    (quantized : m.quantize (ctx.quantum m) = (units, .none)) :
    ∃ d, ctx.round negative m ideal = ctx.deliver d ∧
      d.toRat = ctx.correct (withSign negative m.toRat) ∧ d.negative = negative ∧ ctx.Holds d := by
  have least : ctx.etiny ≤ ctx.quantum m := le_max_right _ _
  have few := ctx.quantize_lt hn hd
  have some := ctx.units_ne_zero hn hd quantized
  have kept := dropZeros_mul_pow (ideal - ctx.quantum m).toNat units
  have step : (if ctx.rounding.increments negative (units % 2 == 1) .none then units + 1
      else units) = units := if_neg Bool.false_ne_true
  refine ⟨_, ctx.round_exact hn quantized, ?_, rfl, ?_, by dsimp only; omega, fun zero => ?_⟩
  · rw [ctx.correct_eq_units hn hd quantized step, Decimal.toRat_dropZeros]
  · rw [quantized] at few
    calc _ ≤ units := by
            conv_rhs => rw [← kept]
            exact Nat.le_mul_of_pos_right _ (by positivity)
        _ < _ := few
  · have kept_zero : (dropZeros (ideal - ctx.quantum m).toNat units).1 = 0 := beq_iff_eq.mp zero
    exact absurd (by rw [← kept, kept_zero, Nat.zero_mul]) some

/-- Units with a tail are delivered with all their places, unless they pass to one digit more. -/
theorem round_eq_deliver_inexact {negative : Bool} {ideal : Int} {units : Nat} {tail : Tail}
    (quantized : m.quantize (ctx.quantum m) = (units, tail)) (inexact : tail ≠ .none) :
    ∃ d, ctx.round negative m ideal = ctx.deliver d ∧
      d.toRat = ctx.correct (withSign negative m.toRat) ∧ d.negative = negative ∧ ctx.Holds d := by
  have least : ctx.etiny ≤ ctx.quantum m := le_max_right _ _
  have few := ctx.quantize_lt hn hd
  have zero_place := ctx.quantum_eq_etiny hn hd
  rw [quantized] at few zero_place
  obtain ⟨rounded, step⟩ : ∃ rounded, (if ctx.rounding.increments negative (units % 2 == 1) tail
      then units + 1 else units) = rounded := ⟨_, rfl⟩
  have value := ctx.correct_eq_units hn hd quantized step
  have rounded_le : units ≤ rounded ∧ rounded ≤ 10 ^ ctx.precision := by
    split at step <;> omega
  rw [ctx.round_inexact hn quantized inexact step, value]
  split
  next carry =>
    refine ⟨_, rfl, ?_, rfl, ?_, by dsimp only; omega, fun zero => ?_⟩
    · rw [carry, Decimal.toRat_carry ctx.precision_pos]
    · exact Nat.pow_lt_pow_right (by decide) (Nat.sub_lt ctx.precision_pos one_pos)
    · exact absurd (beq_iff_eq.mp zero) (by positivity)
  next carry =>
    refine ⟨_, rfl, rfl, rfl, lt_of_le_of_ne rounded_le.2 carry, least, fun zero => ?_⟩
    have none : rounded = 0 := beq_iff_eq.mp zero
    exact zero_place (by dsimp only; omega)

/-- Rounding delivers the correctly rounded number, with its sign, in the form of the context. -/
theorem round_eq_deliver (negative : Bool) (ideal : Int) :
    ∃ d, ctx.round negative m ideal = ctx.deliver d ∧
      d.toRat = ctx.correct (withSign negative m.toRat) ∧ d.negative = negative ∧ ctx.Holds d := by
  obtain ⟨units, tail, quantized⟩ : ∃ units tail, m.quantize (ctx.quantum m) = (units, tail) :=
    ⟨_, _, rfl⟩
  by_cases exact : tail = .none
  · exact ctx.round_eq_deliver_exact hn hd (exact ▸ quantized)
  · exact ctx.round_eq_deliver_inexact hn hd quantized exact

omit hn in
theorem round_map_toRat (negative : Bool) (ideal : Int) :
    (ctx.round negative m ideal).map Decimal.toRat =
      ctx.roundRat (withSign negative m.toRat) := by
  by_cases zero : m.numerator = 0
  · have value : m.toRat = 0 := by simp [Magnitude.toRat, zero]
    rw [round, if_pos zero, value, withSign_zero, roundRat, correct_zero, abs_zero,
      if_neg (not_le.mpr (by positivity))]
    simp [Except.map, Decimal.toRat]
  · obtain ⟨d, delivered, value, -, -⟩ := ctx.round_eq_deliver zero hd negative ideal
    rw [delivered, deliver_map_toRat, roundRat, value]

end Context

namespace Decimal

theorem roundIn_map_toRat (ctx : Context) (d : Decimal) :
    (d.roundIn ctx).map toRat = ctx.roundRat d.toRat := by
  rw [roundIn, ctx.round_map_toRat Nat.one_ne_zero, toRat_magnitude]
  congr 1
  rw [abs_toRat, toRat]

end Decimal

end Reckoner
