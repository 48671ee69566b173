import Mathlib
import Reckoner.Proofs.Decimal.Fitting
import Reckoner.Proofs.Outcome

/-! Directed rounding. Contexts that differ in their rounding alone have the same numbers to choose
from; rounding downward gives the least of all results and rounding upward the largest, and both
keep the order of what is rounded. Where nothing is negative, rounding toward zero is rounding
downward and rounding away from zero is rounding upward, digit for digit. -/

namespace Reckoner

/-- The first rounding stays under the second: it sends numbers that are not negative to such
numbers, and under what the second makes of any number that is no smaller. -/
def RoundsUnder (low high : ℚ → Except Signal ℚ) : Prop :=
  ∀ x y r s, 0 ≤ x → x ≤ y → low x = .ok r → high y = .ok s → 0 ≤ r ∧ r ≤ s

theorem exact_under_exact : RoundsUnder .ok .ok := by
  intro x y r s nonneg le hr hs
  cases hr
  cases hs
  exact ⟨nonneg, le⟩

namespace Context

variable (ctx : Context)

def withRounding (mode : Rounding) : Context := { ctx with rounding := mode }

theorem roundRat_eq_ok {q r : ℚ} (h : ctx.roundRat q = .ok r) : r = ctx.correct q := by
  rw [roundRat] at h
  split at h
  · cases h
  · exact (Except.ok.inj h).symm

theorem correct_down_le (mode : Rounding) (q : ℚ) :
    (ctx.withRounding .down).correct q ≤ (ctx.withRounding mode).correct q := by
  have floor : ((⌊q / 10 ^ ctx.unitPlace q⌋ : ℤ) : ℚ) ≤
      mode.toInteger (q / 10 ^ ctx.unitPlace q) := by
    exact_mod_cast mode.floor_le_toInteger _
  exact mul_le_mul_of_nonneg_right floor (by positivity)

theorem correct_le_up (mode : Rounding) (q : ℚ) :
    (ctx.withRounding mode).correct q ≤ (ctx.withRounding .up).correct q := by
  have ceil : ((mode.toInteger (q / 10 ^ ctx.unitPlace q) : ℤ) : ℚ) ≤
      ⌈q / 10 ^ ctx.unitPlace q⌉ := by
    exact_mod_cast mode.toInteger_le_ceil _
  exact mul_le_mul_of_nonneg_right ceil (by positivity)

theorem correct_down_mono {x y : ℚ} (le : x ≤ y) :
    (ctx.withRounding .down).correct x ≤ (ctx.withRounding .down).correct y := by
  obtain ⟨⟨member, below⟩, -⟩ := (ctx.withRounding .down).correct_isGreatest rfl x
  exact ((ctx.withRounding .down).correct_isGreatest rfl y).2 ⟨member, below.trans le⟩

theorem correct_up_mono {x y : ℚ} (le : x ≤ y) :
    (ctx.withRounding .up).correct x ≤ (ctx.withRounding .up).correct y := by
  obtain ⟨⟨member, above⟩, -⟩ := (ctx.withRounding .up).correct_isLeast rfl y
  exact ((ctx.withRounding .up).correct_isLeast rfl x).2 ⟨member, le.trans above⟩

theorem down_under_exact : RoundsUnder (ctx.withRounding .down).roundRat .ok := by
  intro x y r s nonneg le hr hs
  cases hs
  rw [roundRat_eq_ok _ hr]
  have below := ((ctx.withRounding .down).correct_isGreatest rfl x).1.2
  exact ⟨correct_nonneg _ nonneg, below.trans le⟩

theorem exact_under_up : RoundsUnder .ok (ctx.withRounding .up).roundRat := by
  intro x y r s nonneg le hr hs
  cases hr
  rw [roundRat_eq_ok _ hs]
  have above := ((ctx.withRounding .up).correct_isLeast rfl y).1.2
  exact ⟨nonneg, le.trans above⟩

theorem down_under (mode : Rounding) :
    RoundsUnder (ctx.withRounding .down).roundRat (ctx.withRounding mode).roundRat := by
  intro x y r s nonneg le hr hs
  rw [roundRat_eq_ok _ hr, roundRat_eq_ok _ hs]
  exact ⟨correct_nonneg _ nonneg, (ctx.correct_down_mono le).trans (ctx.correct_down_le mode y)⟩

theorem under_up (mode : Rounding) :
    RoundsUnder (ctx.withRounding mode).roundRat (ctx.withRounding .up).roundRat := by
  intro x y r s nonneg le hr hs
  rw [roundRat_eq_ok _ hr, roundRat_eq_ok _ hs]
  exact ⟨correct_nonneg _ nonneg, (ctx.correct_le_up mode x).trans (ctx.correct_up_mono le)⟩

end Context

/-- The two roundings treat magnitudes without a sign alike. -/
def Rounding.Alike (m n : Rounding) : Prop :=
  ∀ odd tail, m.increments false odd tail = n.increments false odd tail

namespace Rounding

theorem Alike.symm {m n : Rounding} (h : m.Alike n) : n.Alike m :=
  fun odd tail => (h odd tail).symm

theorem zero_alike_down : Alike .zero .down := by
  intro odd tail
  cases tail <;> rfl

theorem awayZero_alike_up : Alike .awayZero .up := by
  intro odd tail
  cases tail <;> rfl

/-- A computation with a rounding as its input: it has one outcome under roundings that are alike,
and all its results are good. -/
structure Steady {ε α : Type} (good : α → Prop) (f : Rounding → Except ε α) : Prop where
  alike : ∀ m n, m.Alike n → f m = f n
  result : ∀ mode a, f mode = .ok a → good a

namespace Steady

variable {ε ε' α β : Type} {good : α → Prop} {fine : β → Prop} {f : Rounding → Except ε α}

theorem ok {a : α} (h : good a) : Steady good fun _ => (.ok a : Except ε α) where
  alike _ _ _ := rfl
  result _ _ computed := Except.ok.inj computed ▸ h

theorem bind {g : Rounding → α → Except ε β} (hf : Steady good f)
    (hg : ∀ a, good a → Steady fine (g · a)) : Steady fine fun mode => f mode >>= g mode where
  alike m n alike := by
    rw [hf.alike m n alike]
    cases outcome : f n with
    | error e => rfl
    | ok a => exact (hg a (hf.result n a outcome)).alike m n alike
  result mode b computed := by
    obtain ⟨a, first, computed⟩ := bind_eq_ok.mp computed
    exact (hg a (hf.result mode a first)).result mode b computed

theorem map {g : α → β} (hf : Steady good f) (hg : ∀ a, good a → fine (g a)) :
    Steady fine fun mode => g <$> f mode where
  alike m n alike := by
    rw [hf.alike m n alike]
  result mode b computed := by
    obtain ⟨a, first, rfl⟩ := map_eq_ok.mp computed
    exact hg a (hf.result mode a first)

theorem mapError (hf : Steady good f) (g : ε → ε') :
    Steady good fun mode => (f mode).mapError g where
  alike m n alike := by
    rw [hf.alike m n alike]
  result mode a computed := hf.result mode a (mapError_eq_ok.mp computed)

end Steady

end Rounding

namespace Context

variable (ctx : Context)

theorem round_alike {m n : Rounding} (alike : m.Alike n) (magnitude : Magnitude) (ideal : Int) :
    (ctx.withRounding m).round false magnitude ideal =
      (ctx.withRounding n).round false magnitude ideal := by
  by_cases zero : magnitude.numerator = 0
  · rw [round, if_pos zero, round, if_pos zero]
    rfl
  obtain ⟨units, tail, quantized⟩ : ∃ units tail,
      magnitude.quantize (ctx.quantum magnitude) = (units, tail) := ⟨_, _, rfl⟩
  by_cases exact : tail = .none
  · subst exact
    rw [(ctx.withRounding m).round_exact zero quantized,
      (ctx.withRounding n).round_exact zero quantized]
    rfl
  · have step := alike (units % 2 == 1) tail
    rw [(ctx.withRounding m).round_inexact zero quantized exact rfl,
      (ctx.withRounding n).round_inexact zero quantized exact rfl]
    simp only [withRounding, step]
    rfl

theorem round_negative {negative : Bool} {magnitude : Magnitude} {ideal : Int} {d : Decimal}
    (h : ctx.round negative magnitude ideal = .ok d) : d.negative = negative := by
  unfold round at h
  dsimp only at h
  split at h
  · cases h
    rfl
  split at h
  · rw [(deliver_eq_ok h).1]
  · split at h <;> split at h <;> rw [(deliver_eq_ok h).1]

/-- What an operation on unsigned operands comes to under every rounding: one magnitude, rounded
without a sign. -/
def Unsigned (operation : Context → Except Signal Decimal) : Prop :=
  ∃ magnitude ideal, ∀ mode, operation (ctx.withRounding mode) =
    (ctx.withRounding mode).round false magnitude ideal

theorem signedSum_unsigned {a b : Decimal} (ha : a.negative = false) (hb : b.negative = false) :
    (ctx.signedSum a b).1 = false := by
  unfold signedSum alignedSum
  dsimp only
  rw [ha, hb]
  split_ifs <;> rfl

theorem add_unsigned {a b : Decimal} (ha : a.negative = false) (hb : b.negative = false) :
    ctx.Unsigned (·.add a b) := by
  refine ⟨(ctx.signedSum a b).2, min a.exponent b.exponent, fun mode => ?_⟩
  have same : (ctx.withRounding mode).signedSum a b = ctx.signedSum a b := rfl
  have sign : (if (ctx.signedSum a b).2.numerator = 0 then
      (ctx.withRounding mode).zeroSign a.negative b.negative else (ctx.signedSum a b).1) = false := by
    rw [ctx.signedSum_unsigned ha hb, ha, hb]
    split <;> rfl
  show add _ a b = _
  rw [add]
  dsimp only
  rw [same, sign]

theorem mul_unsigned {a b : Decimal} (ha : a.negative = false) (hb : b.negative = false) :
    ctx.Unsigned (·.mul a b) := by
  refine ⟨⟨a.coefficient * b.coefficient, 1, a.exponent + b.exponent⟩, a.exponent + b.exponent,
    fun mode => ?_⟩
  show (ctx.withRounding mode).round (a.negative != b.negative) _ _ = _
  rw [ha, hb]
  rfl

theorem div_unsigned {a b : Decimal} (ha : a.negative = false) (hb : b.negative = false)
    (nonzero : b.isZero = false) : ctx.Unsigned (·.div a b) := by
  refine ⟨⟨a.coefficient, b.coefficient, a.exponent - b.exponent⟩, a.exponent - b.exponent,
    fun mode => ?_⟩
  show div _ a b = _
  rw [div, if_neg (by simp [nonzero]), ha, hb]
  rfl

theorem roundIn_unsigned {d : Decimal} (hd : d.negative = false) : ctx.Unsigned (d.roundIn ·) := by
  refine ⟨d.magnitude, d.exponent, fun mode => ?_⟩
  show d.roundIn _ = _
  rw [Decimal.roundIn, hd]

theorem Unsigned.steady {operation : Context → Except Signal Decimal} (h : ctx.Unsigned operation) :
    Rounding.Steady (·.negative = false) fun mode => operation (ctx.withRounding mode) where
  alike m n alike := by
    obtain ⟨magnitude, ideal, rounds⟩ := h
    rw [rounds, rounds, ctx.round_alike alike]
  result mode d computed := by
    obtain ⟨magnitude, ideal, rounds⟩ := h
    rw [rounds] at computed
    exact round_negative _ computed

end Context

end Reckoner
