import Mathlib
import Reckoner.Proofs.Decimal.DirectedRounding
import Reckoner.Proofs.Sine.Accuracy

/-! The sine is odd in every context. The angle counts without its sign, and what either
polynomial gives is already a number of the context; so the last step, which puts the sign on,
loses no digit in any direction of rounding. -/

namespace Reckoner

namespace Context

variable (ctx : Context) {q : ℚ} {d : Decimal} {r : Except Signal Decimal}

/-- A number of the context is rounded to itself in every direction. -/
theorem correct_of_mem_numbers (h : q ∈ ctx.numbers) : ctx.correct q = q :=
  le_antisymm (ctx.correct_le_of_mem_numbers h le_rfl) (ctx.le_correct_of_mem_numbers h le_rfl)

theorem zero_mem_numbers : 0 ∈ ctx.numbers := by
  refine ⟨0, ctx.etiny, ?_, le_rfl, by simp⟩
  rw [abs_zero]
  positivity

/-- What an operation delivers is a number of the context. -/
theorem mem_numbers_of_rounds (h : r.map Decimal.toRat = ctx.roundRat q) (delivered : r = .ok d) :
    d.toRat ∈ ctx.numbers := by
  rw [delivered] at h
  rw [ctx.roundRat_eq_ok h.symm]
  exact ctx.correct_mem_numbers q

/-- A number of the context and its opposite are inside the range together. -/
theorem roundRat_neg_of_mem_numbers (h : q ∈ ctx.numbers) :
    ctx.roundRat (-q) = (ctx.roundRat q).map fun x => -x := by
  rw [roundRat, roundRat, ctx.correct_of_mem_numbers h,
    ctx.correct_of_mem_numbers (ctx.neg_mem_numbers h), abs_neg]
  split <;> rfl

end Context

/-- Results that are opposite numbers. -/
def Decimal.Opposite (a b : Decimal) : Prop := b.toRat = -a.toRat

namespace Sine

variable (ctx : Context)

theorem horner_mem_numbers {square d : Decimal} {cs : List Decimal}
    (h : horner ctx square cs = .ok d) : d.toRat ∈ ctx.numbers := by
  cases cs with
  | nil =>
    cases h
    rw [Decimal.zero, Decimal.toRat_ofNat, Nat.cast_zero]
    exact ctx.zero_mem_numbers
  | cons c cs =>
    rw [horner_cons] at h
    obtain ⟨rest, -, h⟩ := bind_eq_ok.mp h
    obtain ⟨product, -, h⟩ := bind_eq_ok.mp h
    exact ctx.mem_numbers_of_rounds (ctx.add_map_toRat product c) h

/-- Either branch ends in an operation of the context. -/
theorem quadrant_mem_numbers {t : Table} {angle d : Decimal} (h : quadrant ctx t angle = .ok d) :
    d.toRat ∈ ctx.numbers := by
  unfold quadrant at h
  split at h
  · obtain ⟨complement, -, h⟩ := bind_eq_ok.mp h
    obtain ⟨square, -, h⟩ := bind_eq_ok.mp h
    exact horner_mem_numbers ctx h
  · obtain ⟨square, -, h⟩ := bind_eq_ok.mp h
    obtain ⟨series, -, h⟩ := bind_eq_ok.mp h
    exact ctx.mem_numbers_of_rounds (ctx.mul_map_toRat angle series) h

/-- A number of the context and its opposite are taken over without a loss, or refused together. -/
theorem signed_opposite {d : Decimal} (h : d.toRat ∈ ctx.numbers) (negative : Bool) :
    Agree Decimal.Opposite (if negative then ctx.minus d else ctx.plus d)
      (if !negative then ctx.minus d else ctx.plus d) := by
  have values : (ctx.minus d).map Decimal.toRat = (ctx.plus d).map fun r => -r.toRat := by
    rw [ctx.minus_map_toRat, ctx.roundRat_neg_of_mem_numbers h, ← ctx.plus_map_toRat]
    cases ctx.plus d <;> rfl
  cases negative with
  | false => exact (Agree.of_map values.symm).imp fun _ _ _ _ same => same.symm
  | true =>
    exact (Agree.of_map values).imp fun _ _ _ _ same => by rw [Decimal.Opposite, same, neg_neg]

theorem withTable_opposite (t : Table) (x : Decimal) :
    Agree Decimal.Opposite (withTable ctx t x) (withTable ctx t x.negate) := by
  have magnitude : x.negate.abs = x.abs := rfl
  have sign (odd : Bool) : (x.negate.negative != odd) = !(x.negative != odd) := by
    rw [Decimal.negate]
    cases x.negative <;> cases odd <;> rfl
  rw [withTable_eq, withTable_eq, magnitude, sign]
  generalize reduceModuloPi x.abs t.pi = reduction
  obtain ⟨reduced, odd⟩ := reduction
  generalize (if t.halfPi.below reduced then ctx.sub t.pi reduced else .ok reduced) = folded
  cases folded with
  | error cause => exact .error cause
  | ok angle =>
    show Agree Decimal.Opposite (quadrant ctx t angle >>= _) (quadrant ctx t angle >>= _)
    cases computed : quadrant ctx t angle with
    | error cause => exact .error cause
    | ok result => exact signed_opposite ctx (quadrant_mem_numbers ctx computed) _

/-- In every context an angle and its opposite have opposite sines, to the last digit, or neither
has a sine. -/
theorem sine_odd (x : Decimal) :
    (∃ r s, sine ctx x = .ok r ∧ sine ctx x.negate = .ok s ∧ s.toRat = -r.toRat) ∨
      ∃ cause, sine ctx x = .error cause ∧ sine ctx x.negate = .error cause := by
  have opposite : Agree Decimal.Opposite (sine ctx x) (sine ctx x.negate) := by
    rw [sine, sine, Decimal.isZero_negate]
    split
    · exact .ok (by simp [Decimal.Opposite, Decimal.zero, Decimal.toRat_ofNat])
    · obtain ⟨t, built, -⟩ := exists_table
      rw [built]
      exact withTable_opposite ctx t x
  generalize sine ctx x = r at opposite
  generalize sine ctx x.negate = s at opposite
  cases opposite with
  | ok h => exact .inl ⟨_, _, rfl, rfl, h⟩
  | error cause => exact .inr ⟨cause, rfl, rfl⟩

end Sine

end Reckoner
