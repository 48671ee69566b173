import Mathlib
import Reckoner.Proofs.Value.Tower

/-! Sums and products do not depend on the order of their operands: the same sign, coefficient and
exponent, or the same failure. The operands of a sum are told apart by their exponents and their
magnitudes, and by which of them is zero; only of a sum that is zero do the two orders leave a
different sign, which the rule for the sign of zeros then replaces. -/

namespace Reckoner

namespace Context

variable (ctx : Context)

/-- Sums with a sign that are the same, or both zero. -/
def SameSum (s t : Bool × Magnitude) : Prop :=
  s = t ∨ s.2.numerator = 0 ∧ t.2.numerator = 0

theorem combine_swap (left right : Bool × Nat) (place : Int) :
    SameSum (combine left right place) (combine right left place) := by
  obtain ⟨a, x⟩ := left
  obtain ⟨b, y⟩ := right
  unfold combine
  dsimp only
  by_cases same : a = b
  · rw [if_pos same, if_pos same.symm, same, Nat.add_comm]
    exact .inl rfl
  rw [if_neg same, if_neg (Ne.symm same)]
  rcases lt_trichotomy x y with lt | eq | gt
  · rw [if_neg (not_le.mpr lt), if_pos lt.le]
    exact .inl rfl
  · subst eq
    rw [if_pos le_rfl, if_pos le_rfl]
    exact .inr ⟨Nat.sub_self x, Nat.sub_self x⟩
  · rw [if_pos gt.le, if_neg (not_le.mpr gt)]
    exact .inl rfl

/-- Operands with one exponent, whichever counts as the higher. -/
theorem alignedSum_swap {a b : Decimal} (same : a.exponent = b.exponent) :
    SameSum (ctx.alignedSum a b) (ctx.alignedSum b a) := by
  unfold alignedSum
  dsimp only
  rw [same, sub_self, Int.toNat_zero, if_pos (Nat.zero_le _), if_pos (Nat.zero_le _), pow_zero,
    mul_one, mul_one]
  exact combine_swap _ _ _

theorem signedSum_swap (a b : Decimal) : SameSum (ctx.signedSum a b) (ctx.signedSum b a) := by
  unfold signedSum
  cases zeroA : a.isZero <;> cases zeroB : b.isZero
  · rcases lt_trichotomy a.exponent b.exponent with lt | eq | gt
    · rw [if_neg (not_le.mpr lt), if_pos lt.le]
      exact .inl rfl
    · rw [if_pos eq.ge, if_pos eq.le]
      exact ctx.alignedSum_swap eq
    · rw [if_pos gt.le, if_neg (not_le.mpr gt)]
      exact .inl rfl
  · exact .inl rfl
  · exact .inl rfl
  · exact .inr ⟨beq_iff_eq.mp zeroA, beq_iff_eq.mp zeroB⟩

theorem zeroSign_swap (a b : Bool) : ctx.zeroSign a b = ctx.zeroSign b a := by
  unfold zeroSign
  by_cases same : a = b
  · rw [same]
  · rw [if_neg same, if_neg (Ne.symm same)]

theorem add_swap (a b : Decimal) : ctx.add a b = ctx.add b a := by
  unfold add
  dsimp only
  rw [ctx.zeroSign_swap a.negative, min_comm a.exponent]
  rcases ctx.signedSum_swap a b with same | ⟨zero, zero'⟩
  · rw [same]
  · rw [if_pos zero, if_pos zero', round, round, if_pos zero, if_pos zero']

theorem mul_swap (a b : Decimal) : ctx.mul a b = ctx.mul b a := by
  unfold mul
  rw [bne_comm, Nat.mul_comm, Int.add_comm]

end Context

/-- An operand that does not fit into the range is refused for its size. -/
theorem Value.toDecimal_eq_error {ctx : Context} {v : Value} (h : v.IsFinite) {cause : Signal}
    (failed : v.toDecimal ctx = .error cause) : cause = .overflow := by
  obtain ⟨r, promoted, value⟩ := toDecimal_finite ctx h
  cases r with
  | ok d => cases promoted.symm.trans failed
  | error other =>
    cases promoted.symm.trans failed
    exact BinaryOp.promote_eq_error (number_ne_nonFinite h) value.symm

namespace BinaryOp

variable {op : BinaryOp} (commutes : op = add ∨ op = mul)
include commutes

theorem onRat_swap (x y : ℚ) : op.onRat x y = op.onRat y x := by
  rcases commutes with rfl | rfl
  · exact add_comm x y
  · exact mul_comm x y

theorem onFinite_swap (ctx : Context) (x y : Decimal) :
    op.onFinite ctx x y = op.onFinite ctx y x := by
  rcases commutes with rfl | rfl
  · exact ctx.add_swap x y
  · exact ctx.mul_swap x y

/-- The operands of a sum or a product may change places. If both are too large to enter it, they
fail alike. -/
theorem apply_swap (ctx : Context) {v w : Value} (hv : v.IsFinite) (hw : w.IsFinite) :
    op.apply ctx v w = op.apply ctx w v := by
  have divides : op ≠ div := by
    rcases commutes with rfl | rfl <;> decide
  rw [apply_eq_combine, apply_eq_combine, if_neg fun h => divides h.1, if_neg fun h => divides h.1]
  congr 1
  by_cases exact : ∃ x y, v = .exact x ∧ w = .exact y
  · obtain ⟨x, y, rfl, rfl⟩ := exact
    exact congrArg (fun q => Except.ok (Value.exact q)) (onRat_swap commutes x y)
  rw [Value.combine_mixed ctx op fun x y hx hy => exact ⟨x, y, hx, hy⟩,
    Value.combine_mixed ctx op fun y x hy hx => exact ⟨x, y, hx, hy⟩]
  obtain ⟨r, left, -⟩ := Value.toDecimal_finite ctx hv
  obtain ⟨s, right, -⟩ := Value.toDecimal_finite ctx hw
  cases r with
  | error cause =>
    cases s with
    | error other =>
      obtain rfl := Value.toDecimal_eq_error hv left
      obtain rfl := Value.toDecimal_eq_error hw right
      rw [left, right]
    | ok y =>
      rw [left, right]
      rfl
  | ok x =>
    cases s with
    | error other =>
      rw [left, right]
      rfl
    | ok y =>
      rw [left, right]
      show (op.onDecimals ctx (.finite x) (.finite y) >>= fun d => pure (Value.decimal d)) =
        (op.onDecimals ctx (.finite y) (.finite x) >>= fun d => pure (Value.decimal d))
      rw [onDecimals_finite, onDecimals_finite, onFinite_swap commutes]

end BinaryOp

end Reckoner
