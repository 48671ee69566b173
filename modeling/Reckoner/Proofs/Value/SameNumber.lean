import Mathlib
import Reckoner.Proofs.Decimal.SameNumber
import Reckoner.Proofs.Evaluator.Closure

/-! Values with one number. Arithmetic cannot tell them apart, and neither can their texts. -/

namespace Reckoner

/-- The same exact number, or finite decimals for one number. -/
inductive Value.SameNumber : Value → Value → Prop where
  | exact (q : ℚ) : SameNumber (.exact q) (.exact q)
  | decimal {x y : Decimal} (same : x.SameNumber y) :
    SameNumber (.decimal (.finite x)) (.decimal (.finite y))

namespace Value.SameNumber

variable {v w : Value}

theorem isFinite (h : v.SameNumber w) : v.IsFinite ∧ w.IsFinite := by
  cases h with
  | exact => exact ⟨trivial, trivial⟩
  | decimal => exact ⟨rfl, rfl⟩

theorem number_eq (h : v.SameNumber w) : v.number = w.number := by
  cases h with
  | exact => rfl
  | decimal same => exact congrArg Number.decimal same

theorem of_number_eq (hv : v.IsFinite) (hw : w.IsFinite) (h : v.number = w.number) :
    v.SameNumber w := by
  match v, w with
  | .exact q, .exact r =>
    obtain rfl : q = r := Number.exact.inj h
    exact .exact q
  | .decimal (.finite x), .decimal (.finite y) => exact .decimal (Number.decimal.inj h)
  | .exact _, .decimal (.finite _) | .decimal (.finite _), .exact _ => cases h

theorem precedence_eq (h : v.SameNumber w) : v.precedence = w.precedence := by
  cases h with
  | exact => rfl
  | @decimal x y same =>
    have zero := Decimal.isZero_eq_of_same same
    cases nonzero : x.isZero with
    | true => simp [precedence, ExtDecimal.isZero, ← zero, nonzero]
    | false =>
      simp [precedence, ExtDecimal.isZero, ExtDecimal.isNegative, ← zero,
        Decimal.negative_eq_of_same nonzero same]

theorem display_eq (h : v.SameNumber w) (digits : ℤ) : v.display digits = w.display digits := by
  cases h with
  | exact => rfl
  | decimal same =>
    simp only [display, ExtDecimal.display]
    split
    next width => rw [Decimal.display_congr width same]
    next => rfl

end Value.SameNumber

theorem Value.neg_agree (ctx : Context) {v w : Value} (h : v.SameNumber w) :
    Agree SameNumber (v.neg ctx) (w.neg ctx) := by
  cases h with
  | exact q => exact .ok (.exact (-q))
  | @decimal x y same =>
    have negated : Agree (fun d e => SameNumber (.decimal d) (.decimal e))
        ((ExtDecimal.finite x).minus ctx) ((ExtDecimal.finite y).minus ctx) :=
      (ctx.minus_agree same).map fun _ _ => .decimal
    exact negated.map fun _ _ => id

/-- An operation has a number as its result that depends on those of its operands only, and so do
its failures. -/
theorem BinaryOp.apply_agree {ctx : Context} (spans : ctx.Spans) (op : BinaryOp) {a b a' b' : Value}
    (ha : a.SameNumber a') (hb : b.SameNumber b') :
    Agree Value.SameNumber (op.apply ctx a b) (op.apply ctx a' b') := by
  obtain ⟨finiteA, finiteA'⟩ := ha.isFinite
  obtain ⟨finiteB, finiteB'⟩ := hb.isFinite
  have outcome : (op.apply ctx a b).map Value.number = (op.apply ctx a' b').map Value.number := by
    rw [apply_map_number ctx op a b finiteA finiteB, apply_map_number ctx op a' b' finiteA' finiteB',
      ha.number_eq, hb.number_eq]
  exact (Agree.of_map outcome).imp fun v w computed computed' same =>
    .of_number_eq (apply_fits spans finiteA finiteB computed).isFinite
      (apply_fits spans finiteA' finiteB' computed').isFinite same

end Reckoner
