import Mathlib
import Reckoner.Expr.Printer
import Reckoner.Proofs.Decimal.OverflowThreshold
import Reckoner.Proofs.Expr.Every
import Reckoner.Proofs.Outcome

/-! Which trees have a text. Only decimals can fail to be written, when they are so large that
rounding to the displayed digits carries them out of the range of exponents. -/

namespace Reckoner

/-- The context in which decimals are rounded for display. -/
def displayContext (digits : ℕ) (width : 0 < digits) : Context :=
  { precision := digits, precision_pos := width }

theorem SucceedsIff.plus {ctx : Context} (h : ctx.rounding = .nearest) (span : ctx.emin ≤ ctx.emax)
    (d : Decimal) : SucceedsIff (|d.toRat| < ctx.threshold) .overflow (ctx.plus d) := by
  have value := ctx.plus_map_toRat d
  have reaches := ctx.overflow_iff h span d.toRat
  rw [Context.roundRat] at value
  cases outcome : ctx.plus d with
  | ok r =>
    refine .ok ?_ r
    rw [outcome] at value
    rw [← not_le, ← reaches]
    intro carried
    rw [if_pos carried] at value
    cases value
  | error cause =>
    rw [outcome] at value
    split at value
    next carried =>
      cases value
      exact .error (not_lt.mpr (reaches.mp carried))
    next => cases value

/-- A value that can be shown with this many digits. -/
def Value.Shown (digits : ℕ) (width : 0 < digits) : Value → Prop
  | .decimal (.finite d) => |d.toRat| < (displayContext digits width).threshold
  | _ => True

section Display

variable {digits : ℕ} (width : 0 < digits)

theorem Decimal.display_succeeds (d : Decimal) :
    SucceedsIff (|d.toRat| < (displayContext digits width).threshold) .overflow
      (d.display digits width) := by
  rw [display]
  split
  next zero =>
    refine .ok ?_ _
    have range := (displayContext digits width).threshold_bounds.1
    rw [(toRat_eq_zero_iff d).mpr zero, abs_zero]
    exact lt_trans (by positivity) range
  next =>
    have span : (displayContext digits width).emin ≤ (displayContext digits width).emax := by
      simp [displayContext]
    exact (SucceedsIff.plus rfl span d).bind_pure _

theorem ExtDecimal.display_finite (d : Decimal) :
    (ExtDecimal.finite d).display digits =
      ((d.display digits width).map String.ofList).mapError .signal := by
  have natural : 0 < (digits : ℤ).toNat := width
  have same : d.display (digits : ℤ).toNat natural = d.display digits width := rfl
  rw [display, dif_pos natural]
  simp only [same]
  cases d.display digits width <;> rfl

theorem Value.display_succeeds (v : Value) :
    SucceedsIff (v.Shown digits width) (.signal .overflow) (v.display digits) := by
  cases v with
  | exact q => exact .ok trivial _
  | decimal d =>
    cases d with
    | finite x =>
      have shown := x.display_succeeds width
      rw [display, ExtDecimal.display_finite width]
      generalize x.display digits width = laid at shown ⊢
      cases shown with
      | ok small text => exact .ok small _
      | error large => exact .error large
    | infinite =>
      rw [display, ExtDecimal.display, dif_pos (by exact width)]
      exact .ok trivial _
    | nan =>
      rw [display, ExtDecimal.display, dif_pos (by exact width)]
      cases ‹Bool› <;> exact .ok trivial _

namespace Expr

theorem textsOf_succeeds {args : List Expr}
    (each : ∀ arg ∈ args, SucceedsIff (arg.Every (Value.Shown digits width))
      (DisplayError.signal .overflow) (textAt digits .none arg)) :
    SucceedsIff (∀ arg ∈ args, arg.Every (Value.Shown digits width)) (.signal .overflow)
      (textsOf digits args) := by
  induction args with
  | nil =>
    rw [textsOf]
    exact .ok (by simp) _
  | cons first rest ih =>
    rw [textsOf]
    have others := ih fun arg h => each arg (List.mem_cons_of_mem _ h)
    rw [List.forall_mem_cons]
    exact (each first List.mem_cons_self).bind fun _ => others.bind_pure _

/-- By induction over the tree: a part that has no text leaves the whole without one. -/
theorem textAt_succeeds (required : Precedence) (e : Expr) :
    SucceedsIff (e.Every (Value.Shown digits width)) (.signal .overflow)
      (textAt digits required e) := by
  induction e generalizing required with
  | constant v =>
    rw [textAt, every_constant_iff]
    exact (v.display_succeeds width).bind_pure _
  | symbol name =>
    rw [textAt]
    exact .ok .symbol _
  | neg operand ih =>
    rw [textAt, every_neg_iff]
    exact (ih _).bind_pure _
  | binary op left right ihl ihr =>
    rw [textAt, every_binary_iff]
    exact (ihl _).bind fun _ => (ihr _).bind_pure _
  | apply callee args ihc iha =>
    rw [textAt, every_apply_iff]
    have texts := textsOf_succeeds width fun arg h => iha arg h .none
    exact (ihc _).bind fun _ => texts.bind_pure _

theorem print_succeeds (e : Expr) :
    SucceedsIff (e.Every (Value.Shown digits width)) (.signal .overflow) (e.print digits) := by
  rw [print, if_neg (by omega)]
  exact (e.textAt_succeeds width .none).bind_pure _

end Expr

end Display

end Reckoner
