import Mathlib
import Reckoner.Proofs.Evaluator.Closure
import Reckoner.Proofs.Evaluator.NormalForm
import Reckoner.Proofs.Expr.Variants
import Reckoner.Proofs.Value.Commutation

/-! The order of the operands of sums and products. It may be changed anywhere in a tree: what
succeeds still does, with the same number, digit for digit, or with the same tree up to that order.
Only the failure that comes first may be another one, since operands are reduced from the left. -/

namespace Reckoner.Evaluator

variable (ev : Evaluator)

theorem negate_reordered {a a' r : Expr} (order : a.Reordered a') (h : ev.negate a = .ok r) :
    ∃ r', ev.negate a' = .ok r' ∧ r.Reordered r' := by
  rcases ev.negate_cases h with ⟨v, w, rfl, -, rfl⟩ | ⟨free, rfl⟩
  · obtain rfl := (order.constant_iff v).mp rfl
    exact ⟨_, h, .constant w⟩
  · have free' : ∀ v, a' ≠ .constant v := fun v same => free v ((order.constant_iff v).mpr same)
    exact ⟨_, ev.negate_open free', .neg order⟩

/-- One step on operands that are reduced already, in either order. -/
theorem operate_reordered {op : BinaryOp} {a b a' b' r : Expr}
    (ha : a.Every (Value.Fits ev.context)) (hb : b.Every (Value.Fits ev.context))
    (hl : a.Reordered a') (hr : b.Reordered b') (h : ev.operate op a b = .ok r) :
    (∃ r', ev.operate op a' b' = .ok r' ∧ r.Reordered r') ∧
      (op = .add ∨ op = .mul → ∃ r', ev.operate op b' a' = .ok r' ∧ r.Reordered r') := by
  rcases ev.operate_cases h with ⟨v, w, u, rfl, rfl, computed, rfl⟩ | ⟨free, rfl⟩
  · obtain rfl := (hl.constant_iff v).mp rfl
    obtain rfl := (hr.constant_iff w).mp rfl
    refine ⟨⟨_, h, .constant u⟩, fun commutes => ⟨.constant u, ?_, .constant u⟩⟩
    have finite := (Expr.every_constant_iff.mp ha).isFinite
    have finite' := (Expr.every_constant_iff.mp hb).isFinite
    rw [operate, ← BinaryOp.apply_swap commutes ev.context finite finite', computed]
    rfl
  · have free' : ∀ v w, a' = .constant v → b' ≠ .constant w := fun v w left right =>
      free v w ((hl.constant_iff v).mpr left) ((hr.constant_iff w).mpr right)
    exact ⟨⟨_, ev.operate_open op free', .kept op hl hr⟩, fun commutes =>
      ⟨_, ev.operate_open op fun v w right left => free' w v left right, .swapped commutes hl hr⟩⟩

theorem evaluateArgs_constants {name : String} {args args' : List Expr} {values : List Value}
    (each : List.Forall₂ (fun a a' => ∀ v, ev.evaluate a = .ok (.constant v) →
      ev.evaluate a' = .ok (.constant v)) args args')
    (h : ev.evaluateArgs name args = .ok values) : ev.evaluateArgs name args' = .ok values := by
  rw [evaluateArgs_eq_ok] at h ⊢
  induction each generalizing values with
  | nil => exact h
  | cons first _ ih =>
    cases h with
    | cons computed others => exact .cons (first _ computed) (ih others)

/-- Where the reduction of a tree succeeds, it does in any order of operands. -/
theorem evaluate_reordered (closed : ∀ function ∈ ev.functions, function.Closed ev.context)
    {e e' r : Expr} (fits : e.Every (Value.Fits ev.context)) (order : e.Reordered e')
    (h : ev.evaluate e = .ok r) : ∃ r', ev.evaluate e' = .ok r' ∧ r.Reordered r' := by
  induction e generalizing e' r with
  | constant | symbol =>
    cases order
    cases h
    exact ⟨_, by rw [evaluate], by constructor⟩
  | neg operand ih =>
    cases order with
    | neg order =>
      rw [evaluate_neg] at h
      obtain ⟨a, inner, h⟩ := bind_eq_ok.mp h
      obtain ⟨a', inner', order⟩ := ih (Expr.every_neg_iff.mp fits) order inner
      obtain ⟨r', negated, order⟩ := ev.negate_reordered order h
      refine ⟨r', ?_, order⟩
      rw [evaluate_neg]
      exact bind_eq_ok.mpr ⟨a', inner', negated⟩
  | binary op left right ihl ihr =>
    obtain ⟨fitsLeft, fitsRight⟩ := Expr.every_binary_iff.mp fits
    rw [evaluate_binary] at h
    obtain ⟨a, first, h⟩ := bind_eq_ok.mp h
    obtain ⟨b, second, h⟩ := bind_eq_ok.mp h
    -- Operands are swapped as finite numbers, which all numbers on the way are.
    have step {a' b' : Expr} (hl : a.Reordered a') (hr : b.Reordered b') :=
      ev.operate_reordered (ev.evaluate_fits closed fitsLeft first)
        (ev.evaluate_fits closed fitsRight second) hl hr h
    cases order with
    | kept _ hl hr =>
      obtain ⟨a', first', hl⟩ := ihl fitsLeft hl first
      obtain ⟨b', second', hr⟩ := ihr fitsRight hr second
      obtain ⟨r', computed, order⟩ := (step hl hr).1
      refine ⟨r', ?_, order⟩
      rw [evaluate_binary]
      exact bind_eq_ok.mpr ⟨a', first', bind_eq_ok.mpr ⟨b', second', computed⟩⟩
    | swapped commutes hl hr =>
      obtain ⟨a', first', hl⟩ := ihl fitsLeft hl first
      obtain ⟨b', second', hr⟩ := ihr fitsRight hr second
      obtain ⟨r', computed, order⟩ := (step hl hr).2 commutes
      refine ⟨r', ?_, order⟩
      rw [evaluate_binary]
      exact bind_eq_ok.mpr ⟨b', second', bind_eq_ok.mpr ⟨a', first', computed⟩⟩
  | apply callee args _ iha =>
    obtain ⟨-, fitsArgs⟩ := Expr.every_apply_iff.mp fits
    obtain ⟨name, function, values, v, head, found, given, applied, rfl⟩ :=
      ev.evaluate_apply_cases h
    obtain rfl := ev.evaluate_eq_symbol head
    cases order with
    | apply hc ha =>
      cases hc
      refine ⟨.constant v, ?_, .constant v⟩
      have numbers := forall₂_imp_of_mem ha
        (S := fun a a' => ∀ w, ev.evaluate a = .ok (.constant w) → ev.evaluate a' = .ok (.constant w))
        fun a member a' order w inner => by
          obtain ⟨r', inner', same⟩ := iha a member (fitsArgs a member) order inner
          rwa [(same.constant_iff w).mp rfl] at inner'
      rw [← h, evaluate_apply_symbol, evaluate_apply_symbol, ← ha.length_eq, given,
        ev.evaluateArgs_constants numbers given]

/-- The operands of sums and products may be swapped at any places of a tree, in the arguments of
functions too: its evaluation succeeds in both orders or in none, with the same tree up to that
order; and without symbols for numbers it is one value, with one sign, coefficient and exponent if
it is a decimal. -/
theorem evaluate_any_order (ev : Evaluator) (standard : ev.functions = .standard) {e e' : Expr}
    (order : e.Reordered e') (fits : e.Every (Value.Fits ev.context)) :
    ((∃ r, ev.evaluate e = .ok r) ↔ ∃ r', ev.evaluate e' = .ok r') ∧
      ∀ r r', ev.evaluate e = .ok r → ev.evaluate e' = .ok r' →
        r.Reordered r' ∧ (e.operandSymbols = [] → ∃ v, r = .constant v ∧ r' = .constant v) := by
  have closed : ∀ function ∈ ev.functions, function.Closed ev.context :=
    standard ▸ standard_closed ev.context_spans
  refine ⟨⟨?_, ?_⟩, fun r r' h h' => ?_⟩
  · rintro ⟨r, h⟩
    obtain ⟨r', h', -⟩ := ev.evaluate_reordered closed fits order h
    exact ⟨r', h'⟩
  · rintro ⟨r', h'⟩
    obtain ⟨r, h, -⟩ := ev.evaluate_reordered closed (order.every fits) order.symm h'
    exact ⟨r, h⟩
  · obtain ⟨s, other, same⟩ := ev.evaluate_reordered closed fits order h
    obtain rfl : s = r' := Except.ok.inj (other.symm.trans h')
    refine ⟨same, fun none => ?_⟩
    have evaluates := ev.evaluates_of_ok h
    obtain ⟨v, rfl⟩ := evaluates.reduced.exists_constant (evaluates.operandSymbols_eq.trans none)
    exact ⟨v, rfl, (same.constant_iff v).mp rfl⟩

/-- A sum that cancels under rounding downward, a negative zero with four decimal places, in the
other order at every node. -/
theorem evaluate_any_order_cancelled :
    let ev : Evaluator := { rounding := .down }
    let number (negative : Bool) (n : ℕ) (place : ℤ) : Expr :=
      .constant (.decimal (.finite ⟨negative, n, place⟩))
    let third : Expr := .constant (.exact (1 / 3))
    let e : Expr := .binary .mul (.binary .add third (number false 25 (-1)))
      (.binary .add (number false 25 (-1)) (number true 25000 (-4)))
    let e' : Expr := .binary .mul (.binary .add (number true 25000 (-4)) (number false 25 (-1)))
      (.binary .add (number false 25 (-1)) third)
    e.Reordered e' ∧ e.Every (Value.Fits ev.context) ∧
      ev.evaluate e = .ok (number true 0 (-103)) ∧ ev.evaluate e' = .ok (number true 0 (-103)) := by
  intro ev number third e e'
  let sum : Value := .decimal (.finite ⟨false, 17 * 10 ^ 99 / 6, -99⟩)
  have order : e.Reordered e' := .swapped (.inr rfl)
    (.swapped (.inl rfl) (.constant _) (.constant _))
    (.swapped (.inl rfl) (.constant _) (.constant _))
  have fits : e.Every (Value.Fits ev.context) :=
    .binary (.binary (.constant (Value.fits_exact _)) (.constant ⟨by decide, by decide, by decide⟩))
      (.binary (.constant ⟨by decide, by decide, by decide⟩)
        (.constant ⟨by decide, by decide, by decide⟩))
  have promoted : BinaryOp.add.apply ev.context (.exact (1 / 3)) (.decimal (.finite ⟨false, 25, -1⟩)) =
      .ok sum := by decide +kernel
  have cancelled : BinaryOp.add.apply ev.context (.decimal (.finite ⟨false, 25, -1⟩))
      (.decimal (.finite ⟨true, 25000, -4⟩)) = .ok (.decimal (.finite ⟨true, 0, -4⟩)) := by
    decide +kernel
  have product : BinaryOp.mul.apply ev.context sum (.decimal (.finite ⟨true, 0, -4⟩)) =
      .ok (.decimal (.finite ⟨true, 0, -103⟩)) := by decide +kernel
  have constant (v : Value) : ev.evaluate (.constant v) = .ok (.constant v) := by rw [evaluate]
  have computed : ev.evaluate e = .ok (number true 0 (-103)) :=
    ev.evaluate_computed (ev.evaluate_computed (constant _) (constant _) promoted)
      (ev.evaluate_computed (constant _) (constant _) cancelled) product
  obtain ⟨succeeds, same⟩ := ev.evaluate_any_order rfl order fits
  obtain ⟨r', computed'⟩ := succeeds.mp ⟨_, computed⟩
  obtain ⟨v, hv, rfl⟩ := (same _ r' computed computed').2 rfl
  exact ⟨order, fits, computed, by rw [computed', hv]⟩

end Reckoner.Evaluator
