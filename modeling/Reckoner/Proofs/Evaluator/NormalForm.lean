import Mathlib
import Reckoner.Proofs.Evaluator.Steps
import Reckoner.Proofs.Expr.Parts

/-! Normal forms of evaluation. What an evaluator returns holds nothing that is left to compute, so
that every other evaluator returns it as it stands, and it holds the symbols of what was evaluated
in their order. -/

namespace Reckoner

namespace Expr

/-- Nothing is applied, and no operation has numbers alone for operands. -/
inductive Reduced : Expr → Prop where
  | constant (value : Value) : Reduced (.constant value)
  | symbol (name : String) : Reduced (.symbol name)
  | neg {operand : Expr} (h : Reduced operand) (free : ∀ v, operand ≠ .constant v) :
    Reduced (.neg operand)
  | binary {op : BinaryOp} {left right : Expr} (hl : Reduced left) (hr : Reduced right)
    (free : ∀ v w, left = .constant v → right ≠ .constant w) : Reduced (.binary op left right)

namespace Reduced

variable {e part : Expr}

theorem part_reduced (h : Reduced e) (inside : part.Within e) : Reduced part := by
  induction inside with
  | self => exact h
  | left _ ih =>
    cases h with
    | binary hl _ _ => exact ih hl
  | right _ ih =>
    cases h with
    | binary _ hr _ => exact ih hr
  | neg _ ih =>
    cases h with
    | neg h _ => exact ih h
  | callee | arg => cases h

theorem not_apply {callee : Expr} {args : List Expr} (h : Reduced e) :
    ¬(Expr.apply callee args).Within e :=
  fun inside => nomatch h.part_reduced inside

theorem not_neg_constant {v : Value} (h : Reduced e) : ¬(Expr.neg (.constant v)).Within e := by
  intro inside
  cases h.part_reduced inside with
  | neg _ free => exact free v rfl

theorem not_binary_constants {op : BinaryOp} {v w : Value} (h : Reduced e) :
    ¬(Expr.binary op (.constant v) (.constant w)).Within e := by
  intro inside
  cases h.part_reduced inside with
  | binary _ _ free => exact free v w rfl rfl

/-- A reduced tree without symbols is a number. -/
theorem exists_constant (h : Reduced e) (closed : e.operandSymbols = []) :
    ∃ v, e = .constant v := by
  induction h with
  | constant v => exact ⟨v, rfl⟩
  | symbol name => cases closed
  | neg _ free ih =>
    obtain ⟨v, rfl⟩ := ih closed
    exact absurd rfl (free v)
  | binary _ _ free ihl ihr =>
    obtain ⟨left, right⟩ := List.append_eq_nil_iff.mp closed
    obtain ⟨v, rfl⟩ := ihl left
    obtain ⟨w, rfl⟩ := ihr right
    exact absurd rfl (free v w rfl)

theorem constant_iff (h : Reduced e) : (∃ v, e = .constant v) ↔ e.operandSymbols = [] := by
  constructor
  · rintro ⟨v, rfl⟩
    rfl
  · exact h.exists_constant

/-- There is nothing in a reduced tree for any evaluator to compute. -/
theorem evaluate_eq_self (h : Reduced e) (ev : Evaluator) : ev.evaluate e = .ok e := by
  induction h with
  | constant => rw [Evaluator.evaluate]
  | symbol => rw [Evaluator.evaluate]
  | neg _ free ih =>
    rw [Evaluator.evaluate_neg, ih]
    exact ev.negate_open free
  | @binary op _ _ _ _ free ihl ihr =>
    rw [Evaluator.evaluate_binary, ihl, ihr]
    exact ev.operate_open op free

end Reduced

end Expr

namespace Evaluator

namespace Evaluates

variable {ev : Evaluator} {e r : Expr}

theorem reduced (h : ev.Evaluates e r) : r.Reduced := by
  induction h with
  | constant | negated | operated | applied => exact .constant _
  | symbol name => exact .symbol name
  | signed _ free ih => exact .neg ih free
  | joined _ _ free ihl ihr => exact .binary ihl ihr free

/-- No symbol is lost, doubled, renamed or moved. -/
theorem operandSymbols_eq (h : ev.Evaluates e r) : r.operandSymbols = e.operandSymbols := by
  induction h with
  | constant | symbol => rfl
  | negated _ _ ih | signed _ _ ih => exact ih
  | operated _ _ _ ihl ihr | joined _ _ _ ihl ihr => exact congrArg₂ (· ++ ·) ihl ihr
  | @applied _ args _ _ _ _ _ _ given _ _ ih =>
    -- Each argument is reduced to a number, which has no symbols.
    have none : ∀ arg ∈ args, arg.operandSymbols = [] := by
      intro arg member
      obtain ⟨w, -, computed⟩ := ev.argument_evaluates given member
      exact (ih arg member w computed).symm
    exact (Expr.operandSymbolsOf_eq_nil.mpr none).symm

end Evaluates

/-- Evaluation reaches a normal form. In the result nothing is applied and no operation is left on
numbers alone; its symbols are those of the tree but for what is applied, in their order, so that it
is a number just when there are none; and every evaluator, whatever its rounding and its functions,
returns it unchanged. -/
theorem evaluate_normalizes (ev : Evaluator) {e r : Expr} (h : ev.evaluate e = .ok r) :
    ((∀ callee args, ¬(Expr.apply callee args).Within r) ∧
        (∀ op v w, ¬(Expr.binary op (.constant v) (.constant w)).Within r) ∧
        ∀ v, ¬(Expr.neg (.constant v)).Within r) ∧
      r.operandSymbols = e.operandSymbols ∧
      ((∃ v, r = .constant v) ↔ e.operandSymbols = []) ∧
      ∀ other : Evaluator, other.evaluate r = .ok r := by
  have evaluates := ev.evaluates_of_ok h
  have reduced := evaluates.reduced
  have symbols := evaluates.operandSymbols_eq
  refine ⟨⟨fun _ _ => reduced.not_apply, fun _ _ _ => reduced.not_binary_constants,
    fun _ => reduced.not_neg_constant⟩, symbols, ?_, reduced.evaluate_eq_self⟩
  rw [← symbols]
  exact reduced.constant_iff

/-- A quotient of numbers under a name is computed, and what holds symbols is kept for an evaluator
that knows no names and rounds the other way. -/
theorem evaluate_normalizes_quotient :
    let ev : Evaluator := { rounding := .up, functions := [⟨"quotient", 2, .arithmetic .div, ""⟩] }
    let other : Evaluator := { rounding := .down, functions := [] }
    let tenth : Expr := .constant (.decimal (.finite ⟨false, 1, -1⟩))
    let e : Expr := .binary .sub
      (.binary .mul (.apply (.symbol "quotient") [tenth, .constant (.exact 2)]) (.symbol "x"))
      (.neg (.symbol "y"))
    let r : Expr := .binary .sub
      (.binary .mul (.constant (.decimal (.finite ⟨false, 5, -2⟩))) (.symbol "x"))
      (.neg (.symbol "y"))
    ev.evaluate e = .ok r ∧ r.operandSymbols = ["x", "y"] ∧ other.evaluate r = .ok r := by
  intro ev other tenth e r
  have reduced : ev.evaluate e = .ok r := by cbv
  obtain ⟨-, symbols, -, same⟩ := ev.evaluate_normalizes reduced
  exact ⟨reduced, symbols, same other⟩

end Evaluator

end Reckoner
