import Mathlib
import Reckoner.Proofs.Evaluator.Steps

/-! Binding of symbols before and after a reduction. A reduction only replaces closed parts by
their numbers, and a function is applied only when all its arguments are numbers; so what is
bound later meets the same parts in the same order, and the same failure comes first. -/

namespace Reckoner

namespace Expr

mutual

/-- The tree with an expression in the place of every symbol. -/
def substitute (binding : String → Expr) : Expr → Expr
  | constant value => constant value
  | symbol name => binding name
  | binary op left right => binary op (substitute binding left) (substitute binding right)
  | neg operand => neg (substitute binding operand)
  | apply callee args => apply (substitute binding callee) (substituteAll binding args)

def substituteAll (binding : String → Expr) : List Expr → List Expr
  | [] => []
  | first :: rest => substitute binding first :: substituteAll binding rest

end

theorem length_substituteAll (binding : String → Expr) (args : List Expr) :
    (substituteAll binding args).length = args.length := by
  induction args with
  | nil => rfl
  | cons first rest ih => rw [substituteAll, List.length_cons, ih, List.length_cons]

end Expr

namespace Evaluator

variable (ev : Evaluator)

section Binding

variable (binding : String → Expr)

/-- Reducing a tree before its symbols are bound changes nothing. -/
def Commutes (e : Expr) : Prop :=
  ∀ r, ev.evaluate e = .ok r →
    ev.evaluate (e.substitute binding) = ev.evaluate (r.substitute binding)

/-- Arguments that are numbers stay the same numbers. -/
theorem evaluateArgs_substituteAll {name : String} {args : List Expr} {values : List Value}
    (each : ∀ arg ∈ args, ev.Commutes binding arg) (h : ev.evaluateArgs name args = .ok values) :
    ev.evaluateArgs name (Expr.substituteAll binding args) = .ok values := by
  induction args generalizing values with
  | nil => exact h
  | cons first rest ih =>
    rw [evaluateArgs] at h
    obtain ⟨reduced, computed, h⟩ := bind_eq_ok.mp h
    cases reduced with
    | constant v =>
      obtain ⟨more, others, h⟩ := bind_eq_ok.mp h
      have kept : ev.evaluate (first.substitute binding) = .ok (.constant v) :=
        each first List.mem_cons_self _ computed
      have tail := ih (fun arg member => each arg (List.mem_cons_of_mem _ member)) others
      rw [Expr.substituteAll, evaluateArgs, kept]
      show (ev.evaluateArgs name _ >>= fun vs => pure (v :: vs)) = _
      rw [tail]
      exact h
    | symbol | binary | neg | apply => cases h

/-- Reduction commutes with binding, as long as the names of functions stay free. -/
theorem commutes (reserved : ∀ name, (ev.functions.named? name).isSome → binding name = .symbol name)
    (e : Expr) : ev.Commutes binding e := by
  induction e with
  | constant value =>
    intro r h
    cases h
    rfl
  | symbol name =>
    intro r h
    cases h
    rfl
  | neg operand ih =>
    intro r h
    rw [evaluate_neg] at h
    obtain ⟨reduced, computed, h⟩ := bind_eq_ok.mp h
    rw [Expr.substitute, evaluate_neg, ih reduced computed]
    rcases ev.negate_cases h with ⟨v, w, rfl, -, rfl⟩ | ⟨-, rfl⟩
    · exact h
    · rw [Expr.substitute, evaluate_neg]
  | binary op left right ihl ihr =>
    intro r h
    rw [evaluate_binary] at h
    obtain ⟨a, computed, h⟩ := bind_eq_ok.mp h
    obtain ⟨b, computed', h⟩ := bind_eq_ok.mp h
    rw [Expr.substitute, evaluate_binary, ihl a computed, ihr b computed']
    rcases ev.operate_cases h with ⟨v, w, u, rfl, rfl, -, rfl⟩ | ⟨-, rfl⟩
    · exact h
    · rw [Expr.substitute, evaluate_binary]
  | apply callee args ihc iha =>
    intro r h
    obtain ⟨name, function, values, v, head, found, given, applied, rfl⟩ :=
      ev.evaluate_apply_cases h
    obtain rfl := ev.evaluate_eq_symbol head
    have free : binding name = .symbol name :=
      reserved name (by rw [named_of_lookup found]; rfl)
    have same := ev.evaluateArgs_substituteAll binding iha given
    have head' : (Expr.apply (.symbol name) args).substitute binding =
        .apply (.symbol name) (Expr.substituteAll binding args) := by
      rw [Expr.substitute, Expr.substitute, free]
    have computed : ev.evaluate (.apply (.symbol name) (Expr.substituteAll binding args)) =
        .ok (.constant v) := by
      rw [← h, evaluate_apply_symbol, evaluate_apply_symbol, Expr.length_substituteAll, same, given]
    rw [head', computed]
    rfl

end Binding

/-- A tree may be reduced before its symbols are bound: what is bound then gives the same tree
or the same failure as binding first. The names of registered functions are not bound. -/
theorem evaluate_substitute (ev : Evaluator) (binding : String → Expr)
    (reserved : ∀ name, (ev.functions.named? name).isSome → binding name = .symbol name)
    {e r : Expr} (h : ev.evaluate e = .ok r) :
    ev.evaluate (e.substitute binding) = ev.evaluate (r.substitute binding) :=
  ev.commutes binding reserved e r h

/-- A product of decimals is computed before the division by zero that is bound beside it. -/
theorem evaluate_substitute_division :
    let ev : Evaluator := { rounding := .up }
    let binding : String → Expr := fun name =>
      if name = "x" then .binary .div (.constant (.exact 1)) (.constant (.exact 0)) else .symbol name
    let half : Expr := .constant (.decimal (.finite ⟨false, 5, -1⟩))
    let quarter : Expr := .constant (.decimal (.finite ⟨false, 25, -2⟩))
    (∀ name, (ev.functions.named? name).isSome → binding name = .symbol name) ∧
      ev.evaluate (.binary .add (.binary .mul half half) (.symbol "x")) =
        .ok (.binary .add quarter (.symbol "x")) ∧
      ev.evaluate ((Expr.binary .add quarter (.symbol "x")).substitute binding) =
        .error .divisionByZero ∧
      ev.evaluate ((Expr.binary .add (.binary .mul half half) (.symbol "x")).substitute binding) =
        .error .divisionByZero := by
  intro ev binding half quarter
  have reserved : ∀ name, (ev.functions.named? name).isSome → binding name = .symbol name := by
    intro name known
    refine if_neg ?_
    rintro rfl
    revert known
    decide
  have reduced : ev.evaluate (.binary .add (.binary .mul half half) (.symbol "x")) =
      .ok (.binary .add quarter (.symbol "x")) := by cbv
  have bound : (Expr.binary .add quarter (.symbol "x")).substitute binding =
      .binary .add quarter (.binary .div (.constant (.exact 1)) (.constant (.exact 0))) := by
    simp [Expr.substitute, binding, quarter]
  have failed : ev.evaluate ((Expr.binary .add quarter (.symbol "x")).substitute binding) =
      .error .divisionByZero := by
    rw [bound, evaluate_binary, evaluate_binary, evaluate, evaluate, evaluate]
    rfl
  exact ⟨reserved, reduced, failed, (ev.evaluate_substitute binding reserved reduced).trans failed⟩

end Evaluator

end Reckoner
