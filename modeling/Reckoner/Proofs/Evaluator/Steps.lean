import Mathlib
import Reckoner.Evaluator.Basic
import Reckoner.Proofs.Expr.Every
import Reckoner.Proofs.Outcome

/-! What one step of a reduction does with parts that are reduced already. An operation computes
closed operands and stays around all others; an application is computed or fails. `Evaluates` is
the evaluation that succeeds, with one rule for each of these steps. -/

namespace Reckoner.Evaluator

variable (ev : Evaluator)

/-- The reduction of a negation whose operand is reduced. -/
def negate : Expr → Except EvalError Expr
  | .constant value => .constant <$> (value.neg ev.context).mapError .ofSignal
  | rest => .ok (.neg rest)

/-- The reduction of an operation whose operands are reduced. -/
def operate (op : BinaryOp) : Expr → Expr → Except EvalError Expr
  | .constant a, .constant b => .constant <$> (op.apply ev.context a b).mapError .ofArithmetic
  | left, right => .ok (.binary op left right)

theorem evaluate_neg (operand : Expr) :
    ev.evaluate (.neg operand) = ev.evaluate operand >>= ev.negate := by
  rw [evaluate]
  congr 1

theorem evaluate_binary (op : BinaryOp) (left right : Expr) :
    ev.evaluate (.binary op left right) =
      ev.evaluate left >>= fun a => ev.evaluate right >>= ev.operate op a := by
  rw [evaluate]
  congr 1
  funext a
  congr 1
  funext b
  cases a <;> cases b <;> rfl

theorem evaluate_apply_symbol (name : String) (args : List Expr) :
    ev.evaluate (.apply (.symbol name) args) =
      (ev.functions.lookup name args.length).mapError .notImplemented >>= fun function =>
        ev.evaluateArgs name args >>= fun values =>
          Expr.constant <$> function.implementation ev.context values := by
  rw [evaluate, evaluate]
  rfl

/-- An operation on operands that are reduced to numbers. -/
theorem evaluate_computed {op : BinaryOp} {left right : Expr} {v w u : Value}
    (hl : ev.evaluate left = .ok (.constant v)) (hr : ev.evaluate right = .ok (.constant w))
    (h : op.apply ev.context v w = .ok u) :
    ev.evaluate (.binary op left right) = .ok (.constant u) := by
  rw [evaluate_binary]
  refine bind_eq_ok.mpr ⟨_, hl, bind_eq_ok.mpr ⟨_, hr, ?_⟩⟩
  rw [operate, h]
  rfl

/-- An operand that is no number stays under its sign. -/
theorem negate_open {operand : Expr} (h : ∀ v, operand ≠ .constant v) :
    ev.negate operand = .ok (.neg operand) := by
  cases operand with
  | constant v => exact absurd rfl (h v)
  | symbol | binary | neg | apply => rfl

/-- Operands of which one is no number stay beside their operator. -/
theorem operate_open (op : BinaryOp) {left right : Expr}
    (h : ∀ v w, left = .constant v → right ≠ .constant w) :
    ev.operate op left right = .ok (.binary op left right) := by
  unfold operate
  split
  · exact absurd rfl (h _ _ rfl)
  · rfl

/-- A closed operand is computed, any other stays under its sign. -/
theorem negate_cases {operand r : Expr} (h : ev.negate operand = .ok r) :
    (∃ v w, operand = .constant v ∧ v.neg ev.context = .ok w ∧ r = .constant w) ∨
      (∀ v, operand ≠ .constant v) ∧ r = .neg operand := by
  by_cases closed : ∃ v, operand = .constant v
  · obtain ⟨v, rfl⟩ := closed
    obtain ⟨w, negated, rfl⟩ := map_eq_ok.mp h
    exact .inl ⟨v, w, rfl, mapError_eq_ok.mp negated, rfl⟩
  · have free : ∀ v, operand ≠ .constant v := fun v same => closed ⟨v, same⟩
    rw [ev.negate_open free] at h
    exact .inr ⟨free, (Except.ok.inj h).symm⟩

/-- Two closed operands are computed, any others stay beside their operator. -/
theorem operate_cases {op : BinaryOp} {left right r : Expr} (h : ev.operate op left right = .ok r) :
    (∃ v w u, left = .constant v ∧ right = .constant w ∧
        op.apply ev.context v w = .ok u ∧ r = .constant u) ∨
      (∀ v w, left = .constant v → right ≠ .constant w) ∧ r = .binary op left right := by
  by_cases closed : ∃ v w, left = .constant v ∧ right = .constant w
  · obtain ⟨v, w, rfl, rfl⟩ := closed
    obtain ⟨u, applied, rfl⟩ := map_eq_ok.mp h
    exact .inl ⟨v, w, u, rfl, rfl, mapError_eq_ok.mp applied, rfl⟩
  · have free : ∀ v w, left = .constant v → right ≠ .constant w :=
      fun v w hl hr => closed ⟨v, w, hl, hr⟩
    rw [ev.operate_open op free] at h
    exact .inr ⟨free, (Except.ok.inj h).symm⟩

/-- Arguments that are accepted are numbers, one after the other. -/
theorem evaluateArgs_eq_ok {name : String} {args : List Expr} {values : List Value} :
    ev.evaluateArgs name args = .ok values ↔
      List.Forall₂ (fun arg v => ev.evaluate arg = .ok (.constant v)) args values := by
  induction args generalizing values with
  | nil =>
    rw [evaluateArgs, List.forall₂_nil_left_iff]
    exact ⟨fun h => (Except.ok.inj h).symm, fun h => h ▸ rfl⟩
  | cons first rest ih =>
    rw [evaluateArgs, List.forall₂_cons_left_iff]
    constructor
    · intro h
      obtain ⟨reduced, computed, h⟩ := bind_eq_ok.mp h
      cases reduced with
      | constant v =>
        obtain ⟨more, others, h⟩ := bind_eq_ok.mp h
        exact ⟨v, more, computed, ih.mp others, (Except.ok.inj h).symm⟩
      | symbol | binary | neg | apply => cases h
    · rintro ⟨v, more, computed, others, rfl⟩
      exact bind_eq_ok.mpr ⟨_, computed, bind_eq_ok.mpr ⟨more, ih.mpr others, rfl⟩⟩

theorem argument_evaluates {name : String} {args : List Expr} {values : List Value}
    (h : ev.evaluateArgs name args = .ok values) {arg : Expr} (member : arg ∈ args) :
    ∃ v ∈ values, ev.evaluate arg = .ok (.constant v) := by
  have accepted := ev.evaluateArgs_eq_ok.mp h
  clear h
  induction accepted with
  | nil => cases member
  | cons computed _ ih =>
    rcases List.mem_cons.mp member with rfl | later
    · exact ⟨_, List.mem_cons_self, computed⟩
    · obtain ⟨v, hv, computed'⟩ := ih later
      exact ⟨v, List.mem_cons_of_mem _ hv, computed'⟩

/-- An application that succeeds is the number that a registered function gives. -/
theorem evaluate_apply_cases {callee r : Expr} {args : List Expr}
    (h : ev.evaluate (.apply callee args) = .ok r) :
    ∃ name function values v, ev.evaluate callee = .ok (.symbol name) ∧
      ev.functions.lookup name args.length = .ok function ∧
      ev.evaluateArgs name args = .ok values ∧
      function.implementation ev.context values = .ok v ∧ r = .constant v := by
  rw [evaluate] at h
  obtain ⟨reduced, head, h⟩ := bind_eq_ok.mp h
  cases reduced with
  | symbol name =>
    obtain ⟨function, found, h⟩ := bind_eq_ok.mp h
    obtain ⟨values, given, h⟩ := bind_eq_ok.mp h
    obtain ⟨v, applied, rfl⟩ := map_eq_ok.mp h
    exact ⟨name, function, values, v, head, mapError_eq_ok.mp found, given, applied, rfl⟩
  | constant | binary | neg | apply => cases h

/-- An evaluation that succeeds, by what its last step does: a number is computed, or a node stays
around an operand that is none. -/
inductive Evaluates : Expr → Expr → Prop where
  | constant (v : Value) : Evaluates (.constant v) (.constant v)
  | symbol (name : String) : Evaluates (.symbol name) (.symbol name)
  | negated {operand : Expr} {v w : Value} (h : Evaluates operand (.constant v))
    (computed : v.neg ev.context = .ok w) : Evaluates (.neg operand) (.constant w)
  | signed {operand a : Expr} (h : Evaluates operand a) (free : ∀ v, a ≠ .constant v) :
    Evaluates (.neg operand) (.neg a)
  | operated {op : BinaryOp} {left right : Expr} {v w u : Value}
    (hl : Evaluates left (.constant v)) (hr : Evaluates right (.constant w))
    (computed : op.apply ev.context v w = .ok u) : Evaluates (.binary op left right) (.constant u)
  | joined {op : BinaryOp} {left right a b : Expr} (hl : Evaluates left a) (hr : Evaluates right b)
    (free : ∀ v w, a = .constant v → b ≠ .constant w) :
    Evaluates (.binary op left right) (.binary op a b)
  | applied {callee : Expr} {args : List Expr} {name : String} {function : NamedFunction}
    {values : List Value} {v : Value} (head : ev.evaluate callee = .ok (.symbol name))
    (found : ev.functions.lookup name args.length = .ok function)
    (given : ev.evaluateArgs name args = .ok values)
    (each : ∀ arg ∈ args, ∀ w, ev.evaluate arg = .ok (.constant w) → Evaluates arg (.constant w))
    (computed : function.implementation ev.context values = .ok v) :
    Evaluates (.apply callee args) (.constant v)

theorem evaluates_of_ok {e r : Expr} (h : ev.evaluate e = .ok r) : ev.Evaluates e r := by
  induction e generalizing r with
  | constant v =>
    cases h
    exact .constant v
  | symbol name =>
    cases h
    exact .symbol name
  | neg operand ih =>
    rw [evaluate_neg] at h
    obtain ⟨a, inner, h⟩ := bind_eq_ok.mp h
    rcases ev.negate_cases h with ⟨v, w, rfl, computed, rfl⟩ | ⟨free, rfl⟩
    · exact .negated (ih inner) computed
    · exact .signed (ih inner) free
  | binary op left right ihl ihr =>
    rw [evaluate_binary] at h
    obtain ⟨a, first, h⟩ := bind_eq_ok.mp h
    obtain ⟨b, second, h⟩ := bind_eq_ok.mp h
    rcases ev.operate_cases h with ⟨v, w, u, rfl, rfl, computed, rfl⟩ | ⟨free, rfl⟩
    · exact .operated (ihl first) (ihr second) computed
    · exact .joined (ihl first) (ihr second) free
  | apply callee args _ iha =>
    obtain ⟨name, function, values, v, head, found, given, computed, rfl⟩ :=
      ev.evaluate_apply_cases h
    exact .applied head found given (fun arg member w inner => iha arg member inner) computed

/-- Only a symbol is reduced to a symbol. -/
theorem evaluate_eq_symbol {e : Expr} {name : String} (h : ev.evaluate e = .ok (.symbol name)) :
    e = .symbol name := by
  cases ev.evaluates_of_ok h
  rfl

theorem named_of_lookup {registry : Registry} {name : String} {given : Nat}
    {function : NamedFunction} (h : registry.lookup name given = .ok function) :
    registry.named? name = some function := by
  unfold Registry.lookup at h
  cases found : registry.named? name with
  | none => simp [found] at h
  | some other =>
    simp only [found] at h
    split at h
    · exact congrArg some (Except.ok.inj h)
    · cases h

end Reckoner.Evaluator
