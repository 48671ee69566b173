import Mathlib
import Reckoner.Proofs.Evaluator.Composition
import Reckoner.Proofs.Expr.Regrouping

/-! Closed trees, those without symbols for numbers. Exact arithmetic is the arithmetic of rational
numbers, with a division by zero as its one failure; a decimal anywhere makes the result a decimal;
and the functions of the calculator take and give decimals only. -/

namespace Reckoner

namespace Value

def IsDecimal : Value → Prop
  | exact _ => False
  | decimal _ => True

theorem exists_decimal {v : Value} (h : v.IsDecimal) : ∃ d, v = decimal d := by
  cases v with
  | exact q => exact h.elim
  | decimal d => exact ⟨d, rfl⟩

theorem neg_isDecimal_iff {ctx : Context} {v w : Value} (h : v.neg ctx = .ok w) :
    w.IsDecimal ↔ v.IsDecimal := by
  cases v with
  | exact q =>
    cases h
    exact Iff.rfl
  | decimal d =>
    obtain ⟨r, -, rfl⟩ := map_eq_ok.mp h
    exact Iff.rfl

theorem combine_isDecimal_iff {ctx : Context} {op : BinaryOp} {a b v : Value}
    (h : combine ctx op.onRat op.onDecimals a b = .ok v) :
    v.IsDecimal ↔ a.IsDecimal ∨ b.IsDecimal := by
  by_cases exact : ∃ x y, a = .exact x ∧ b = .exact y
  · obtain ⟨x, y, rfl, rfl⟩ := exact
    cases h
    simp [IsDecimal]
  · rw [combine_mixed ctx op fun x y hx hy => exact ⟨x, y, hx, hy⟩] at h
    obtain ⟨_, -, h⟩ := bind_eq_ok.mp h
    obtain ⟨_, -, h⟩ := bind_eq_ok.mp h
    obtain ⟨r, -, h⟩ := bind_eq_ok.mp h
    cases h
    refine ⟨fun _ => ?_, fun _ => trivial⟩
    cases a with
    | decimal => exact .inl trivial
    | exact x =>
      cases b with
      | decimal => exact .inr trivial
      | exact y => exact absurd ⟨x, y, rfl, rfl⟩ exact

end Value

namespace BinaryOp

theorem apply_isDecimal_iff {ctx : Context} {op : BinaryOp} {a b v : Value}
    (h : op.apply ctx a b = .ok v) : v.IsDecimal ↔ a.IsDecimal ∨ b.IsDecimal := by
  rw [apply_eq_combine] at h
  split at h
  · cases h
  · exact Value.combine_isDecimal_iff (mapError_eq_ok.mp h)

theorem apply_exact (ctx : Context) (op : BinaryOp) (x y : ℚ) :
    op.apply ctx (.exact x) (.exact y) =
      (op.onRat? x y).elim (.error .zeroDivisor) fun q => .ok (.exact q) := by
  rw [apply_eq_combine, onRat?]
  by_cases zero : op = div ∧ y = 0 <;> simp [zero, Value.isZero, Value.combine, Except.mapError]

end BinaryOp

namespace Expr

/-- Operations on exact numbers. -/
inductive Arithmetic : Expr → Prop where
  | constant (q : ℚ) : Arithmetic (.constant (.exact q))
  | neg {operand : Expr} (h : Arithmetic operand) : Arithmetic (.neg operand)
  | binary {op : BinaryOp} {left right : Expr} (hl : Arithmetic left) (hr : Arithmetic right) :
    Arithmetic (.binary op left right)

theorem arithmetic_of_closed {e : Expr} (closed : e.operandSymbols = [])
    (exact : ∀ d, ¬(constant (.decimal d)).Within e) (plain : ∀ f args, ¬(apply f args).Within e) :
    e.Arithmetic := by
  induction e with
  | constant v =>
    cases v with
    | exact q => exact .constant q
    | decimal d => exact absurd .self (exact d)
  | symbol name => cases closed
  | neg operand ih =>
    exact .neg (ih closed (fun d inside => exact d (.neg inside))
      fun f args inside => plain f args (.neg inside))
  | binary op left right ihl ihr =>
    obtain ⟨closedl, closedr⟩ := List.append_eq_nil_iff.mp closed
    exact .binary
      (ihl closedl (fun d inside => exact d (.left inside))
        fun f args inside => plain f args (.left inside))
      (ihr closedr (fun d inside => exact d (.right inside))
        fun f args inside => plain f args (.right inside))
  | apply callee args => exact absurd .self (plain callee args)

theorem bind_onRat?_eq_none {op : BinaryOp} {x y : Option ℚ} :
    (x.bind fun a => y.bind (op.onRat? a)) = none ↔
      x = none ∨ y = none ∨ op = .div ∧ y = some 0 := by
  cases x <;> cases y <;> simp [BinaryOp.onRat?]

/-- A tree has no value just when one of its divisors has the value zero. -/
theorem Arithmetic.denote_eq_none_iff {e : Expr} (h : e.Arithmetic) (number : Value → ℚ)
    (env : String → ℚ) :
    e.denote number env = none ↔
      ∃ a b, (Expr.binary .div a b).Within e ∧ b.denote number env = some 0 := by
  induction h with
  | constant q => simp [denote, within_constant_iff]
  | neg _ ih => simp [denote, within_neg_iff, ih]
  | @binary op left right _ _ ihl ihr =>
    rw [denote, bind_onRat?_eq_none, ihl, ihr]
    constructor
    · rintro (⟨a, b, inside, zero⟩ | ⟨a, b, inside, zero⟩ | ⟨rfl, zero⟩)
      · exact ⟨a, b, .left inside, zero⟩
      · exact ⟨a, b, .right inside, zero⟩
      · exact ⟨left, right, .self, zero⟩
    · rintro ⟨a, b, inside, zero⟩
      rcases within_binary_iff.mp inside with same | inside | inside
      · cases same
        exact .inr (.inr ⟨rfl, zero⟩)
      · exact .inl ⟨a, b, inside, zero⟩
      · exact .inr (.inl ⟨a, b, inside, zero⟩)

end Expr

theorem Implementation.sine_eq_ok {ctx : Context} {values : List Value} {v : Value}
    (h : sine ctx values = .ok v) : ∃ d r, values = [.decimal d] ∧ v = .decimal r := by
  unfold sine at h
  split at h
  · split at h
    · exact ⟨_, _, rfl, (Except.ok.inj h).symm⟩
    · cases h
  all_goals cases h

theorem lookup_standard {name : String} {given : Nat} {function : NamedFunction}
    (h : Registry.standard.lookup name given = .ok function) : function.implementation = .sine := by
  have known := List.mem_of_find?_eq_some (Evaluator.named_of_lookup h)
  rw [List.mem_singleton.mp known]

namespace Evaluator

variable (ev : Evaluator) {e : Expr}

/-- Exact arithmetic gives the rational value of the tree, or divides by zero where it has none. -/
theorem evaluate_arithmetic (h : e.Arithmetic) (env : String → ℚ) :
    ev.evaluate e = (e.denote (·.number.rat) env).elim (.error .divisionByZero)
      fun q => .ok (.constant (.exact q)) := by
  induction h with
  | constant q => rw [evaluate]; rfl
  | neg _ ih =>
    rw [evaluate_neg, ih, Expr.denote]
    cases Expr.denote _ env _ <;> rfl
  | @binary op left right _ _ ihl ihr =>
    rw [evaluate_binary, ihl, ihr, Expr.denote]
    cases left.denote _ env with
    | none => rfl
    | some x =>
      cases right.denote _ env with
      | none => rfl
      | some y =>
        show Expr.constant <$>
          (op.apply ev.context (.exact x) (.exact y)).mapError EvalError.ofArithmetic = _
        rw [BinaryOp.apply_exact]
        cases computed : op.onRat? x y <;> simp [computed] <;> rfl

section Standard

variable (standard : ev.functions = .standard)
include standard

/-- An application gives a decimal, and takes one. -/
theorem applied_standard {args : List Expr} {name : String} {function : NamedFunction}
    {values : List Value} {v : Value} (found : ev.functions.lookup name args.length = .ok function)
    (given : ev.evaluateArgs name args = .ok values)
    (computed : function.implementation ev.context values = .ok v) :
    ∃ arg ∈ args, ∃ d s, ev.evaluate arg = .ok (.constant (.decimal d)) ∧ v = .decimal s := by
  rw [standard] at found
  rw [lookup_standard found] at computed
  obtain ⟨d, s, rfl, rfl⟩ := Implementation.sine_eq_ok computed
  cases ev.evaluateArgs_eq_ok.mp given with
  | cons inner _ => exact ⟨_, List.mem_cons_self, d, s, inner, rfl⟩

/-- A number is a decimal just when a decimal went into it. -/
theorem isDecimal_iff {v : Value} (h : ev.Evaluates e (.constant v)) :
    v.IsDecimal ↔ ∃ d, (Expr.constant (.decimal d)).Within e := by
  generalize number : Expr.constant v = r at h
  induction h generalizing v with
  | constant w =>
    cases number
    cases w <;> simp [Expr.within_constant_iff, Value.IsDecimal]
  | symbol | signed | joined => cases number
  | negated _ computed ih =>
    cases number
    simp [Value.neg_isDecimal_iff computed, ih rfl, Expr.within_neg_iff]
  | operated _ _ computed ihl ihr =>
    cases number
    simp [BinaryOp.apply_isDecimal_iff computed, ihl rfl, ihr rfl, Expr.within_binary_iff,
      exists_or]
  | applied head found given _ computed ih =>
    obtain ⟨arg, member, d, s, inner, rfl⟩ := ev.applied_standard standard found given computed
    cases number
    obtain ⟨part, inside⟩ := (ih arg member _ inner rfl).mp trivial
    exact ⟨fun _ => ⟨part, .arg member inside⟩, fun _ => trivial⟩

/-- Nothing was applied on the way to an exact number. -/
theorem not_apply_of_exact {q : ℚ} (h : ev.evaluate e = .ok (.constant (.exact q)))
    (f : Expr) (args : List Expr) : ¬(Expr.apply f args).Within e := by
  intro inside
  obtain ⟨r, applied⟩ := ev.evaluate_part inside h
  obtain ⟨_, _, _, _, -, found, given, computed, -⟩ := ev.evaluate_apply_cases applied
  obtain ⟨arg, member, d, _, computed, -⟩ := ev.applied_standard standard found given computed
  obtain ⟨part, within⟩ := (ev.isDecimal_iff standard (ev.evaluates_of_ok computed)).mp trivial
  exact (ev.isDecimal_iff standard (ev.evaluates_of_ok h)).mpr
    ⟨part, (within.trans (.arg member .self)).trans inside⟩

end Standard

/-- A closed tree of exact numbers without applications has a result just when no divisor in it has
the value zero, namely its rational value, whatever the evaluator; else it divides by zero. A closed
tree of exact numbers with an application has no result, and the result of a closed tree that holds
a decimal is a decimal. -/
theorem evaluate_closed (ev : Evaluator) (standard : ev.functions = .standard) (e : Expr)
    (closed : e.operandSymbols = []) (env : String → ℚ) :
    ((∀ d, ¬(Expr.constant (.decimal d)).Within e) →
      ((∀ f args, ¬(Expr.apply f args).Within e) →
        ((∃ r, ev.evaluate e = .ok r) ↔
          ¬∃ a b, (Expr.binary .div a b).Within e ∧ b.denote (·.number.rat) env = some 0) ∧
        (∀ r, ev.evaluate e = .ok r →
          ∃ q, e.denote (·.number.rat) env = some q ∧ r = .constant (.exact q)) ∧
        (∀ error, ev.evaluate e = .error error → error = .divisionByZero) ∧
        ∀ other : Evaluator, other.evaluate e = ev.evaluate e) ∧
      ((∃ f args, (Expr.apply f args).Within e) → ∃ error, ev.evaluate e = .error error)) ∧
    ((∃ d, (Expr.constant (.decimal d)).Within e) →
      ∀ r, ev.evaluate e = .ok r → ∃ d, r = .constant (.decimal d)) := by
  have number {r : Expr} (computed : ev.evaluate e = .ok r) : ∃ v, r = .constant v := by
    have evaluates := ev.evaluates_of_ok computed
    exact evaluates.reduced.exists_constant (evaluates.operandSymbols_eq.trans closed)
  refine ⟨fun exact => ⟨fun plain => ?_, ?_⟩, fun decimal r computed => ?_⟩
  · have arithmetic := Expr.arithmetic_of_closed closed exact plain
    have computes (any : Evaluator) := any.evaluate_arithmetic arithmetic env
    rw [← arithmetic.denote_eq_none_iff (·.number.rat) env]
    simp only [computes]
    cases e.denote (·.number.rat) env <;> simp [eq_comm]
  · rintro ⟨f, args, inside⟩
    cases outcome : ev.evaluate e with
    | error error => exact ⟨error, rfl⟩
    | ok r =>
      obtain ⟨v, rfl⟩ := number outcome
      cases v with
      | exact q => exact absurd inside (ev.not_apply_of_exact standard outcome f args)
      | decimal d =>
        obtain ⟨part, inside⟩ := (ev.isDecimal_iff standard (ev.evaluates_of_ok outcome)).mp trivial
        exact absurd inside (exact part)
  · obtain ⟨v, rfl⟩ := number computed
    obtain ⟨d, rfl⟩ :=
      Value.exists_decimal ((ev.isDecimal_iff standard (ev.evaluates_of_ok computed)).mpr decimal)
    exact ⟨d, rfl⟩

/-- A third of a half less one over two less two: the divisor is zero only once it is computed. -/
theorem evaluate_closed_cancelled :
    let ev : Evaluator := { rounding := .awayZero }
    let number (q : ℚ) : Expr := .constant (.exact q)
    let e : Expr := .binary .sub (.binary .mul (number (1 / 3)) (number (1 / 2)))
      (.neg (.binary .div (number 1) (.binary .sub (number 2) (number 2))))
    (ev.functions = .standard ∧ e.operandSymbols = [] ∧
        (∀ d, ¬(Expr.constant (.decimal d)).Within e) ∧ ∀ f args, ¬(Expr.apply f args).Within e) ∧
      ev.evaluate e = .error .divisionByZero := by
  intro ev number e
  have exact : ∀ d, ¬(Expr.constant (.decimal d)).Within e := by
    simp [e, number, Expr.within_binary_iff, Expr.within_neg_iff, Expr.within_constant_iff]
  have plain : ∀ f args, ¬(Expr.apply f args).Within e := by
    simp [e, number, Expr.within_binary_iff, Expr.within_neg_iff, Expr.within_constant_iff]
  obtain ⟨succeeds, -, fails, -⟩ := (ev.evaluate_closed rfl e rfl fun _ => 0).1 exact |>.1 plain
  have divisor : ((number 2).denote (·.number.rat) fun _ => 0) = some 2 := rfl
  have none : ¬∃ r, ev.evaluate e = .ok r := by
    refine fun computed => succeeds.mp computed ⟨number 1, _, .right (.neg .self), ?_⟩
    rw [Expr.denote, divisor]
    simp [BinaryOp.onRat?, BinaryOp.onRat]
  refine ⟨⟨rfl, rfl, exact, plain⟩, ?_⟩
  cases outcome : ev.evaluate e with
  | ok r => exact absurd ⟨r, outcome⟩ none
  | error error => rw [fails error outcome]

end Evaluator

end Reckoner
