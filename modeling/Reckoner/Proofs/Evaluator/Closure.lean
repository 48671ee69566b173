import Mathlib
import Reckoner.Evaluator.Basic
import Reckoner.Proofs.Source.Conversion

/-! Evaluation stays within the range of its context. Decimals go in and come out finite and
fitting, exact numbers come out in lowest terms, and the failures are the calculator's own. -/

namespace Reckoner

/-- A result with a property, or a failure of the calculator, which is one that has a code. -/
inductive Admissible {α : Type} (good : α → Prop) : Except EvalError α → Prop where
  | ok {a : α} (h : good a) : Admissible good (.ok a)
  | error {e : EvalError} (h : e.code?.isSome) : Admissible good (.error e)

namespace Admissible

variable {α β : Type} {good : α → Prop} {fine : β → Prop}

theorem bind {r : Except EvalError α} {f : α → Except EvalError β} (hr : Admissible good r)
    (hf : ∀ a, good a → Admissible fine (f a)) : Admissible fine (r >>= f) := by
  cases hr with
  | ok h => exact hf _ h
  | error h => exact .error h

theorem map {r : Except EvalError α} {f : α → β} (hr : Admissible good r)
    (hf : ∀ a, good a → fine (f a)) : Admissible fine (f <$> r) := by
  cases hr with
  | ok h => exact .ok (hf _ h)
  | error h => exact .error h

theorem ofSignal {r : Except Signal α} (hr : ∀ a, r = .ok a → good a) :
    Admissible good (r.mapError .ofSignal) := by
  cases r with
  | ok a => exact .ok (hr a rfl)
  | error cause => cases cause <;> exact .error rfl

theorem ofArithmetic {r : Except ArithmeticError α} (hr : ∀ a, r = .ok a → good a) :
    Admissible good (r.mapError .ofArithmetic) := by
  cases r with
  | ok a => exact .ok (hr a rfl)
  | error e =>
    cases e with
    | zeroDivisor => exact .error rfl
    | signal cause => cases cause <;> exact .error rfl

end Admissible

section Values

variable {ctx : Context} (spans : ctx.Spans)
include spans

theorem Value.neg_admissible {v : Value} (h : v.Fits ctx) :
    Admissible (Value.Fits ctx) ((v.neg ctx).mapError .ofSignal) := by
  apply Admissible.ofSignal
  intro r negated
  cases v with
  | exact q =>
    cases negated
    exact fits_exact _
  | decimal d =>
    obtain ⟨x, rfl, -⟩ := h.finite
    obtain ⟨y, extended, rfl⟩ := map_eq_ok.mp negated
    obtain ⟨z, result, rfl⟩ := map_eq_ok.mp extended
    exact Context.minus_fits spans result

theorem BinaryOp.onFinite_fits {op : BinaryOp} {x y d : Decimal}
    (h : op.onFinite ctx x y = .ok d) : d.Fits ctx := by
  cases op with
  | add => exact Context.add_fits spans h
  | sub => exact Context.sub_fits spans h
  | mul => exact Context.mul_fits spans h
  | div => exact Context.div_fits spans h

/-- Finite operands give a result of the context, whether they were rounded into it or not. -/
theorem Value.combine_fits {op : BinaryOp} {a b v : Value} (ha : a.IsFinite) (hb : b.IsFinite)
    (h : combine ctx op.onRat op.onDecimals a b = .ok v) : v.Fits ctx := by
  by_cases exact : ∃ x y, a = .exact x ∧ b = .exact y
  · obtain ⟨x, y, rfl, rfl⟩ := exact
    cases h
    exact fits_exact _
  · rw [combine_mixed ctx op fun x y hx hy => exact ⟨x, y, hx, hy⟩] at h
    obtain ⟨x, left, h⟩ := bind_eq_ok.mp h
    obtain ⟨y, right, h⟩ := bind_eq_ok.mp h
    obtain ⟨z, operation, h⟩ := bind_eq_ok.mp h
    obtain ⟨r, promoted, -⟩ := toDecimal_finite ctx ha
    obtain ⟨s, promoted', -⟩ := toDecimal_finite ctx hb
    obtain ⟨x, -, rfl⟩ := map_eq_ok.mp (promoted.symm.trans left)
    obtain ⟨y, -, rfl⟩ := map_eq_ok.mp (promoted'.symm.trans right)
    rw [BinaryOp.onDecimals_finite] at operation
    obtain ⟨d, result, rfl⟩ := map_eq_ok.mp operation
    cases h
    exact BinaryOp.onFinite_fits spans result

theorem BinaryOp.apply_fits {op : BinaryOp} {a b v : Value} (ha : a.IsFinite) (hb : b.IsFinite)
    (h : op.apply ctx a b = .ok v) : v.Fits ctx := by
  rw [apply_eq_combine] at h
  split at h
  · cases h
  · exact Value.combine_fits spans ha hb (mapError_eq_ok.mp h)

theorem BinaryOp.apply_admissible (op : BinaryOp) {a b : Value} (ha : a.Fits ctx)
    (hb : b.Fits ctx) : Admissible (Value.Fits ctx) ((op.apply ctx a b).mapError .ofArithmetic) :=
  Admissible.ofArithmetic fun _ applied => apply_fits spans ha.isFinite hb.isFinite applied

end Values

/-- A function that keeps to the range when it gets as many fitting values as it takes. -/
def NamedFunction.Closed (ctx : Context) (function : NamedFunction) : Prop :=
  ∀ values : List Value, values.length = function.arity → (∀ v ∈ values, v.Fits ctx) →
    Admissible (Value.Fits ctx) (function.implementation ctx values)

/-- The last step of a sine rounds; whatever the polynomial gave is brought into range there. -/
theorem Sine.withTable_fits {ctx : Context} (spans : ctx.Spans) {table : Table} {x d : Decimal}
    (h : withTable ctx table x = .ok d) : d.Fits ctx := by
  have last : ∀ folded odd, (quadrant ctx table folded >>= fun result =>
      if (x.negative != odd) = true then ctx.minus result else ctx.plus result) = .ok d →
      d.Fits ctx := by
    intro folded odd h
    obtain ⟨result, -, h⟩ := bind_eq_ok.mp h
    split at h
    · exact Context.minus_fits spans h
    · exact Context.plus_fits spans h
  unfold withTable at h
  dsimp only at h
  split at h
  · obtain ⟨folded, -, h⟩ := bind_eq_ok.mp h
    exact last folded _ h
  · exact last _ _ h

theorem Sine.sine_fits {ctx : Context} (spans : ctx.Spans) {x d : Decimal}
    (h : sine ctx x = .ok d) : d.Fits ctx := by
  rw [sine] at h
  split at h
  · cases h
    exact Decimal.fits_zero spans
  · obtain ⟨table, -, h⟩ := bind_eq_ok.mp h
    exact withTable_fits spans h

theorem Implementation.sine_finite (ctx : Context) (x : Decimal) :
    sine ctx [.decimal (.finite x)] =
      ((fun r => Value.decimal (.finite r)) <$> Sine.sine ctx x).mapError .ofSignal := by
  cases result : Sine.sine ctx x <;> simp [sine, result] <;> rfl

theorem Implementation.sine_admissible {ctx : Context} (spans : ctx.Spans) {values : List Value}
    (length : values.length = 1) (fits : ∀ v ∈ values, v.Fits ctx) :
    Admissible (Value.Fits ctx) (sine ctx values) := by
  obtain ⟨v, rfl⟩ := List.length_eq_one_iff.mp length
  have hv : v.Fits ctx := fits v (List.mem_singleton_self v)
  cases v with
  | exact q => exact .error rfl
  | decimal d =>
    obtain ⟨x, rfl, -⟩ := hv.finite
    rw [sine_finite]
    apply Admissible.ofSignal
    intro v result
    obtain ⟨r, computed, rfl⟩ := map_eq_ok.mp result
    exact Sine.sine_fits spans computed

theorem standard_closed {ctx : Context} (spans : ctx.Spans) :
    ∀ function ∈ Registry.standard, function.Closed ctx := by
  intro function known values length fits
  obtain rfl := List.mem_singleton.mp known
  exact Implementation.sine_admissible spans length fits

theorem lookup_admissible (registry : Registry) (name : String) (given : Nat) :
    Admissible (fun function => function ∈ registry ∧ function.arity = given)
      ((registry.lookup name given).mapError .notImplemented) := by
  unfold Registry.lookup
  cases found : registry.named? name with
  | none => exact .error rfl
  | some function =>
    dsimp only
    split
    next arity => exact .ok ⟨List.mem_of_find?_eq_some found, arity⟩
    next => exact .error rfl

namespace Evaluator

variable (ev : Evaluator)

theorem context_spans : ev.context.Spans := by
  cases h : ev.precision
  constructor <;> simp [context, Context.etiny, Precision.digits]

theorem evaluateArgs_admissible (name : String) {args : List Expr}
    (each : ∀ arg ∈ args, Admissible (Expr.Every (Value.Fits ev.context)) (ev.evaluate arg)) :
    Admissible (fun values : List Value => values.length = args.length ∧
      ∀ v ∈ values, v.Fits ev.context) (ev.evaluateArgs name args) := by
  induction args with
  | nil =>
    rw [evaluateArgs]
    exact .ok ⟨rfl, by simp⟩
  | cons first rest ih =>
    rw [evaluateArgs]
    refine (each first List.mem_cons_self).bind fun reduced hr => ?_
    cases hr with
    | constant hv =>
      refine (ih fun arg h => each arg (List.mem_cons_of_mem _ h)).bind fun values hvs => ?_
      refine .ok ⟨congrArg (· + 1) hvs.1, ?_⟩
      simpa using ⟨hv, hvs.2⟩
    | symbol | binary | neg | apply => exact .error rfl

/-- Evaluation in which every registered function keeps to the range. -/
theorem evaluate_admissible (closed : ∀ function ∈ ev.functions, function.Closed ev.context)
    {e : Expr} (h : e.Every (Value.Fits ev.context)) :
    Admissible (Expr.Every (Value.Fits ev.context)) (ev.evaluate e) := by
  have spans := ev.context_spans
  induction h with
  | constant h =>
    rw [evaluate]
    exact .ok (.constant h)
  | symbol =>
    rw [evaluate]
    exact .ok .symbol
  | neg _ ih =>
    rw [evaluate]
    refine ih.bind fun reduced hr => ?_
    cases hr with
    | constant hv => exact (Value.neg_admissible spans hv).map fun _ => .constant
    | symbol => exact .ok (.neg .symbol)
    | binary hl hr => exact .ok (.neg (.binary hl hr))
    | neg h => exact .ok (.neg (.neg h))
    | apply hc ha => exact .ok (.neg (.apply hc ha))
  | binary _ _ ihl ihr =>
    rw [evaluate]
    refine ihl.bind fun left hl => ihr.bind fun right hr => ?_
    split
    next =>
      cases hl with | constant ha =>
      cases hr with | constant hb =>
      exact (BinaryOp.apply_admissible spans _ ha hb).map fun _ => .constant
    next => exact .ok (.binary hl hr)
  | @apply callee args _ _ ihc iha =>
    rw [evaluate]
    refine ihc.bind fun reduced _ => ?_
    split
    next name _ =>
      refine (lookup_admissible ev.functions name args.length).bind fun function hf => ?_
      refine (ev.evaluateArgs_admissible name iha).bind fun values hvs => ?_
      exact (closed function hf.1 values (hvs.1.trans hf.2.symm) hvs.2).map fun _ => .constant
    next => exact .error rfl

theorem evaluate_fits (closed : ∀ function ∈ ev.functions, function.Closed ev.context)
    {e r : Expr} (fits : e.Every (Value.Fits ev.context)) (h : ev.evaluate e = .ok r) :
    r.Every (Value.Fits ev.context) := by
  have admissible := ev.evaluate_admissible closed fits
  rw [h] at admissible
  cases admissible with
  | ok fits => exact fits

/-- A source is read as a tree of the context or refused with issues; and a tree of the context,
with the standard functions, is reduced to such a tree or refused with an error that has a code. -/
theorem read_and_evaluate_closed (rounding : Rounding) (displayDigits : Int) :
    let ev : Evaluator := { rounding, displayDigits }
    (∀ source, match Source.read ev.context source with
      | .ok tree => tree.Every (Value.Fits ev.context)
      | .error issues => issues ≠ []) ∧
      ∀ e : Expr, e.Every (Value.Fits ev.context) →
        Admissible (Expr.Every (Value.Fits ev.context)) (ev.evaluate e) := by
  intro ev
  constructor
  · intro source
    cases reading : Source.read ev.context source with
    | ok tree => exact Source.read_fits ev.context_spans reading
    | error issues => exact Source.read_eq_error reading
  · intro e
    exact ev.evaluate_admissible (standard_closed ev.context_spans)

/-- The sine of 2.5 beside a symbol. -/
theorem read_and_evaluate_closed_sine :
    let ev : Evaluator := { rounding := .up, displayDigits := 6 }
    let e : Expr := .binary .add
      (.apply (.symbol "sin") [.constant (.decimal (.finite ⟨false, 25, -1⟩))]) (.symbol "x")
    e.Every (Value.Fits ev.context) ∧
      Admissible (Expr.Every (Value.Fits ev.context)) (ev.evaluate e) := by
  intro ev e
  have angle : Decimal.Fits ev.context ⟨false, 25, -1⟩ := ⟨by decide, by decide, by decide⟩
  have fits : e.Every (Value.Fits ev.context) := by
    refine .binary (.apply .symbol fun arg h => ?_) .symbol
    rw [List.mem_singleton.mp h]
    exact .constant (Value.fits_decimal angle)
  exact ⟨fits, (read_and_evaluate_closed .up 6).2 e fits⟩

end Evaluator

end Reckoner
