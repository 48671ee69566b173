import Mathlib
import Reckoner.Proofs.Evaluator.NormalForm

/-! Evaluation by parts. What a tree evaluates to depends on each of its parts only through the
outcome of that part; so a part may be evaluated beforehand wherever it stands, and a part that
fails is never passed over. -/

namespace Reckoner

/-- A tree around one place. -/
inductive Surrounding where
  | place
  | left (op : BinaryOp) (inner : Surrounding) (b : Expr)
  | right (op : BinaryOp) (a : Expr) (inner : Surrounding)
  | neg (inner : Surrounding)
  | callee (inner : Surrounding) (args : List Expr)
  | argument (f : Expr) (before : List Expr) (inner : Surrounding) (after : List Expr)

namespace Surrounding

/-- The tree with an expression put in its place. -/
def fill : Surrounding → Expr → Expr
  | place, e => e
  | left op inner b, e => .binary op (inner.fill e) b
  | right op a inner, e => .binary op a (inner.fill e)
  | neg inner, e => .neg (inner.fill e)
  | callee inner args, e => .apply (inner.fill e) args
  | argument f before inner after, e => .apply f (before ++ inner.fill e :: after)

/-- All that is evaluated before the place passes: left operands, the name of a function and its
number of arguments, and the arguments before, which are numbers. -/
def Passes (ev : Evaluator) : Surrounding → Prop
  | place => True
  | left _ inner _ => inner.Passes ev
  | right _ a inner => (∃ v, ev.evaluate a = .ok v) ∧ inner.Passes ev
  | neg inner => inner.Passes ev
  | callee inner _ => inner.Passes ev
  | argument f before inner after =>
    (∃ name function, ev.evaluate f = .ok (.symbol name) ∧
        ev.functions.lookup name (before.length + 1 + after.length) = .ok function) ∧
      (∀ arg ∈ before, ∃ v, ev.evaluate arg = .ok (.constant v)) ∧ inner.Passes ev

theorem within_fill (around : Surrounding) (e : Expr) : e.Within (around.fill e) := by
  induction around with
  | place => exact .self
  | left _ _ _ ih => exact .left ih
  | right _ _ _ ih => exact .right ih
  | neg _ ih => exact .neg ih
  | callee _ _ ih => exact .callee ih
  | argument _ before _ _ ih => exact .arg (List.mem_append_right before List.mem_cons_self) ih

end Surrounding

namespace Evaluator

variable (ev : Evaluator)

/-- Arguments with the same outcomes are accepted or refused alike. -/
theorem evaluateArgs_congr (name : String) {args args' : List Expr}
    (same : List.Forall₂ (fun a b => ev.evaluate a = ev.evaluate b) args args') :
    ev.evaluateArgs name args = ev.evaluateArgs name args' := by
  induction same with
  | nil => rfl
  | cons first _ ih => rw [evaluateArgs, evaluateArgs, first, ih]

theorem evaluate_apply_congr {callee callee' : Expr} {args args' : List Expr}
    (head : ev.evaluate callee = ev.evaluate callee')
    (same : List.Forall₂ (fun a b => ev.evaluate a = ev.evaluate b) args args') :
    ev.evaluate (.apply callee args) = ev.evaluate (.apply callee' args') := by
  have arguments (name : String) := ev.evaluateArgs_congr name same
  rw [evaluate, evaluate, head, same.length_eq]
  simp only [arguments]

/-- A part counts by its outcome alone. -/
theorem evaluate_fill_congr (around : Surrounding) {a b : Expr}
    (same : ev.evaluate a = ev.evaluate b) :
    ev.evaluate (around.fill a) = ev.evaluate (around.fill b) := by
  induction around with
  | place => exact same
  | left op inner c ih =>
    rw [Surrounding.fill, Surrounding.fill, evaluate_binary, ih, evaluate_binary]
  | right op c inner ih =>
    rw [Surrounding.fill, Surrounding.fill, evaluate_binary, ih, evaluate_binary]
  | neg inner ih => rw [Surrounding.fill, Surrounding.fill, evaluate_neg, ih, evaluate_neg]
  | callee inner args ih =>
    exact ev.evaluate_apply_congr ih (List.forall₂_same.mpr fun _ _ => rfl)
  | argument f before inner after ih =>
    have kept (args : List Expr) :
        List.Forall₂ (fun a b => ev.evaluate a = ev.evaluate b) args args :=
      List.forall₂_same.mpr fun _ _ => rfl
    exact ev.evaluate_apply_congr rfl (List.rel_append (kept before) (.cons ih (kept after)))

/-- Where the whole succeeds, so does every part. -/
theorem evaluate_part {part e r : Expr} (inside : part.Within e) (h : ev.evaluate e = .ok r) :
    ∃ v, ev.evaluate part = .ok v := by
  induction inside generalizing r with
  | self => exact ⟨r, h⟩
  | left _ ih =>
    rw [evaluate_binary] at h
    obtain ⟨_, computed, -⟩ := bind_eq_ok.mp h
    exact ih computed
  | right _ ih =>
    rw [evaluate_binary] at h
    obtain ⟨_, -, h⟩ := bind_eq_ok.mp h
    obtain ⟨_, computed, -⟩ := bind_eq_ok.mp h
    exact ih computed
  | neg _ ih =>
    rw [evaluate_neg] at h
    obtain ⟨_, computed, -⟩ := bind_eq_ok.mp h
    exact ih computed
  | callee _ ih =>
    obtain ⟨_, _, _, _, head, -⟩ := ev.evaluate_apply_cases h
    exact ih head
  | arg member _ ih =>
    obtain ⟨_, _, _, _, -, -, given, -⟩ := ev.evaluate_apply_cases h
    obtain ⟨v, -, computed⟩ := ev.argument_evaluates given member
    exact ih computed

theorem evaluateArgs_error (name : String) (after : List Expr) {before : List Expr} {arg : Expr}
    {error : EvalError} (passed : ∀ a ∈ before, ∃ v, ev.evaluate a = .ok (.constant v))
    (failed : ev.evaluate arg = .error error) :
    ev.evaluateArgs name (before ++ arg :: after) = .error error := by
  induction before with
  | nil =>
    rw [List.nil_append, evaluateArgs, failed]
    rfl
  | cons first rest ih =>
    obtain ⟨⟨v, computed⟩, passed⟩ := List.forall_mem_cons.mp passed
    rw [List.cons_append, evaluateArgs, computed]
    show (ev.evaluateArgs name _ >>= fun vs => pure (v :: vs)) = _
    rw [ih passed]
    rfl

/-- The failure of a part that is reached is the failure of the whole. -/
theorem evaluate_fill_error (around : Surrounding) {e : Expr} {error : EvalError}
    (reached : around.Passes ev) (failed : ev.evaluate e = .error error) :
    ev.evaluate (around.fill e) = .error error := by
  induction around with
  | place => exact failed
  | left op inner b ih =>
    rw [Surrounding.fill, evaluate_binary, ih reached]
    rfl
  | right op a inner ih =>
    obtain ⟨⟨v, computed⟩, reached⟩ := reached
    rw [Surrounding.fill, evaluate_binary, computed, ih reached]
    rfl
  | neg inner ih =>
    rw [Surrounding.fill, evaluate_neg, ih reached]
    rfl
  | callee inner args ih =>
    rw [Surrounding.fill, evaluate, ih reached]
    rfl
  | argument f before inner after ih =>
    obtain ⟨⟨name, function, head, found⟩, passed, reached⟩ := reached
    have length : (before ++ inner.fill e :: after).length = before.length + 1 + after.length := by
      simp
      omega
    have arguments := ev.evaluateArgs_error name after passed (ih reached)
    obtain rfl := ev.evaluate_eq_symbol head
    rw [Surrounding.fill, evaluate_apply_symbol, length, found, arguments]
    rfl

/-- Evaluation goes by parts. Where a part has a value, the whole has the same outcome with the
value in its place; where a part fails, the whole fails, and in the same way if what is evaluated
before the part passes. -/
theorem evaluate_fill (ev : Evaluator) (around : Surrounding) (e : Expr) :
    (∀ v, ev.evaluate e = .ok v → ev.evaluate (around.fill e) = ev.evaluate (around.fill v)) ∧
      ∀ error, ev.evaluate e = .error error →
        (∃ other, ev.evaluate (around.fill e) = .error other) ∧
          (around.Passes ev → ev.evaluate (around.fill e) = .error error) := by
  refine ⟨fun v computed => ?_, fun error failed => ⟨?_, fun reached => ?_⟩⟩
  · have settled := (ev.evaluates_of_ok computed).reduced.evaluate_eq_self ev
    exact ev.evaluate_fill_congr around (computed.trans settled.symm)
  · cases outcome : ev.evaluate (around.fill e) with
    | error other => exact ⟨other, rfl⟩
    | ok r =>
      obtain ⟨v, computed⟩ := ev.evaluate_part (around.within_fill e) outcome
      rw [failed] at computed
      cases computed
  · exact ev.evaluate_fill_error around reached failed

/-- A division by zero in the argument of a sine, before a function that nobody knows. -/
theorem evaluate_fill_sine :
    let ev : Evaluator := { rounding := .down }
    let around : Surrounding := .right .add (.symbol "x")
      (.argument (.symbol "sin") [] (.left .mul .place (.apply (.symbol "f") [])) [])
    let e : Expr := .binary .div (.constant (.exact 1)) (.constant (.exact 0))
    around.Passes ev ∧ ev.evaluate e = .error .divisionByZero ∧
      ev.evaluate (around.fill e) = .error .divisionByZero := by
  intro ev around e
  have passes : around.Passes ev :=
    ⟨⟨_, rfl⟩, ⟨"sin", ⟨"sin", 1, .sine, _⟩, rfl, rfl⟩, by simp, trivial⟩
  have failed : ev.evaluate e = .error .divisionByZero := by cbv
  exact ⟨passes, failed, ((ev.evaluate_fill around e).2 _ failed).2 passes⟩

end Evaluator

end Reckoner
