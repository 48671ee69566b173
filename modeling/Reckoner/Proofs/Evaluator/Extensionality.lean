import Mathlib
import Reckoner.Proofs.Evaluator.Steps
import Reckoner.Proofs.Expr.Variants
import Reckoner.Proofs.Sine.Extensionality
import Reckoner.Proofs.Value.SameNumber

/-! Trees with the same numbers in the same places, whatever the exponents of their decimals. One
step of the reduction keeps two such trees side by side or stops both with one failure, and so does
the whole reduction; the text of a tree has nothing of the exponents either. -/

namespace Reckoner

namespace Expr

variable {e e' : Expr}

theorem textsOf_congr {related : Value → Value → Prop} {digits : ℤ} {args args' : List Expr}
    (ha : List.Forall₂ (Matches related) args args')
    (each : ∀ arg ∈ args, ∀ arg', arg.Matches related arg' →
      textAt digits .none arg = textAt digits .none arg') :
    textsOf digits args = textsOf digits args' := by
  induction ha with
  | nil => rfl
  | cons first _ ih =>
    rw [List.forall_mem_cons] at each
    rw [textsOf, textsOf, each.1 _ first, ih each.2]

theorem textAt_congr (h : e.Matches Value.SameNumber e') (digits : ℤ) (required : Precedence) :
    textAt digits required e = textAt digits required e' := by
  induction e generalizing e' required with
  | constant v =>
    cases h with
    | constant same => rw [textAt, textAt, same.display_eq, same.precedence_eq]
  | symbol =>
    cases h
    rfl
  | neg operand ih =>
    cases h with
    | neg h => rw [textAt, textAt, ih h]
  | binary op left right ihl ihr =>
    cases h with
    | binary _ hl hr => rw [textAt, textAt, ihl hl, ihr hr]
  | apply callee args ihc iha =>
    cases h with
    | apply hc ha =>
      rw [textAt, textAt, ihc hc, textsOf_congr ha fun arg member _ h => iha arg member h .none]

theorem print_congr (h : e.Matches Value.SameNumber e') (digits : ℤ) :
    e.print digits = e'.print digits := by
  rw [print, print, textAt_congr h]

end Expr

/-- A function of numbers, which are all that it sees of its arguments. -/
def NamedFunction.Extensional (ctx : Context) (function : NamedFunction) : Prop :=
  ∀ values values' : List Value, List.Forall₂ Value.SameNumber values values' →
    Agree Value.SameNumber (function.implementation ctx values) (function.implementation ctx values')

theorem Implementation.sine_agree (ctx : Context) {values values' : List Value}
    (same : List.Forall₂ Value.SameNumber values values') :
    Agree Value.SameNumber (sine ctx values) (sine ctx values') := by
  match same with
  | .nil => exact .error _
  | .cons _ (.cons _ rest) =>
    have length := rest.length_eq
    simp only [sine, List.length_cons, length]
    exact .error _
  | .cons (.exact _) .nil => exact .error _
  | .cons (.decimal angle) .nil =>
    rw [sine_finite, sine_finite]
    exact ((Sine.sine_agree ctx angle).map fun _ _ => .decimal).mapError _

theorem standard_extensional (ctx : Context) :
    ∀ function ∈ Registry.standard, function.Extensional ctx := by
  intro function known values values' same
  obtain rfl := List.mem_singleton.mp known
  exact Implementation.sine_agree ctx same

namespace Evaluator

variable (ev : Evaluator)

section Steps

variable {a b a' b' : Expr}

theorem negate_agree (h : a.Matches Value.SameNumber a') :
    Agree (Expr.Matches Value.SameNumber) (ev.negate a) (ev.negate a') := by
  cases h with
  | constant same =>
    exact ((Value.neg_agree ev.context same).mapError _).map fun _ _ => .constant
  | symbol name => exact .ok (.neg (.symbol name))
  | binary op hl hr => exact .ok (.neg (.binary op hl hr))
  | neg h => exact .ok (.neg (.neg h))
  | apply hc ha => exact .ok (.neg (.apply hc ha))

theorem operate_agree (op : BinaryOp) (hl : a.Matches Value.SameNumber a')
    (hr : b.Matches Value.SameNumber b') :
    Agree (Expr.Matches Value.SameNumber) (ev.operate op a b) (ev.operate op a' b') := by
  by_cases closed : ∃ v w, a = .constant v ∧ b = .constant w
  · obtain ⟨v, w, rfl, rfl⟩ := closed
    cases hl with | constant left =>
    cases hr with | constant right =>
    exact ((op.apply_agree ev.context_spans left right).mapError _).map fun _ _ => .constant
  · have free : ∀ v w, a = .constant v → b ≠ .constant w := fun v w left right =>
      closed ⟨v, w, left, right⟩
    have free' : ∀ v w, a' = .constant v → b' ≠ .constant w := by
      rintro v w rfl rfl
      cases hl
      cases hr
      exact free _ _ rfl rfl
    rw [ev.operate_open op free, ev.operate_open op free']
    exact .ok (.binary op hl hr)

end Steps

theorem evaluateArgs_agree (name : String) {args args' : List Expr}
    (each : List.Forall₂ (fun arg arg' => Agree (Expr.Matches Value.SameNumber) (ev.evaluate arg)
      (ev.evaluate arg')) args args') :
    Agree (List.Forall₂ Value.SameNumber) (ev.evaluateArgs name args)
      (ev.evaluateArgs name args') := by
  induction each with
  | nil =>
    rw [evaluateArgs]
    exact .ok .nil
  | cons first _ ih =>
    rw [evaluateArgs, evaluateArgs]
    refine first.bind fun reduced reduced' h => ?_
    cases h with
    | constant same => exact ih.bind fun _ _ others => .ok (.cons same others)
    | symbol | binary | neg | apply => exact .error _

/-- The reduction of two trees that match, in which every registered function is one of numbers. -/
theorem evaluate_agree (extensional : ∀ function ∈ ev.functions, function.Extensional ev.context)
    {e e' : Expr} (h : e.Matches Value.SameNumber e') :
    Agree (Expr.Matches Value.SameNumber) (ev.evaluate e) (ev.evaluate e') := by
  induction e generalizing e' with
  | constant v =>
    cases h with
    | constant same =>
      rw [evaluate, evaluate]
      exact .ok (.constant same)
  | symbol name =>
    cases h
    rw [evaluate]
    exact .ok (.symbol name)
  | neg operand ih =>
    cases h with
    | neg h =>
      rw [evaluate_neg, evaluate_neg]
      exact (ih h).bind fun _ _ => ev.negate_agree
  | binary op left right ihl ihr =>
    cases h with
    | binary _ hl hr =>
      rw [evaluate_binary, evaluate_binary]
      exact (ihl hl).bind fun _ _ first => (ihr hr).bind fun _ _ => ev.operate_agree op first
  | apply callee args ihc iha =>
    cases h with
    | @apply _ callee' _ args' hc ha =>
      -- The function is found by its name and the number of its arguments, which the trees share.
      have arguments := forall₂_imp_of_mem ha fun arg member _ => iha arg member
      rw [evaluate, evaluate]
      refine (ihc hc).bind fun reduced reduced' head => ?_
      cases head with
      | symbol name =>
        simp only [ha.length_eq]
        cases found : ev.functions.lookup name args'.length with
        | error cause => exact .error _
        | ok function =>
          have known := List.mem_of_find?_eq_some (named_of_lookup found)
          exact (ev.evaluateArgs_agree name arguments).bind fun values values' same =>
            (extensional function known values values' same).map fun _ _ => .constant
      | constant | binary | neg | apply => exact .error _

/-- The exponents of decimals do not matter, nor the signs of zeros. Two trees of one shape, with the
same symbols, the same exact numbers and decimals that are equal as numbers, both fail with one
error, or both succeed; the results then are two such trees again, and the same text in every
width, or without one for the same reason. -/
theorem evaluate_by_number (ev : Evaluator) (standard : ev.functions = .standard) {e e' : Expr}
    (same : e.Matches Value.SameNumber e') :
    (∀ error, ev.evaluate e = .error error ↔ ev.evaluate e' = .error error) ∧
      ∀ r r', ev.evaluate e = .ok r → ev.evaluate e' = .ok r' →
        r.Matches Value.SameNumber r' ∧ ∀ digits : ℤ, r.print digits = r'.print digits := by
  have outcomes := ev.evaluate_agree (standard ▸ standard_extensional ev.context) same
  generalize ev.evaluate e = left at outcomes
  generalize ev.evaluate e' = right at outcomes
  cases outcomes with
  | error cause => exact ⟨fun error => Iff.rfl, fun r r' h => by cases h⟩
  | ok matching =>
    refine ⟨fun error => ⟨nofun, nofun⟩, fun r r' h h' => ?_⟩
    cases h
    cases h'
    exact ⟨matching, fun digits => Expr.print_congr matching digits⟩

/-- Products of 2.5 and a thousand in two spellings, beside zeros of both signs. -/
theorem evaluate_by_number_thousands :
    let ev : Evaluator := { rounding := .up }
    let number (negative : Bool) (n : ℕ) (place : ℤ) : Expr :=
      .constant (.decimal (.finite ⟨negative, n, place⟩))
    let e : Expr := .binary .add (.binary .mul (number false 25 (-1)) (number false 1 3))
      (.binary .sub (.symbol "x") (number false 0 5))
    let e' : Expr := .binary .add (.binary .mul (number false 2500 (-3)) (number false 1000 0))
      (.binary .sub (.symbol "x") (number true 0 (-2)))
    let r : Expr := .binary .add (number false 25 2) (.binary .sub (.symbol "x") (number false 0 5))
    let r' : Expr :=
      .binary .add (number false 2500000 (-3)) (.binary .sub (.symbol "x") (number true 0 (-2)))
    e.Matches Value.SameNumber e' ∧ ev.evaluate e = .ok r ∧ ev.evaluate e' = .ok r' ∧
      r.print 8 = .ok "2500.0000+x-0" ∧ r'.print 8 = .ok "2500.0000+x-0" := by
  intro ev number e e' r r'
  have spelled {a b : Decimal} (h : a.SameNumber b) :
      Expr.Matches Value.SameNumber (.constant (.decimal (.finite a)))
        (.constant (.decimal (.finite b))) := .constant (.decimal h)
  have same : e.Matches Value.SameNumber e' := by
    refine .binary _ (.binary _ (spelled ?_) (spelled ?_)) (.binary _ (.symbol "x") (spelled ?_)) <;>
      norm_num [Decimal.SameNumber, Decimal.toRat]
  have product : BinaryOp.mul.apply ev.context (.decimal (.finite ⟨false, 25, -1⟩))
      (.decimal (.finite ⟨false, 1, 3⟩)) = .ok (.decimal (.finite ⟨false, 25, 2⟩)) := by
    decide +kernel
  have product' : BinaryOp.mul.apply ev.context (.decimal (.finite ⟨false, 2500, -3⟩))
      (.decimal (.finite ⟨false, 1000, 0⟩)) = .ok (.decimal (.finite ⟨false, 2500000, -3⟩)) := by
    decide +kernel
  have constant (v : Value) : ev.evaluate (.constant v) = .ok (.constant v) := by rw [evaluate]
  have left : ev.evaluate e = .ok r := by
    rw [evaluate_binary, ev.evaluate_computed (constant _) (constant _) product]
    rfl
  have right : ev.evaluate e' = .ok r' := by
    rw [evaluate_binary, ev.evaluate_computed (constant _) (constant _) product']
    rfl
  have text : r.print 8 = .ok "2500.0000+x-0" := by decide +kernel
  have texts := ((ev.evaluate_by_number rfl same).2 r r' left right).2 8
  exact ⟨same, left, right, text, texts.symm.trans text⟩

end Evaluator

end Reckoner
