import Reckoner.Proofs.Expr.Every

/-! The trees inside a tree, and the symbols that stand for numbers in it. -/

namespace Reckoner.Expr

/-- The part is the tree itself or stands in it at any depth. -/
inductive Within (part : Expr) : Expr → Prop where
  | self : Within part part
  | left {op : BinaryOp} {a b : Expr} (h : Within part a) : Within part (.binary op a b)
  | right {op : BinaryOp} {a b : Expr} (h : Within part b) : Within part (.binary op a b)
  | neg {a : Expr} (h : Within part a) : Within part (.neg a)
  | callee {f : Expr} {args : List Expr} (h : Within part f) : Within part (.apply f args)
  | arg {f a : Expr} {args : List Expr} (ha : a ∈ args) (h : Within part a) :
    Within part (.apply f args)

section Within

variable {part : Expr}

theorem Within.trans {mid e : Expr} (h : part.Within mid) (inside : mid.Within e) :
    part.Within e := by
  induction inside with
  | self => exact h
  | left _ ih => exact .left ih
  | right _ ih => exact .right ih
  | neg _ ih => exact .neg ih
  | callee _ ih => exact .callee ih
  | arg ha _ ih => exact .arg ha ih

theorem within_constant_iff {value : Value} :
    part.Within (.constant value) ↔ part = .constant value := by
  constructor
  · intro h
    cases h
    rfl
  · rintro rfl
    exact .self

theorem within_neg_iff {operand : Expr} :
    part.Within (.neg operand) ↔ part = .neg operand ∨ part.Within operand := by
  constructor
  · intro h
    cases h with
    | self => exact .inl rfl
    | neg h => exact .inr h
  · rintro (rfl | h)
    · exact .self
    · exact .neg h

theorem within_binary_iff {op : BinaryOp} {left right : Expr} :
    part.Within (.binary op left right) ↔
      part = .binary op left right ∨ part.Within left ∨ part.Within right := by
  constructor
  · intro h
    cases h with
    | self => exact .inl rfl
    | left h => exact .inr (.inl h)
    | right h => exact .inr (.inr h)
  · rintro (rfl | h | h)
    · exact .self
    · exact .left h
    · exact .right h

end Within

mutual

/-- The symbols that stand for numbers, from left to right. What is applied stands for none. -/
def operandSymbols : Expr → List String
  | constant _ => []
  | symbol name => [name]
  | binary _ left right => operandSymbols left ++ operandSymbols right
  | neg operand => operandSymbols operand
  | apply _ args => operandSymbolsOf args

def operandSymbolsOf : List Expr → List String
  | [] => []
  | first :: rest => operandSymbols first ++ operandSymbolsOf rest

end

theorem operandSymbolsOf_eq_nil {args : List Expr} :
    operandSymbolsOf args = [] ↔ ∀ arg ∈ args, arg.operandSymbols = [] := by
  induction args with
  | nil => simp [operandSymbolsOf]
  | cons first rest ih => simp [operandSymbolsOf, ih]

end Reckoner.Expr
