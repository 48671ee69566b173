import Reckoner.Expr.Basic

/-! Induction over expression trees, where a list of arguments gives one hypothesis for each
argument, properties of all constants of a tree, and the names in it. -/

namespace Reckoner.Expr

@[elab_as_elim, induction_eliminator]
theorem inductionOn {motive : Expr → Prop} (constant : ∀ value, motive (constant value))
    (symbol : ∀ name, motive (symbol name))
    (binary : ∀ op left right, motive left → motive right → motive (binary op left right))
    (neg : ∀ operand, motive operand → motive (neg operand))
    (apply : ∀ callee args, motive callee → (∀ arg ∈ args, motive arg) → motive (apply callee args))
    (e : Expr) : motive e :=
  @Expr.rec motive (fun args => ∀ arg ∈ args, motive arg) constant symbol binary neg apply
    (fun _ none => absurd none List.not_mem_nil)
    (fun _ _ first rest _ h => (List.mem_cons.mp h).elim (fun same => same ▸ first) (rest _)) e

/-- Every constant of the tree has the property. -/
inductive Every (property : Value → Prop) : Expr → Prop where
  | constant {value : Value} (h : property value) : Every property (.constant value)
  | symbol {name : String} : Every property (.symbol name)
  | binary {op : BinaryOp} {left right : Expr} (hl : Every property left)
      (hr : Every property right) : Every property (.binary op left right)
  | neg {operand : Expr} (h : Every property operand) : Every property (.neg operand)
  | apply {callee : Expr} {args : List Expr} (hc : Every property callee)
      (ha : ∀ arg ∈ args, Every property arg) : Every property (.apply callee args)

section Every

variable {property : Value → Prop}

theorem every_constant_iff {value : Value} : Every property (.constant value) ↔ property value := by
  constructor
  · intro h
    cases h with | constant h => exact h
  · exact .constant

theorem every_neg_iff {operand : Expr} : Every property (.neg operand) ↔ Every property operand := by
  constructor
  · intro h
    cases h with | neg h => exact h
  · exact .neg

theorem every_binary_iff {op : BinaryOp} {left right : Expr} :
    Every property (.binary op left right) ↔ Every property left ∧ Every property right := by
  constructor
  · intro h
    cases h with | binary hl hr => exact ⟨hl, hr⟩
  · rintro ⟨hl, hr⟩
    exact .binary hl hr

theorem every_apply_iff {callee : Expr} {args : List Expr} :
    Every property (.apply callee args) ↔
      Every property callee ∧ ∀ arg ∈ args, Every property arg := by
  constructor
  · intro h
    cases h with | apply hc ha => exact ⟨hc, ha⟩
  · rintro ⟨hc, ha⟩
    exact .apply hc ha

end Every

/-- The name occurs as a symbol of the tree. -/
inductive Mentions (name : String) : Expr → Prop where
  | symbol : Mentions name (.symbol name)
  | left {op : BinaryOp} {a b : Expr} (h : Mentions name a) : Mentions name (.binary op a b)
  | right {op : BinaryOp} {a b : Expr} (h : Mentions name b) : Mentions name (.binary op a b)
  | neg {a : Expr} (h : Mentions name a) : Mentions name (.neg a)
  | callee {f : Expr} {args : List Expr} (h : Mentions name f) : Mentions name (.apply f args)
  | arg {f a : Expr} {args : List Expr} (ha : a ∈ args) (h : Mentions name a) :
    Mentions name (.apply f args)

end Reckoner.Expr
