import Mathlib
import Reckoner.Proofs.Expr.Every

/-! Two trees side by side: of one shape with numbers in the same places, and the same but for the
order of operands. A tree has lists of arguments, so that proofs go by induction over the first of
the two and by cases of the relation. -/

namespace Reckoner

/-- A relation between lists, weakened at the members of the first. -/
theorem forall₂_imp_of_mem {α β : Type} {R S : α → β → Prop} {as : List α} {bs : List β}
    (h : List.Forall₂ R as bs) (imp : ∀ a ∈ as, ∀ b, R a b → S a b) : List.Forall₂ S as bs := by
  have members := (List.forall₂_and_left (p := (· ∈ as)) as bs).mpr ⟨fun _ inside => inside, h⟩
  exact members.imp fun a b both => imp a both.1 b both.2

namespace Expr

/-- Trees of one shape, with the same symbols and with related constants in the same places. -/
inductive Matches (related : Value → Value → Prop) : Expr → Expr → Prop where
  | constant {v w : Value} (h : related v w) : Matches related (.constant v) (.constant w)
  | symbol (name : String) : Matches related (.symbol name) (.symbol name)
  | binary (op : BinaryOp) {a b a' b' : Expr} (hl : Matches related a a')
    (hr : Matches related b b') : Matches related (.binary op a b) (.binary op a' b')
  | neg {a a' : Expr} (h : Matches related a a') : Matches related (.neg a) (.neg a')
  | apply {f f' : Expr} {args args' : List Expr} (hc : Matches related f f')
    (ha : List.Forall₂ (Matches related) args args') :
    Matches related (.apply f args) (.apply f' args')

/-- The same tree up to the order of the operands of any of its sums and products. -/
inductive Reordered : Expr → Expr → Prop where
  | constant (v : Value) : Reordered (.constant v) (.constant v)
  | symbol (name : String) : Reordered (.symbol name) (.symbol name)
  | kept (op : BinaryOp) {a b a' b' : Expr} (hl : Reordered a a') (hr : Reordered b b') :
    Reordered (.binary op a b) (.binary op a' b')
  | swapped {op : BinaryOp} (commutes : op = .add ∨ op = .mul) {a b a' b' : Expr}
    (hl : Reordered a a') (hr : Reordered b b') : Reordered (.binary op a b) (.binary op b' a')
  | neg {a a' : Expr} (h : Reordered a a') : Reordered (.neg a) (.neg a')
  | apply {f f' : Expr} {args args' : List Expr} (hc : Reordered f f')
    (ha : List.Forall₂ Reordered args args') : Reordered (.apply f args) (.apply f' args')

namespace Reordered

variable {e e' : Expr}

theorem symm (h : Reordered e e') : Reordered e' e := by
  induction e generalizing e' with
  | constant | symbol =>
    cases h
    constructor
  | binary _ _ _ ihl ihr =>
    cases h with
    | kept _ hl hr => exact .kept _ (ihl hl) (ihr hr)
    | swapped commutes hl hr => exact .swapped commutes (ihr hr) (ihl hl)
  | neg _ ih =>
    cases h with
    | neg h => exact .neg (ih h)
  | apply _ _ ihc iha =>
    cases h with
    | apply hc ha =>
      exact .apply (ihc hc) (forall₂_imp_of_mem ha fun a member _ order => iha a member order).flip

/-- A number stays as it is, and nothing else becomes one. -/
theorem constant_iff (h : Reordered e e') (v : Value) : e = .constant v ↔ e' = .constant v := by
  constructor
  · rintro rfl
    cases h
    rfl
  · rintro rfl
    cases h
    rfl

theorem every {property : Value → Prop} (h : Reordered e e') (each : e.Every property) :
    e'.Every property := by
  induction e generalizing e' with
  | constant | symbol =>
    cases h
    exact each
  | binary _ _ _ ihl ihr =>
    obtain ⟨left, right⟩ := every_binary_iff.mp each
    cases h with
    | kept _ hl hr => exact .binary (ihl hl left) (ihr hr right)
    | swapped _ hl hr => exact .binary (ihr hr right) (ihl hl left)
  | neg _ ih =>
    cases h with
    | neg h => exact .neg (ih h (every_neg_iff.mp each))
  | apply _ args ihc iha =>
    obtain ⟨callee, arguments⟩ := every_apply_iff.mp each
    cases h with
    | apply hc ha =>
      refine .apply (ihc hc callee) fun arg member => ?_
      have paired := forall₂_imp_of_mem ha fun a inside b order => iha a inside order (arguments a inside)
      obtain ⟨i, bound, rfl⟩ := List.getElem_of_mem member
      exact (List.forall₂_iff_get.mp paired).2 i (by rw [ha.length_eq]; exact bound) bound

end Reordered

end Expr

end Reckoner
