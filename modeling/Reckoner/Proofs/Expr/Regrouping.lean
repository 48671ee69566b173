import Mathlib
import Reckoner.Expr.Printer
import Reckoner.Proofs.Expr.Every
import Reckoner.Proofs.Value.Tower

/-! Sums and products regrouped from the left. The printer writes `a+(b+c)` as `a+b+c`, which
reads as `(a+b)+c`; the regrouped tree is that reading, with the same text and the same value. -/

namespace Reckoner

namespace BinaryOp

/-- The operation on rationals, without a result for a divisor that is zero. -/
def onRat? (op : BinaryOp) (x y : ℚ) : Option ℚ :=
  if op = div ∧ y = 0 then none else some (op.onRat x y)

/-- Addition and multiplication are associative with the operations of their precedence. -/
theorem onRat?_assoc {op inner : BinaryOp} (loose : op.bindsRightTighter = false)
    (same : inner.precedence = op.precedence) (x y z : ℚ) :
    (op.onRat? x y).bind (inner.onRat? · z) = (inner.onRat? y z).bind (op.onRat? x) := by
  by_cases zero : z = 0 <;> cases op <;> cases inner <;>
    simp_all [onRat?, onRat, precedence, bindsRightTighter] <;> ring

end BinaryOp

namespace Expr

/-- The rational value of a tree, given those of its constants and symbols; nothing when a divisor
is zero. -/
def denote (number : Value → ℚ) (env : String → ℚ) : Expr → Option ℚ
  | .constant value => some (number value)
  | .symbol name => some (env name)
  | .binary op left right =>
    (left.denote number env).bind fun x => (right.denote number env).bind (op.onRat? x)
  | .neg operand => (operand.denote number env).map (-·)
  | .apply _ _ => none

/-- Join a tree to the first operand of a chain of operators of one precedence. -/
def graft (op : BinaryOp) (left : Expr) : Expr → Expr
  | .binary inner a b =>
    if inner.precedence = op.precedence then .binary inner (graft op left a) b
    else .binary op left (.binary inner a b)
  | right => .binary op left right

def regroup : Expr → Expr
  | .binary op left right =>
    if op.bindsRightTighter then .binary op left.regroup right.regroup
    else graft op left.regroup right.regroup
  | .neg operand => .neg operand.regroup
  | e => e

theorem graft_of_ne {op inner : BinaryOp} (ne : inner.precedence ≠ op.precedence)
    (left a b : Expr) : graft op left (.binary inner a b) = .binary op left (.binary inner a b) := by
  rw [graft, if_neg ne]

theorem graft_of_eq {op inner : BinaryOp} (same : inner.precedence = op.precedence)
    (left a b : Expr) : graft op left (.binary inner a b) = .binary inner (graft op left a) b := by
  rw [graft, if_pos same]

theorem graft_graft (op : BinaryOp) (a b c : Expr) :
    graft op a (graft op b c) = graft op (graft op a b) c := by
  induction c with
  | binary inner x y ih =>
    by_cases same : inner.precedence = op.precedence
    · simp only [graft_of_eq same, ih]
    · simp only [graft_of_ne same, graft_of_eq rfl]
  | constant | symbol | neg | apply => simp [graft]

/-- A grafted chain is a chain of the same precedence. -/
theorem graft_eq_binary (op : BinaryOp) (left right : Expr) :
    ∃ last a b, graft op left right = .binary last a b ∧ last.precedence = op.precedence := by
  induction right with
  | binary inner x y =>
    by_cases same : inner.precedence = op.precedence
    · exact ⟨inner, graft op left x, y, graft_of_eq same .., same⟩
    · exact ⟨op, left, .binary inner x y, graft_of_ne same .., rfl⟩
  | constant | symbol | neg | apply => exact ⟨op, left, _, rfl, rfl⟩

theorem regroup_eq_binary (op : BinaryOp) (left right : Expr) :
    ∃ last a b, (Expr.binary op left right).regroup = .binary last a b ∧
      last.precedence = op.precedence := by
  rw [regroup]
  split
  · exact ⟨op, _, _, rfl, rfl⟩
  · exact graft_eq_binary op _ _

/-- The operator that joins the operands of a tree. -/
def operator? : Expr → Option BinaryOp
  | .binary op _ _ => some op
  | _ => none

/-- No sum or difference is the right operand of an addition, and no product or quotient that of a
multiplication. -/
def LeftGrouped : Expr → Prop
  | .binary op left right =>
    left.LeftGrouped ∧ right.LeftGrouped ∧
      (op = .add → right.operator? ≠ some .add ∧ right.operator? ≠ some .sub) ∧
        (op = .mul → right.operator? ≠ some .mul ∧ right.operator? ≠ some .div)
  | .neg operand => operand.LeftGrouped
  | _ => True

theorem regroup_eq_self {e : Expr} (h : e.LeftGrouped) : e.regroup = e := by
  induction e with
  | binary op left right ihl ihr =>
    obtain ⟨hl, hr, sum, product⟩ := h
    rw [regroup, ihl hl, ihr hr]
    split
    · rfl
    · rename_i loose
      cases right with
      | binary inner a b =>
        refine graft_of_ne ?_ left a b
        cases op <;> cases inner <;>
          simp_all [operator?, BinaryOp.precedence, BinaryOp.bindsRightTighter]
      | constant | symbol | neg | apply => rfl
  | neg operand ih => rw [regroup, ih h]
  | constant | symbol | apply => rfl

section Denotation

variable (number : Value → ℚ) (env : String → ℚ)

theorem denote_graft {op : BinaryOp} (loose : op.bindsRightTighter = false) (left right : Expr) :
    (graft op left right).denote number env = (Expr.binary op left right).denote number env := by
  induction right with
  | binary inner a b ih =>
    by_cases same : inner.precedence = op.precedence
    · rw [graft_of_eq same]
      simp only [denote, ih, Option.bind_assoc]
      refine Option.bind_congr fun x _ => Option.bind_congr fun y _ => ?_
      rw [Option.bind_comm]
      exact Option.bind_congr fun z _ => BinaryOp.onRat?_assoc loose same x y z
    · rw [graft_of_ne same]
  | constant | symbol | neg | apply => rfl

theorem denote_regroup (e : Expr) : e.regroup.denote number env = e.denote number env := by
  induction e with
  | binary op left right ihl ihr =>
    rw [regroup]
    split
    · simp only [denote, ihl, ihr]
    · rename_i loose
      rw [denote_graft number env (eq_false_of_ne_true loose)]
      simp only [denote, ihl, ihr]
  | neg operand ih => simp only [regroup, denote, ih]
  | constant | symbol | apply => rfl

end Denotation

section Text

variable (digits : Int)

theorem textAt_graft {op : BinaryOp} (loose : op.bindsRightTighter = false) (left right : Expr)
    (required : Precedence) :
    (graft op left right).textAt digits required =
      (Expr.binary op left right).textAt digits required := by
  induction right generalizing required with
  | binary inner a b ih =>
    by_cases same : inner.precedence = op.precedence
    · rw [graft_of_eq same]
      simp only [textAt, same, ih, loose, parenthesize, lt_irrefl, decide_false, Bool.false_eq_true,
        if_false, bind_assoc, pure_bind, List.append_assoc, List.cons_append]
    · rw [graft_of_ne same]
  | constant | symbol | neg | apply => rfl

theorem textAt_regroup (e : Expr) (required : Precedence) :
    e.regroup.textAt digits required = e.textAt digits required := by
  induction e generalizing required with
  | binary op left right ihl ihr =>
    rw [regroup]
    split
    · simp only [textAt, ihl, ihr]
    · rename_i loose
      rw [textAt_graft digits (eq_false_of_ne_true loose)]
      simp only [textAt, ihl, ihr]
  | neg operand ih => simp only [regroup, textAt, ih]
  | constant | symbol | apply => rfl

end Text

end Expr

end Reckoner
