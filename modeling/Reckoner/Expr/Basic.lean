import Reckoner.Value

/-! Expression trees: numbers, symbols without a value, arithmetic, and applications. -/

namespace Reckoner

inductive BinaryOp where
  | add | sub | mul | div
deriving DecidableEq, Repr

inductive Expr where
  | constant (value : Value)
  | symbol (name : String)
  | binary (op : BinaryOp) (left right : Expr)
  | neg (operand : Expr)
  | apply (callee : Expr) (args : List Expr)
deriving Repr, Inhabited

/-- Binding strength, from none to that of symbols and plain numbers. -/
inductive Precedence where
  | none | sum | product | neg | application | atom
deriving DecidableEq, Repr

namespace Precedence

def rank : Precedence → Nat
  | none => 0
  | sum => 1
  | product => 2
  | neg => 3
  | application => 4
  | atom => 5

theorem rank_injective {a b : Precedence} (h : a.rank = b.rank) : a = b := by
  cases a <;> cases b <;> first | rfl | (simp [rank] at h)

/-- The next stronger binding. -/
def tighter : Precedence → Precedence
  | none => sum
  | sum => product
  | product => neg
  | neg => application
  | application => atom
  | atom => atom

end Precedence

namespace BinaryOp

def symbol : BinaryOp → Char
  | add => '+'
  | sub => '-'
  | mul => '*'
  | div => '/'

def precedence : BinaryOp → Precedence
  | add | sub => .sum
  | mul | div => .product

/-- Subtraction and division take apart what stands on their right. -/
def bindsRightTighter : BinaryOp → Bool
  | add | mul => false
  | sub | div => true

def apply (ctx : Context) : BinaryOp → Value → Value → Except ArithmeticError Value
  | add, a, b => (a.add ctx b).mapError .signal
  | sub, a, b => (a.sub ctx b).mapError .signal
  | mul, a, b => (a.mul ctx b).mapError .signal
  | div, a, b => a.div ctx b

end BinaryOp

/-- A fraction reads as a quotient, and a negative number as a negation. -/
def Value.precedence : Value → Precedence
  | .exact q => if q.den ≠ 1 then .product else if q < 0 then .neg else .atom
  | .decimal d => if d.isNegative && !d.isZero then .neg else .atom

namespace Expr

def precedence : Expr → Precedence
  | constant value => value.precedence
  | symbol _ => .atom
  | binary op _ _ => op.precedence
  | neg _ => .neg
  | apply _ _ => .application

/-- What an expression has been reduced to. -/
inductive Kind where
  | exact | decimal | expression
deriving DecidableEq, Repr

def Kind.name : Kind → String
  | exact => "exact"
  | decimal => "decimal"
  | expression => "expression"

def kind : Expr → Kind
  | constant (.exact _) => .exact
  | constant (.decimal _) => .decimal
  | _ => .expression

end Expr

end Reckoner
