import Reckoner.Source.Token

/-! Surface trees: what the grammar recognises before it is known which parts belong to the
expression language. A part that cannot belong to it is kept as its column and its kind only. -/

namespace Reckoner.Source

inductive UnaryOp where
  | minus | plus | invert | logicalNot
deriving DecidableEq, Repr

inductive InfixOp where
  | add | sub | mul | div | power | modulo | floorDiv | matMul | shiftLeft | shiftRight
  | bitAnd | bitOr | bitXor
deriving DecidableEq, Repr

/-- The constructs outside the expression language. -/
inductive Construct where
  | boolOp | namedExpr | lambda | ifExp | dict | set | listComp | setComp | dictComp
  | generatorExp | await | yield | yieldFrom | compare | joinedStr | member | subscript
  | list | tuple
deriving DecidableEq, Repr

def Construct.name : Construct → String
  | boolOp => "BoolOp"
  | namedExpr => "NamedExpr"
  | lambda => "Lambda"
  | ifExp => "IfExp"
  | dict => "Dict"
  | set => "Set"
  | listComp => "ListComp"
  | setComp => "SetComp"
  | dictComp => "DictComp"
  | generatorExp => "GeneratorExp"
  | await => "Await"
  | yield => "Yield"
  | yieldFrom => "YieldFrom"
  | compare => "Compare"
  | joinedStr => "JoinedStr"
  | member => "Attribute"
  | subscript => "Subscript"
  | list => "List"
  | tuple => "Tuple"

/-- Columns count bytes. `literal` is a constant that is no number; `starred` occurs among the
arguments of a call only; a call keeps the columns of the values of its keyword arguments. -/
inductive Surface where
  | number (column : Nat) (kind : NumberKind) (text : List Char)
  | literal (column : Nat)
  | name (column : Nat) (id : String)
  | unary (column : Nat) (op : UnaryOp) (operand : Surface)
  | binary (column : Nat) (op : InfixOp) (left right : Surface)
  | call (column : Nat) (callee : Surface) (args : List Surface) (keywordColumns : List Nat)
  | starred (column : Nat)
  | foreign (column : Nat) (construct : Construct)
deriving Repr, Inhabited

namespace Surface

/-- The column where a tree begins. Parentheses around a whole tree do not count, those around
its first part do. -/
def column : Surface → Nat
  | number column _ _ => column
  | literal column => column
  | name column _ => column
  | unary column _ _ => column
  | binary column _ _ _ => column
  | call column _ _ _ => column
  | starred column => column
  | foreign column _ => column

end Surface

end Reckoner.Source
