import Reckoner.Expr.Basic

/-! Expressions as text, with parentheses only where a subtree binds weaker than its place
requires. A function name is written between double quotes. -/

namespace Reckoner.Expr

def parenthesize (needed : Bool) (text : List Char) : List Char :=
  if needed then '(' :: text ++ [')'] else text

/-- Texts separated by commas. -/
def separate : List (List Char) → List Char
  | [] => []
  | [last] => last
  | first :: rest => first ++ ',' :: separate rest

mutual

/-- The text of an expression where at least the binding `required` is needed. -/
def textAt (digits : Int) (required : Precedence) : Expr → Except DisplayError (List Char)
  | constant value => do
    let text ← value.display digits
    return parenthesize (value.precedence.rank < required.rank) text.toList
  | symbol name => .ok name.toList
  | neg operand => do
    let text ← textAt digits .neg operand
    return parenthesize (Precedence.neg.rank < required.rank) ('-' :: text)
  | binary op left right => do
    let own := op.precedence
    let leftText ← textAt digits own left
    let rightText ← textAt digits (if op.bindsRightTighter then own.tighter else own) right
    return parenthesize (own.rank < required.rank) (leftText ++ op.symbol :: rightText)
  | apply callee args => do
    let calleeText ← textAt digits .none callee
    let argTexts ← textsOf digits args
    return parenthesize (Precedence.application.rank < required.rank)
      ('"' :: calleeText ++ '"' :: '(' :: separate argTexts ++ [')'])

def textsOf (digits : Int) : List Expr → Except DisplayError (List (List Char))
  | [] => .ok []
  | first :: rest => do
    let text ← textAt digits .none first
    return text :: (← textsOf digits rest)

end

/-- The text of an expression, decimals with `digits` significant digits. -/
def print (digits : Int) (e : Expr) : Except DisplayError String :=
  if digits < 1 then .error (.tooFewDigits "round_digits")
  else do
    let text ← textAt digits .none e
    return String.ofList text

end Reckoner.Expr
