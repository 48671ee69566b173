import Reckoner.Decimal.Display

/-! The numeric tower: exact rationals and decimals. Two exact operands give an exact result;
otherwise an exact operand is first rounded into the context by one division, and the operation
is a decimal one. Decimal operands enter with all their digits. -/

namespace Reckoner

inductive Value where
  | exact (value : Rat)
  | decimal (value : ExtDecimal)
deriving DecidableEq, Repr

/-- A division by the zero of a representation, or an operation without a decimal result. -/
inductive ArithmeticError where
  | zeroDivisor
  | signal (cause : Signal)
deriving DecidableEq, Repr

namespace Value

/-- The decimal of a value in a context. -/
def toDecimal (ctx : Context) : Value → Except Signal ExtDecimal
  | exact q => ExtDecimal.finite <$> ctx.div (.ofInt q.num) (.ofNat q.den)
  | decimal d => .ok d

def isZero : Value → Bool
  | exact q => q == 0
  | decimal d => d.isZero

/-- Apply one operation to exact operands and another to all others. -/
def combine (ctx : Context) (rational : Rat → Rat → Rat)
    (rounded : Context → ExtDecimal → ExtDecimal → Except Signal ExtDecimal)
    (left right : Value) : Except Signal Value :=
  match left, right with
  | exact a, exact b => .ok (exact (rational a b))
  | _, _ => do
    let a ← left.toDecimal ctx
    let b ← right.toDecimal ctx
    return decimal (← rounded ctx a b)

def add (ctx : Context) : Value → Value → Except Signal Value :=
  combine ctx (· + ·) ExtDecimal.add

def sub (ctx : Context) : Value → Value → Except Signal Value :=
  combine ctx (· - ·) ExtDecimal.sub

def mul (ctx : Context) : Value → Value → Except Signal Value :=
  combine ctx (· * ·) ExtDecimal.mul

/-- Division, refused when the divisor is a zero of its own representation. -/
def div (ctx : Context) (left right : Value) : Except ArithmeticError Value :=
  if right.isZero then .error .zeroDivisor
  else (combine ctx (· / ·) ExtDecimal.div left right).mapError .signal

def neg (ctx : Context) : Value → Except Signal Value
  | exact q => .ok (exact (-q))
  | decimal d => decimal <$> d.minus ctx

/-- An integer, or a numerator and a denominator in lowest terms. -/
def displayExact (q : Rat) : String :=
  if q.den = 1 then toString q.num else toString q.num ++ "/" ++ toString q.den

def display (digits : Int) : Value → Except DisplayError String
  | exact q => .ok (displayExact q)
  | decimal d => d.display digits

end Value

end Reckoner
