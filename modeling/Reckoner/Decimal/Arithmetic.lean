import Reckoner.Decimal.Rounding

/-! Arithmetic on finite decimals in a context. Each operation forms its exact result as a
magnitude and rounds it once. A sum of far apart operands replaces the smaller one by one unit
in a place that no rounding reaches: every number strictly between the larger operand and that
sum rounds alike, so the replacement changes neither value nor direction. -/

namespace Reckoner.Context

/-- The sign and magnitude of a sum of two signed numbers of units `10 ^ place`. -/
def combine (left : Bool × Nat) (right : Bool × Nat) (place : Int) : Bool × Magnitude :=
  if left.1 = right.1 then (left.1, ⟨left.2 + right.2, 1, place⟩)
  else if right.2 ≤ left.2 then (left.1, ⟨left.2 - right.2, 1, place⟩)
  else (right.1, ⟨right.2 - left.2, 1, place⟩)

/-- A sum of two nonzero decimals, the first with the higher exponent. -/
def alignedSum (ctx : Context) (high low : Decimal) : Bool × Magnitude :=
  let gap := (high.exponent - low.exponent).toNat
  if gap ≤ ctx.precision + digitCount low.coefficient + 2 then
    combine (high.negative, high.coefficient * 10 ^ gap) (low.negative, low.coefficient)
      low.exponent
  else
    combine (high.negative, high.coefficient * 10 ^ (ctx.precision + 2)) (low.negative, 1)
      (high.exponent - (ctx.precision + 2))

def signedSum (ctx : Context) (a b : Decimal) : Bool × Magnitude :=
  if b.isZero then (a.negative, a.magnitude)
  else if a.isZero then (b.negative, b.magnitude)
  else if b.exponent ≤ a.exponent then ctx.alignedSum a b
  else ctx.alignedSum b a

/-- The sign of a sum that is zero: both operands' when they agree, else positive unless the
context rounds downward. -/
def zeroSign (ctx : Context) (a b : Bool) : Bool :=
  if a = b then a else ctx.rounding = .down

def add (ctx : Context) (a b : Decimal) : Except Signal Decimal :=
  let (negative, sum) := ctx.signedSum a b
  let sign := if sum.numerator = 0 then ctx.zeroSign a.negative b.negative else negative
  ctx.round sign sum (min a.exponent b.exponent)

def sub (ctx : Context) (a b : Decimal) : Except Signal Decimal :=
  ctx.add a b.negate

def mul (ctx : Context) (a b : Decimal) : Except Signal Decimal :=
  ctx.round (a.negative != b.negative)
    ⟨a.coefficient * b.coefficient, 1, a.exponent + b.exponent⟩ (a.exponent + b.exponent)

/-- Division; a zero divisor is refused, and so is zero by zero. -/
def div (ctx : Context) (a b : Decimal) : Except Signal Decimal :=
  if b.isZero then .error (if a.isZero then .invalidOperation else .divisionByZero)
  else
    ctx.round (a.negative != b.negative)
      ⟨a.coefficient, b.coefficient, a.exponent - b.exponent⟩ (a.exponent - b.exponent)

/-- Round a decimal into the context; a zero loses its sign unless the context rounds downward. -/
def plus (ctx : Context) (a : Decimal) : Except Signal Decimal :=
  if a.isZero && ctx.rounding != .down then a.abs.roundIn ctx else a.roundIn ctx

/-- Round the negated decimal; a zero is positive unless the context rounds downward. -/
def minus (ctx : Context) (a : Decimal) : Except Signal Decimal :=
  if a.isZero && ctx.rounding != .down then a.abs.roundIn ctx else a.negate.roundIn ctx

end Reckoner.Context
