import Reckoner.Decimal.Arithmetic

/-! Decimals with the values that are not numbers: signed infinities, and not-a-number values
that may carry a payload and may be signaling. The evaluator's own results are always finite;
these values enter from outside and follow the rules of General Decimal Arithmetic with
invalid operations, divisions by zero and overflows refused. -/

namespace Reckoner

/-- A payload of zero counts as no payload. -/
inductive ExtDecimal where
  | finite (value : Decimal)
  | infinite (negative : Bool)
  | nan (negative signaling : Bool) (payload : Nat)
deriving DecidableEq, Repr, Inhabited

namespace ExtDecimal

def isZero : ExtDecimal → Bool
  | finite d => d.isZero
  | _ => false

def isFinite : ExtDecimal → Bool
  | finite _ => true
  | _ => false

def isNegative : ExtDecimal → Bool
  | finite d => d.negative
  | infinite negative => negative
  | nan negative _ _ => negative

/-- A quiet not-a-number result keeps the last digits of a payload too long for the context. -/
def quieted (ctx : Context) (negative : Bool) (payload : Nat) : ExtDecimal :=
  nan negative false (payload % 10 ^ ctx.precision)

/-- The result forced by not-a-number operands, if there are any: a signaling one is refused,
else the first one is the result. -/
def nanResult (ctx : Context) : ExtDecimal → ExtDecimal → Option (Except Signal ExtDecimal)
  | nan _ true _, _ => some (.error .invalidOperation)
  | _, nan _ true _ => some (.error .invalidOperation)
  | nan negative false payload, _ => some (.ok (quieted ctx negative payload))
  | _, nan negative false payload => some (.ok (quieted ctx negative payload))
  | _, _ => none

/-- A sum whose right operand counts with the sign flipped when `flip` holds. -/
def addSigned (ctx : Context) (flip : Bool) (a b : ExtDecimal) : Except Signal ExtDecimal :=
  match nanResult ctx a b with
  | some forced => forced
  | none =>
    match a, b with
    | finite x, finite y => finite <$> ctx.add x (if flip then y.negate else y)
    | infinite left, infinite right =>
      if left = (right != flip) then .ok (infinite left) else .error .invalidOperation
    | infinite left, _ => .ok (infinite left)
    | _, infinite right => .ok (infinite (right != flip))
    | _, _ => .error .invalidOperation

def add (ctx : Context) (a b : ExtDecimal) : Except Signal ExtDecimal := addSigned ctx false a b

def sub (ctx : Context) (a b : ExtDecimal) : Except Signal ExtDecimal := addSigned ctx true a b

def mul (ctx : Context) (a b : ExtDecimal) : Except Signal ExtDecimal :=
  match nanResult ctx a b with
  | some forced => forced
  | none =>
    match a, b with
    | finite x, finite y => finite <$> ctx.mul x y
    | _, _ =>
      if a.isZero || b.isZero then .error .invalidOperation
      else .ok (infinite (a.isNegative != b.isNegative))

/-- Division. A finite number over an infinity is the zero with the least exponent. -/
def div (ctx : Context) (a b : ExtDecimal) : Except Signal ExtDecimal :=
  match nanResult ctx a b with
  | some forced => forced
  | none =>
    match a, b with
    | finite x, finite y => finite <$> ctx.div x y
    | infinite _, infinite _ => .error .invalidOperation
    | infinite left, _ => .ok (infinite (left != b.isNegative))
    | _, _ => .ok (finite ⟨a.isNegative != b.isNegative, 0, ctx.etiny⟩)

def minus (ctx : Context) : ExtDecimal → Except Signal ExtDecimal
  | finite x => finite <$> ctx.minus x
  | infinite negative => .ok (infinite !negative)
  | nan negative signaling payload =>
    if signaling then .error .invalidOperation else .ok (quieted ctx negative payload)

end ExtDecimal

end Reckoner
