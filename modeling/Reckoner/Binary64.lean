import Reckoner.Decimal.Basic

/-! Rounding of decimals to binary floating-point numbers of 53 bits, to nearest with ties to
even. Only the value is kept: a whole number of units of a power of two. -/

namespace Reckoner.Binary64

def significantBits : Nat := 53

/-- The exponent of the unit of the smallest numbers. -/
def leastExponent : Int := -1074

/-- The exponent of two above all finite numbers. -/
def overflowExponent : Int := 1024

/-- The whole number nearest to a quotient, the even one of two equally near. -/
def roundQuotient (numerator denominator : Nat) : Nat :=
  let quotient := numerator / denominator
  let twice := 2 * (numerator % denominator)
  if twice < denominator then quotient
  else if denominator < twice then quotient + 1
  else quotient + quotient % 2

/-- The exponent of the unit that a positive quotient is rounded to. -/
def unitExponent (numerator denominator : Nat) : Int :=
  let guess : Int := (numerator.log2 : Int) - denominator.log2
  let reached :=
    if 0 ≤ guess then denominator * 2 ^ guess.toNat ≤ numerator
    else denominator ≤ numerator * 2 ^ (-guess).toNat
  let leading := if reached then guess else guess - 1
  max (leading - (significantBits - 1)) leastExponent

/-- A non-negative number `units * 2 ^ exponent`. -/
structure Number where
  units : Nat
  exponent : Int
deriving DecidableEq, Repr

namespace Number

/-- The whole part. -/
def truncate (x : Number) : Nat :=
  if 0 ≤ x.exponent then x.units * 2 ^ x.exponent.toNat else x.units / 2 ^ (-x.exponent).toNat

def isWhole (x : Number) : Bool :=
  0 ≤ x.exponent || x.units % 2 ^ (-x.exponent).toNat == 0

end Number

/-- The nearest number to a quotient, unless it overflows. -/
def ofQuotient? (numerator denominator : Nat) : Option Number :=
  if numerator = 0 then some ⟨0, 0⟩
  else
    let exponent := unitExponent numerator denominator
    let units :=
      roundQuotient (numerator * 2 ^ (-exponent).toNat) (denominator * 2 ^ exponent.toNat)
    if overflowExponent ≤ exponent + units.log2 then none else some ⟨units, exponent⟩

/-- The number nearest to the absolute value of a decimal, unless it overflows. Decimals with
a leading digit far outside the range need no exact arithmetic. -/
def ofDecimal? (d : Decimal) : Option Number :=
  if d.isZero || d.adjusted < -400 then some ⟨0, 0⟩
  else if 400 < d.adjusted then none
  else ofQuotient? (d.coefficient * 10 ^ d.exponent.toNat) (10 ^ (-d.exponent).toNat)

/-- The whole part of the number nearest to a decimal, unless it overflows. -/
def truncate? (d : Decimal) : Option Int :=
  (ofDecimal? d).map fun x => if d.negative then -(x.truncate : Int) else x.truncate

end Reckoner.Binary64
