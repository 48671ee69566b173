import Reckoner.Digits

/-! Finite decimals: a sign, a coefficient and a power of ten. Two of them may denote one
number with different exponents (`2.5` and `2.50`), and zero has two signs; both differences
are kept. Comparison looks at the denoted numbers only. -/

namespace Reckoner

/-- The number `coefficient * 10 ^ exponent`, negated when `negative` holds. -/
structure Decimal where
  negative : Bool
  coefficient : Nat
  exponent : Int
deriving DecidableEq, Repr, Inhabited

namespace Decimal

def ofNat (n : Nat) : Decimal := ⟨false, n, 0⟩

def ofInt (z : Int) : Decimal := ⟨z < 0, z.natAbs, 0⟩

def zero : Decimal := ofNat 0

def isZero (d : Decimal) : Bool := d.coefficient == 0

/-- The exponent of the leading digit. -/
def adjusted (d : Decimal) : Int := d.exponent + digitCount d.coefficient - 1

def abs (d : Decimal) : Decimal := { d with negative := false }

def negate (d : Decimal) : Decimal := { d with negative := !d.negative }

theorem negate_negate (d : Decimal) : d.negate.negate = d := by
  simp [negate]

/-- Order by absolute value. Coefficients are aligned only when the leading digits stand at the
same place, so that far apart exponents cost nothing. -/
def compareAbs (a b : Decimal) : Ordering :=
  match a.isZero, b.isZero with
  | true, true => .eq
  | true, false => .lt
  | false, true => .gt
  | false, false =>
    match compare a.adjusted b.adjusted with
    | .eq =>
      let low := min a.exponent b.exponent
      compare (a.coefficient * 10 ^ (a.exponent - low).toNat)
        (b.coefficient * 10 ^ (b.exponent - low).toNat)
    | unequal => unequal

/-- Order as numbers; the zeros of either sign are equal. -/
def order (a b : Decimal) : Ordering :=
  if a.isZero && b.isZero then .eq
  else
    match a.negative && !a.isZero, b.negative && !b.isZero with
    | false, false => compareAbs a b
    | true, true => compareAbs b a
    | true, false => .lt
    | false, true => .gt

def below (a b : Decimal) : Bool := order a b == .lt

def sameNumber (a b : Decimal) : Bool := order a b == .eq

end Decimal

end Reckoner
