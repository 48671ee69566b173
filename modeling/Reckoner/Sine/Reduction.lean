import Reckoner.Decimal.Basic

/-! Exact reduction of an angle modulo pi. Both numbers are whole multiples of one power of ten,
so the remainder modulo twice pi is an integer remainder, whatever the exponents; it also tells
the parity of the quotient. Coefficients of any length are taken. -/

namespace Reckoner.Sine

/-- The remainder of a non-negative `x` modulo `pi`, and whether the quotient is odd. A number
below `pi` is returned as it stands. The lower of the two exponents is the result's. -/
def reduceModuloPi (x pi : Decimal) : Decimal × Bool :=
  if x.below pi then (x, false)
  else
    let scale := min x.exponent pi.exponent
    let half := pi.coefficient * 10 ^ (pi.exponent - scale).toNat
    let modulus := 2 * half
    let shift := powMod 10 (x.exponent - scale).toNat modulus
    let remainder := (x.coefficient % modulus) * shift % modulus
    if half ≤ remainder then (⟨false, remainder - half, scale⟩, true)
    else (⟨false, remainder, scale⟩, false)

end Reckoner.Sine
