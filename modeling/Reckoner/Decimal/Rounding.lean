import Reckoner.Decimal.Basic

/-! Rounding of exact magnitudes to decimals. A context fixes a number of digits, a direction
and a range of exponents; `Context.round` sends a rational to the nearest admissible decimal
in that direction, once, and is the only place where digits are lost. -/

namespace Reckoner

/-- How a number between two neighbouring decimals is rounded: to the nearer one (the even one
of two equally near), toward zero, upward, downward, or away from zero. -/
inductive Rounding where
  | nearest | zero | up | down | awayZero
deriving DecidableEq, Repr, Inhabited

/-- The part of a magnitude below a unit of the last place that is kept. -/
inductive Tail where
  | none | belowHalf | half | aboveHalf
deriving DecidableEq, Repr

/-- The tail of a division by `unit` with this remainder. -/
def Tail.ofRemainder (remainder unit : Nat) : Tail :=
  if remainder = 0 then .none
  else
    match compare (2 * remainder) unit with
    | .lt => .belowHalf
    | .eq => .half
    | .gt => .aboveHalf

/-- Whether the magnitude grows to the next unit; `odd` tells the parity of the last unit kept. -/
def Rounding.increments (mode : Rounding) (negative odd : Bool) (tail : Tail) : Bool :=
  match tail with
  | .none => false
  | .belowHalf | .half | .aboveHalf =>
    match mode with
    | .nearest => tail = .aboveHalf || (tail = .half && odd)
    | .zero => false
    | .up => !negative
    | .down => negative
    | .awayZero => true

/-- An operation that has no decimal result. -/
inductive Signal where
  | overflow | invalidOperation | divisionByZero
deriving DecidableEq, Repr

/-- Numbers have at most `precision` digits; the leading digit stands between `10 ^ emin` and
`10 ^ emax`, except that smaller numbers keep the places down to `etiny`. -/
structure Context where
  precision : Nat
  rounding : Rounding := .nearest
  emax : Int := 999999999999999999
  emin : Int := -999999999999999999
  precision_pos : 0 < precision := by decide
deriving DecidableEq, Repr

namespace Context

/-- The exponent of the last place of the smallest numbers. -/
def etiny (ctx : Context) : Int := ctx.emin - ctx.precision + 1

end Context

/-- The non-negative rational `numerator / denominator * 10 ^ exponent`. -/
structure Magnitude where
  numerator : Nat
  denominator : Nat
  exponent : Int
deriving DecidableEq, Repr

namespace Magnitude

/-- The exponent of the leading digit of a positive magnitude. -/
def leading (m : Magnitude) : Int :=
  let above := digitCount m.numerator
  let under := digitCount m.denominator
  let reached :=
    if under ≤ above then m.denominator * 10 ^ (above - under) ≤ m.numerator
    else m.denominator ≤ m.numerator * 10 ^ (under - above)
  m.exponent + above - under - (if reached then 0 else 1)

/-- The whole number of units `10 ^ place` in a positive magnitude, and the rest. A magnitude
whose leading digit stands two or more places under the unit is below half of it. -/
def quantize (m : Magnitude) (place : Int) : Nat × Tail :=
  if m.leading + 1 < place then (0, .belowHalf)
  else
    let scaled := m.numerator * 10 ^ (m.exponent - place).toNat
    let unit := m.denominator * 10 ^ (place - m.exponent).toNat
    (scaled / unit, .ofRemainder (scaled % unit) unit)

end Magnitude

namespace Context

/-- The exponent of the last place that the context keeps of a positive magnitude. -/
def quantum (ctx : Context) (m : Magnitude) : Int :=
  max (m.leading - ctx.precision + 1) ctx.etiny

/-- Refuse a number whose leading digit stands above the range. -/
def deliver (ctx : Context) (d : Decimal) : Except Signal Decimal :=
  if !d.isZero && ctx.emax < d.adjusted then .error .overflow else .ok d

/-- Round a magnitude with a sign. A magnitude that the context holds exactly takes the
exponent closest to `ideal`; a rounded one keeps every place down to the quantum. -/
def round (ctx : Context) (negative : Bool) (m : Magnitude) (ideal : Int) :
    Except Signal Decimal :=
  if m.numerator = 0 then .ok ⟨negative, 0, max ctx.etiny (min ctx.emax ideal)⟩
  else
    let place := ctx.quantum m
    match m.quantize place with
    | (units, .none) =>
      let (kept, removed) := dropZeros (ideal - place).toNat units
      ctx.deliver ⟨negative, kept, place + removed⟩
    | (units, tail) =>
      let rounded :=
        if ctx.rounding.increments negative (units % 2 == 1) tail then units + 1 else units
      if rounded = 10 ^ ctx.precision then
        ctx.deliver ⟨negative, 10 ^ (ctx.precision - 1), place + 1⟩
      else ctx.deliver ⟨negative, rounded, place⟩

end Context

namespace Decimal

def magnitude (d : Decimal) : Magnitude := ⟨d.coefficient, 1, d.exponent⟩

/-- Round a decimal into a context, keeping its sign and, where it fits, its exponent. -/
def roundIn (ctx : Context) (d : Decimal) : Except Signal Decimal :=
  ctx.round d.negative d.magnitude d.exponent

end Decimal

end Reckoner
