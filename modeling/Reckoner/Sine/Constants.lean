import Reckoner.Decimal.Arithmetic

/-! The constants of the sine: pi from its arcsine series, and the Maclaurin coefficients of
sine and cosine. Each is computed by rounded arithmetic in a context of its own; the table that
the sine uses holds 120 digits. -/

namespace Reckoner.Sine

/-- The running state of the series for pi. The next term is `term * factor / divisor`, and the
steps added to factor and divisor grow evenly. -/
structure PiState where
  term : Decimal
  total : Decimal
  factor : Nat
  factorStep : Nat
  divisor : Nat
  divisorStep : Nat
deriving Repr

def PiState.start : PiState := ⟨.ofNat 3, .ofNat 3, 1, 0, 0, 24⟩

/-- Add the next term to the total. -/
def PiState.step (ctx : Context) (s : PiState) : Except Signal PiState := do
  let factor := s.factor + s.factorStep
  let divisor := s.divisor + s.divisorStep
  let scaled ← ctx.mul s.term (.ofNat factor)
  let term ← ctx.div scaled (.ofNat divisor)
  let total ← ctx.add s.total term
  return ⟨term, total, factor, s.factorStep + 8, divisor, s.divisorStep + 32⟩

/-- Add terms until one leaves the total as it is. -/
def piLoop (ctx : Context) : (fuel : Nat) → PiState → Except Signal Decimal
  | 0, s => .ok s.total
  | fuel + 1, s => do
    let next ← s.step ctx
    if next.total.sameNumber s.total then return next.total else piLoop ctx fuel next

/-- Pi in a context, summed with two guard digits. Each term is below a quarter of the one
before, so that twice the digits bound the number of terms. -/
def pi (ctx : Context) : Except Signal Decimal := do
  let guarded := { ctx with precision := ctx.precision + 2, precision_pos := by omega }
  let total ← piLoop guarded (2 * ctx.precision + 10) .start
  ctx.plus total

/-- The number of terms of either polynomial. -/
def termCount : Nat := 10

def factorial : Nat → Nat
  | 0 => 1
  | n + 1 => (n + 1) * factorial n

/-- The coefficient `(-1) ^ k / (2 k + offset)!`. -/
def coefficient (ctx : Context) (offset k : Nat) : Except Signal Decimal :=
  ctx.div ⟨k % 2 == 1, 1, 0⟩ (.ofNat (factorial (2 * k + offset)))

/-- The coefficients of cosine (`offset` zero) and of sine (`offset` one). -/
def coefficients (ctx : Context) (offset : Nat) : Except Signal (List Decimal) :=
  (List.range termCount).mapM (coefficient ctx offset)

structure Table where
  pi : Decimal
  halfPi : Decimal
  quarterPi : Decimal
  sineCoefficients : List Decimal
  cosineCoefficients : List Decimal
deriving Repr

def Table.build (ctx : Context) : Except Signal Table := do
  let pi ← Sine.pi ctx
  return {
    pi := pi
    halfPi := ← ctx.div pi (.ofNat 2)
    quarterPi := ← ctx.div pi (.ofNat 4)
    sineCoefficients := ← coefficients ctx 1
    cosineCoefficients := ← coefficients ctx 0 }

/-- Rounding to nearest with room for exponents of six digits. -/
def seriesContext (precision : Nat) (positive : 0 < precision) : Context :=
  { precision, emax := 999999, emin := -999999, precision_pos := positive }

def tableDigits : Nat := 120

def table : Except Signal Table :=
  Table.build (seriesContext tableDigits (by decide))

end Reckoner.Sine
