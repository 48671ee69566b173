import Reckoner.Sine.Constants
import Reckoner.Sine.Reduction

/-! The sine of a decimal. The angle is reduced modulo pi, folded into the first quadrant, and
given to the sine polynomial up to an eighth of a turn and to the cosine polynomial of the
complement above it. All steps but the reduction are rounded in the caller's context. -/

namespace Reckoner.Sine

/-- The polynomial with these coefficients, lowest first, evaluated from the highest down. -/
def horner (ctx : Context) (square : Decimal) (coefficients : List Decimal) :
    Except Signal Decimal :=
  coefficients.foldr
    (fun coefficient rest => do
      let product ← ctx.mul (← rest) square
      ctx.add product coefficient)
    (.ok .zero)

/-- The sine of a reduced angle in the first quadrant. -/
def quadrant (ctx : Context) (table : Table) (angle : Decimal) : Except Signal Decimal := do
  if table.quarterPi.below angle then
    let complement ← ctx.sub table.halfPi angle
    let square ← ctx.mul complement complement
    horner ctx square table.cosineCoefficients
  else
    let square ← ctx.mul angle angle
    let series ← horner ctx square table.sineCoefficients
    ctx.mul angle series

/-- The sine with the constants of a table. -/
def withTable (ctx : Context) (table : Table) (x : Decimal) : Except Signal Decimal := do
  let (reduced, odd) := reduceModuloPi x.abs table.pi
  let folded ← if table.halfPi.below reduced then ctx.sub table.pi reduced else pure reduced
  let result ← quadrant ctx table folded
  if x.negative != odd then ctx.minus result else ctx.plus result

/-- The sine of a decimal in radians; that of zero is zero. -/
def sine (ctx : Context) (x : Decimal) : Except Signal Decimal :=
  if x.isZero then .ok .zero
  else do withTable ctx (← table) x

end Reckoner.Sine
