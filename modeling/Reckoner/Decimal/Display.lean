import Reckoner.Decimal.Numeral

/-! The display text of decimals: a fixed number of significant digits, rounded to nearest, in
one of three layouts chosen by the place of the leading digit. Numbers below a thousandth are
written with an exponent, all others in full; zero of either sign is `0`. -/

namespace Reckoner

/-- Why a value has no display text: a width below one digit, or rounding to the width passed
the largest exponent. -/
inductive DisplayError where
  | tooFewDigits (setting : String)
  | signal (cause : Signal)
deriving DecidableEq, Repr

def DisplayError.message : DisplayError → String
  | tooFewDigits setting => setting ++ " must be at least 1"
  | signal _ => "numeric overflow"

def defaultDisplayDigits : Nat := 8

namespace Decimal

/-- Lay out `digits`, whose first stands at the place `10 ^ leading`. -/
def layout (digits : List Char) (leading : Int) : List Char :=
  if leading ≤ -4 then
    let mantissa :=
      match digits with
      | first :: second :: rest => first :: '.' :: second :: rest
      | _ => digits
    mantissa ++ 'e' :: '-' :: writeDigits leading.natAbs
  else if leading < 0 then
    '0' :: '.' :: List.replicate (leading.natAbs - 1) '0' ++ digits
  else
    let whole := leading.toNat + 1
    if whole < digits.length then digits.take whole ++ '.' :: digits.drop whole
    else digits ++ List.replicate (whole - digits.length) '0'

/-- Round to `digits` significant digits and lay the result out, filled up with zeros. -/
def display (digits : Nat) (width : 0 < digits) (d : Decimal) : Except Signal (List Char) :=
  if d.isZero then .ok ['0']
  else do
    let rounded ← Context.plus { precision := digits, precision_pos := width } d
    let shown := writeDigits rounded.coefficient
    let filled := shown ++ List.replicate (digits - shown.length) '0'
    let text := layout filled rounded.adjusted
    return if rounded.negative then '-' :: text else text

end Decimal

namespace ExtDecimal

/-- The display text; infinities and not-a-number values show their names. -/
def display (digits : Int) (d : ExtDecimal) : Except DisplayError String :=
  if width : 0 < digits.toNat then
    match d with
    | finite value =>
      match value.display digits.toNat width with
      | .ok text => .ok (String.ofList text)
      | .error cause => .error (.signal cause)
    | infinite negative => .ok (specialName negative "Infinity" 0)
    | nan negative false payload => .ok (specialName negative "NaN" payload)
    | nan negative true payload => .ok (specialName negative "sNaN" payload)
  else .error (.tooFewDigits "digits")

end ExtDecimal

end Reckoner
