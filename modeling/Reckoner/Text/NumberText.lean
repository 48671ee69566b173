import Reckoner.Decimal.Numeral
import Reckoner.Text.Blank
import Reckoner.Text.DecimalDigit

/-! Numbers as people write them in settings: digits of any script, blanks around, single low
lines between digits. -/

namespace Reckoner.Text

/-- Replace digits of all scripts by ASCII ones and, in a text that is not all ASCII, blanks by
spaces; then remove the blanks around. -/
def plainNumber (cs : List Char) : List Char :=
  let plain :=
    if cs.all (·.toNat < 128) then cs
    else
      cs.map fun c =>
        match decimalDigit? c with
        | some value => Char.ofNat ('0'.toNat + value)
        | none => if isBlank c then ' ' else c
  trimBy isAsciiBlank plain

/-- Remove low lines; each has to stand between two digits. -/
def withoutLowLines? (before : Option Char) : List Char → Option (List Char)
  | [] => some []
  | c :: rest =>
    if c = '_' then
      if before.any Char.isDigit && rest.head?.any Char.isDigit then withoutLowLines? (some c) rest
      else none
    else (withoutLowLines? (some c) rest).map (c :: ·)

/-- Read a number with a point and an exponent, an infinity or a not-a-number word. -/
def readReal? (text : String) : Option ExtDecimal := do
  let cs ← withoutLowLines? none (plainNumber text.toList)
  ExtDecimal.ofText? (String.ofList cs)

/-- Read an integer with an optional sign. -/
def readInteger? (text : String) : Option Int := do
  let cs ← withoutLowLines? none (plainNumber text.toList)
  let (negative, digits) :=
    match cs with
    | '-' :: rest => (true, rest)
    | '+' :: rest => (false, rest)
    | _ => (false, cs)
  if digits.isEmpty || !digits.all Char.isDigit || maxIntegerDigits < digits.length then none
  else some (if negative then -(readDigits digits : Int) else readDigits digits)

end Reckoner.Text
