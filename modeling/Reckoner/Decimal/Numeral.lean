import Reckoner.Decimal.Extended

/-! Numerals: the text of decimals. Reading is exact and takes any digits, point and exponent;
`readDigits` is the common core of every reader of digits in the library. -/

namespace Reckoner

def digitValue (c : Char) : Nat := c.toNat - '0'.toNat

/-- The number that ASCII digits spell; the empty text spells zero. -/
def readDigits (cs : List Char) : Nat :=
  cs.foldl (fun n c => 10 * n + digitValue c) 0

/-- The most digits of a written integer, wherever integers are read; decimals may have any
number of them. -/
def maxIntegerDigits : Nat := 4300

/-- The decimal digits of a number, most significant first. -/
def writeDigits (n : Nat) : List Char := Nat.toDigits 10 n

/-- A split numeral: the digits before and after the point, and the exponent. -/
structure Numeral where
  whole : List Char
  fraction : List Char
  exponent : Int
deriving DecidableEq, Repr

namespace Numeral

/-- The decimal with exactly the numeral's digits. -/
def toDecimal (n : Numeral) (negative : Bool) : Decimal :=
  ⟨negative, readDigits (n.whole ++ n.fraction), n.exponent - n.fraction.length⟩

/-- Read the digits of an exponent with an optional sign. -/
def readExponent? (cs : List Char) : Option Int :=
  let (negative, digits) :=
    match cs with
    | '-' :: rest => (true, rest)
    | '+' :: rest => (false, rest)
    | _ => (false, cs)
  if digits.isEmpty || !digits.all Char.isDigit then none
  else some (if negative then -(readDigits digits : Int) else readDigits digits)

/-- Split an unsigned numeral with at least one digit, an optional point and an optional
exponent. -/
def read? (cs : List Char) : Option Numeral :=
  let whole := cs.takeWhile Char.isDigit
  let afterWhole := cs.dropWhile Char.isDigit
  let (fraction, afterFraction) :=
    match afterWhole with
    | '.' :: rest => (rest.takeWhile Char.isDigit, rest.dropWhile Char.isDigit)
    | _ => ([], afterWhole)
  if whole.isEmpty && fraction.isEmpty then none
  else
    match afterFraction with
    | [] => some ⟨whole, fraction, 0⟩
    | c :: rest =>
      if c = 'e' ∨ c = 'E' then (readExponent? rest).map (⟨whole, fraction, ·⟩) else none

end Numeral

namespace ExtDecimal

/-- The payload that follows the name of a not-a-number value. -/
def readPayload? (cs : List Char) : Option Nat :=
  if cs.all Char.isDigit then some (readDigits cs) else none

/-- Read a decimal exactly; the names of the special values go in any case. -/
def ofText? (text : String) : Option ExtDecimal :=
  let (negative, body) :=
    match text.toList with
    | '-' :: rest => (true, rest)
    | '+' :: rest => (false, rest)
    | body => (false, body)
  match Numeral.read? body with
  | some numeral => some (finite (numeral.toDecimal negative))
  | none =>
    match body.map Char.toLower with
    | ['i', 'n', 'f'] => some (infinite negative)
    | ['i', 'n', 'f', 'i', 'n', 'i', 't', 'y'] => some (infinite negative)
    | 'n' :: 'a' :: 'n' :: rest => (readPayload? rest).map (nan negative false)
    | 's' :: 'n' :: 'a' :: 'n' :: rest => (readPayload? rest).map (nan negative true)
    | _ => none

/-- The name of a value that is not a finite number. -/
def specialName (negative : Bool) (name : String) (payload : Nat) : String :=
  (if negative then "-" else "") ++ name ++ (if payload = 0 then "" else toString payload)

end ExtDecimal

end Reckoner
