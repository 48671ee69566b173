import Reckoner.Decimal.Numeral

/-! Hiding of long integers. Runs of a thousand or more ASCII digits that stand alone are
replaced by low lines, so that they scan as names, and remembered under the byte offset of
their first digit in the whole text. A name is read back as the literal when its column is one
of those offsets. -/

namespace Reckoner.Source

def longIntegerDigits : Nat := 1000

/-- Long literals by the byte offset where they began. -/
abbrev LongIntegers := List (Nat × List Char)

/-- ASCII letters, digits, the low line and the point keep a run of digits from standing alone. -/
def joinsDigits (c : Char) : Bool := c.isAlphanum || c = '_' || c = '.'

/-- Hide the long integers of a text that goes on after `before` at a byte offset. -/
def hideFrom : (fuel : Nat) → (before : Option Char) → (offset : Nat) → List Char →
    List Char × LongIntegers
  | 0, _, _, cs => (cs, [])
  | _ + 1, _, _, [] => ([], [])
  | fuel + 1, before, offset, c :: rest =>
    if c.isDigit then
      let run := (c :: rest).takeWhile Char.isDigit
      let after := (c :: rest).dropWhile Char.isDigit
      let (text, found) := hideFrom fuel (some c) (offset + run.length) after
      let alone := !before.any joinsDigits && !after.head?.any joinsDigits
      if longIntegerDigits ≤ run.length && alone then
        (List.replicate run.length '_' ++ text, (offset, run) :: found)
      else (run ++ text, found)
    else
      let (text, found) := hideFrom fuel (some c) (offset + c.utf8Size) rest
      (c :: text, found)

def hideLongIntegers (cs : List Char) : List Char × LongIntegers :=
  hideFrom (cs.length + 1) none 0 cs

end Reckoner.Source
