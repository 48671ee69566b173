import Reckoner.Binary64
import Reckoner.Decimal.Numeral

/-! JSON documents. Whole numbers and numbers with a point or an exponent are kept apart, the
latter as exact decimals; the members of an object keep their order of first appearance. -/

namespace Reckoner

inductive Json where
  | null
  | bool (value : Bool)
  | integer (value : Int)
  | real (value : ExtDecimal)
  | string (value : String)
  | array (items : List Json)
  | object (members : List (String × Json))
deriving Repr, Inhabited

namespace Json

def member? (key : String) : Json → Option Json
  | object members => (members.find? (·.1 == key)).map (·.2)
  | _ => none

/-- Zero in floating point, which a number too small for that is too. -/
def isZeroReal : ExtDecimal → Bool
  | .finite d => (Binary64.ofDecimal? d).any (·.units == 0)
  | .infinite _ | .nan _ _ _ => false

/-- Empty, zero, false and missing documents. -/
def isFalsy : Json → Bool
  | null => true
  | bool value => !value
  | integer value => value == 0
  | real value => isZeroReal value
  | string value => value.isEmpty
  | array items => items.isEmpty
  | object members => members.isEmpty

/-- Set a member, in its old place if the key is known, else last. -/
def setMember (members : List (String × Json)) (key : String) (value : Json) :
    List (String × Json) :=
  if members.any (·.1 == key) then
    members.map fun entry => if entry.1 == key then (key, value) else entry
  else members ++ [(key, value)]

theorem keys_setMember (members : List (String × Json)) (key : String) (value : Json) :
    (setMember members key value).map (·.1) =
      if members.any (·.1 == key) then members.map (·.1) else members.map (·.1) ++ [key] := by
  unfold setMember
  split
  · rw [List.map_map]
    apply List.map_congr_left
    intro entry _
    simp only [Function.comp]
    split <;> simp_all
  · simp

end Json

end Reckoner
