import Reckoner.Text.IdentifierTable
import Reckoner.Text.Compatibility

/-! Identifiers: a start character followed by continuation characters, read in compatibility
form. -/

namespace Reckoner.Text

def inRanges (ranges : List (Nat × Nat)) (c : Char) : Bool :=
  ranges.any fun (first, last) => first ≤ c.toNat && c.toNat ≤ last

def isIdentifierStart (c : Char) : Bool := inRanges identifierStartRanges c

def isIdentifierContinue (c : Char) : Bool :=
  isIdentifierStart c || inRanges identifierExtraRanges c

def isIdentifier : List Char → Bool
  | [] => false
  | first :: rest => isIdentifierStart first && rest.all isIdentifierContinue

/-- A character that a word may begin with before it is known to be an identifier. -/
def beginsWord (c : Char) : Bool := c.isAlpha || c = '_' || 128 ≤ c.toNat

/-- A character that a word may go on with before it is known to be an identifier. -/
def continuesWord (c : Char) : Bool := c.isAlphanum || c = '_' || 128 ≤ c.toNat

end Reckoner.Text
