import Reckoner.Text.CompatibilityTable

/-! Compatibility composition (normalization form KC) of the characters of identifiers:
decompose fully, put combining marks in canonical order, compose. Text in ASCII is its own
normal form. -/

namespace Reckoner.Text

namespace Hangul

def firstSyllable : Nat := 0xAC00
def syllableCount : Nat := 11172
def leadBase : Nat := 0x1100
def vowelBase : Nat := 0x1161
def tailBase : Nat := 0x11A7
def leadCount : Nat := 19
def vowelCount : Nat := 21
def tailCount : Nat := 28

/-- The letters of a syllable. -/
def decompose? (n : Nat) : Option (List Nat) :=
  if firstSyllable ≤ n ∧ n < firstSyllable + syllableCount then
    let index := n - firstSyllable
    let lead := leadBase + index / (vowelCount * tailCount)
    let vowel := vowelBase + index % (vowelCount * tailCount) / tailCount
    let tail := tailBase + index % tailCount
    some (if tail = tailBase then [lead, vowel] else [lead, vowel, tail])
  else none

/-- The syllable of a lead and a vowel, or of a syllable without a tail and a tail. -/
def compose? (a b : Nat) : Option Nat :=
  if leadBase ≤ a ∧ a < leadBase + leadCount ∧ vowelBase ≤ b ∧ b < vowelBase + vowelCount then
    some (firstSyllable + ((a - leadBase) * vowelCount + (b - vowelBase)) * tailCount)
  else if firstSyllable ≤ a ∧ a < firstSyllable + syllableCount ∧
      (a - firstSyllable) % tailCount = 0 ∧ tailBase < b ∧ b < tailBase + tailCount then
    some (a + (b - tailBase))
  else none

end Hangul

/-- The full compatibility decomposition of a code point. -/
def decompose (n : Nat) : List Nat :=
  if n < 128 then [n]
  else
    match Hangul.decompose? n with
    | some letters => letters
    | none =>
      match singleDecompositions.find? fun (first, last, _) => first ≤ n && n ≤ last with
      | some (first, _, target) => [target + (n - first)]
      | none =>
        match longDecompositions.find? (·.1 == n) with
        | some (_, targets) => targets
        | none => [n]

def combiningClass (n : Nat) : Nat :=
  match combiningClasses.find? fun (first, last, _) => first ≤ n && n ≤ last with
  | some (_, _, value) => value
  | none => 0

/-- Insert a mark with its class before the marks of higher classes that end the text; the text
is in reverse. -/
def insertMark (n value : Nat) : List (Nat × Nat) → List (Nat × Nat)
  | [] => [(n, value)]
  | (last, lastValue) :: before =>
    if value < lastValue then (last, lastValue) :: insertMark n value before
    else (n, value) :: (last, lastValue) :: before

/-- Canonical order, with the classes: marks after a starter go by class, equal ones as they
stand. -/
def canonicalOrder (ns : List Nat) : List (Nat × Nat) :=
  (ns.foldl
    (fun before n =>
      let value := combiningClass n
      if value = 0 then (n, 0) :: before else insertMark n value before)
    []).reverse

def compose? (a b : Nat) : Option Nat :=
  match Hangul.compose? a b with
  | some syllable => some syllable
  | none => (compositions.find? fun (first, second, _) => first == a && second == b).map (·.2.2)

/-- Compose what follows a starter with it. `kept` holds, in reverse, the characters since the
starter that did not compose; `lastClass` is the class of the last of them. -/
def composeFrom (starter : Nat) (kept : List Nat) (lastClass : Nat) :
    List (Nat × Nat) → List Nat
  | [] => starter :: kept.reverse
  | (n, value) :: rest =>
    let blocked := !kept.isEmpty && value ≤ lastClass
    match if blocked then none else compose? starter n with
    | some composed => composeFrom composed kept lastClass rest
    | none =>
      if value = 0 then starter :: kept.reverse ++ composeFrom n [] 0 rest
      else composeFrom starter (n :: kept) value rest

def compose : List (Nat × Nat) → List Nat
  | [] => []
  | (n, value) :: rest =>
    if value = 0 then composeFrom n [] 0 rest else n :: compose rest

/-- The compatibility composition of a text of identifier characters. -/
def compatibilityForm (cs : List Char) : List Char :=
  if cs.all (·.toNat < 128) then cs
  else (compose (canonicalOrder (cs.flatMap fun c => decompose c.toNat))).map Char.ofNat

theorem compatibilityForm_ascii {cs : List Char} (h : ∀ c ∈ cs, c.toNat < 128) :
    compatibilityForm cs = cs := by
  unfold compatibilityForm
  rw [if_pos]
  simpa using h

end Reckoner.Text
