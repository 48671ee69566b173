import Mathlib
import Reckoner.Proofs.Text.Compatibility
import Reckoner.Text.Blank

/-! Identifiers among the words: their characters are characters of words, the first one is no
digit, and none is blank. -/

namespace Reckoner.Text

theorem inRanges_iff {ranges : List (Nat × Nat)} {c : Char} :
    inRanges ranges c ↔ ∃ range ∈ ranges, range.1 ≤ c.toNat ∧ c.toNat ≤ range.2 := by
  simp [inRanges]

/-- Ranges of code points that hold no ASCII character but letters and the low line. -/
def startRange (range : Nat × Nat) : Bool :=
  128 ≤ range.1 || 65 ≤ range.1 && range.2 ≤ 90 || 95 ≤ range.1 && range.2 ≤ 95 ||
    97 ≤ range.1 && range.2 ≤ 122

theorem identifierStartRanges_ascii : identifierStartRanges.all startRange = true := by
  decide +kernel

theorem identifierExtraRanges_ascii : identifierExtraRanges.all (fun range =>
    startRange range || 48 ≤ range.1 && range.2 ≤ 57) = true := by
  decide +kernel

theorem identifierStart_cases {c : Char} (h : isIdentifierStart c) :
    128 ≤ c.toNat ∨ 65 ≤ c.toNat ∧ c.toNat ≤ 90 ∨ c.toNat = 95 ∨ 97 ≤ c.toNat ∧ c.toNat ≤ 122 := by
  obtain ⟨range, member, inside⟩ := inRanges_iff.mp h
  have checked := List.all_eq_true.mp identifierStartRanges_ascii range member
  simp only [startRange, Bool.or_eq_true, Bool.and_eq_true, decide_eq_true_eq] at checked
  omega

theorem identifierContinue_cases {c : Char} (h : isIdentifierContinue c) :
    128 ≤ c.toNat ∨ 65 ≤ c.toNat ∧ c.toNat ≤ 90 ∨ c.toNat = 95 ∨ 97 ≤ c.toNat ∧ c.toNat ≤ 122 ∨
      48 ≤ c.toNat ∧ c.toNat ≤ 57 := by
  rcases Bool.or_eq_true .. ▸ h with start | extra
  · have := identifierStart_cases start
    omega
  · obtain ⟨range, member, inside⟩ := inRanges_iff.mp extra
    have checked := List.all_eq_true.mp identifierExtraRanges_ascii range member
    simp only [startRange, Bool.or_eq_true, Bool.and_eq_true, decide_eq_true_eq] at checked
    omega

theorem continuesWord_of_identifier {c : Char} (h : isIdentifierContinue c) : continuesWord c := by
  have valid : c.toNat < 0xD800 ∨ 0xDFFF < c.toNat ∧ c.toNat < 0x110000 := c.valid
  have cases := identifierContinue_cases h
  rw [continuesWord_eq]
  simp only [wordPoint, Bool.and_eq_true, Bool.or_eq_true, decide_eq_true_eq]
  omega

theorem isIdentifier_word {word : List Char} (h : isIdentifier word) :
    ∀ c ∈ word, continuesWord c := by
  cases word with
  | nil => cases h
  | cons first rest =>
    simp only [isIdentifier, Bool.and_eq_true, List.all_eq_true] at h
    refine List.forall_mem_cons.mpr ⟨continuesWord_of_identifier ?_, fun c hc => ?_⟩
    · simp [isIdentifierContinue, h.1]
    · exact continuesWord_of_identifier (h.2 c hc)

theorem isDigit_iff {c : Char} : c.isDigit ↔ 48 ≤ c.toNat ∧ c.toNat ≤ 57 := by
  simp only [Char.isDigit, ge_iff_le, UInt32.le_iff_toNat_le, Bool.and_eq_true, decide_eq_true_eq]
  rfl

theorem beginsWord_of_identifier {c : Char} (h : isIdentifierStart c) :
    beginsWord c ∧ c.isDigit = false := by
  have cases := identifierStart_cases h
  have low : (c = '_') ↔ c.toNat = 95 := by
    rw [← Char.toNat_inj]
    rfl
  constructor
  · simp only [beginsWord, Char.isAlpha, Char.isUpper, Char.isLower, Bool.or_eq_true,
      Bool.and_eq_true, decide_eq_true_eq, low, ge_iff_le, UInt32.le_iff_toNat_le]
    change ((65 ≤ c.toNat ∧ c.toNat ≤ 90 ∨ 97 ≤ c.toNat ∧ c.toNat ≤ 122) ∨ c.toNat = 95) ∨
      128 ≤ c.toNat
    omega
  · rw [← Bool.not_eq_true, isDigit_iff]
    omega

/-- The code points of the blanks above those of the digits. -/
def highBlanks : List Nat :=
  [0x85, 0xA0, 0x1680, 0x2000, 0x2001, 0x2002, 0x2003, 0x2004, 0x2005, 0x2006, 0x2007, 0x2008,
    0x2009, 0x200A, 0x2028, 0x2029, 0x202F, 0x205F, 0x3000]

theorem isBlank_cases {c : Char} (h : isBlank c) : c.toNat < 48 ∨ c.toNat ∈ highBlanks := by
  simp only [isBlank, isWhiteSpace, Bool.or_eq_true, Bool.and_eq_true, beq_iff_eq,
    decide_eq_true_eq] at h
  simp only [highBlanks, List.mem_cons, List.not_mem_nil, or_false]
  omega

theorem highBlanks_identifier : (identifierStartRanges ++ identifierExtraRanges).all (fun range =>
    highBlanks.all fun n => !(range.1 ≤ n && n ≤ range.2)) = true := by
  decide +kernel

theorem isBlank_of_identifier {c : Char} (h : isIdentifierContinue c) : isBlank c = false := by
  rw [← Bool.not_eq_true]
  intro blank
  rcases isBlank_cases blank with low | high
  · have := identifierContinue_cases h
    omega
  · have member : ∃ range ∈ identifierStartRanges ++ identifierExtraRanges,
        range.1 ≤ c.toNat ∧ c.toNat ≤ range.2 := by
      rw [← inRanges_iff, inRanges, List.any_append]
      exact h
    obtain ⟨range, member, inside⟩ := member
    have outside := List.all_eq_true.mp
      (List.all_eq_true.mp highBlanks_identifier range member) _ high
    simp [inside] at outside

end Reckoner.Text
