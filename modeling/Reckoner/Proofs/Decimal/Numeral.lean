import Mathlib
import Reckoner.Proofs.Decimal.Layout

/-! Numerals and their texts. A numeral with no exponent, or one below zero, is written with its
digits, a point before the fraction and the exponent after a letter; read again it is the same
numeral. The layouts of the display are the texts of such numerals. -/

namespace Reckoner

theorem readDigits_append (ds es : List Char) :
    readDigits (ds ++ es) = readDigits ds * 10 ^ es.length + readDigits es := by
  induction es using List.reverseRecOn with
  | nil => simp [readDigits]
  | append_singleton es c ih =>
    have last : ∀ cs, readDigits (cs ++ [c]) = 10 * readDigits cs + digitValue c := by
      simp [readDigits]
    rw [← List.append_assoc, last, ih, last, List.length_append, List.length_singleton, pow_succ]
    ring

theorem readDigits_zeros (n : ℕ) : readDigits (List.replicate n '0') = 0 := by
  induction n with
  | zero => rfl
  | succ n ih =>
    rw [List.replicate_succ', readDigits_append, ih]
    rfl

namespace Numeral

/-- An exponent below zero, written after a letter; zero is not written. -/
def powerText (exponent : ℤ) : List Char :=
  if exponent < 0 then 'e' :: '-' :: writeDigits exponent.natAbs else []

/-- The text of a numeral whose exponent is not above zero. -/
def text (n : Numeral) : List Char :=
  n.whole ++ if n.fraction = [] then powerText n.exponent
    else '.' :: (n.fraction ++ powerText n.exponent)

/-- Numerals that have such a text. -/
structure Written (n : Numeral) : Prop where
  nonempty : n.whole ≠ []
  whole : ∀ c ∈ n.whole, c.isDigit
  fraction : ∀ c ∈ n.fraction, c.isDigit
  exponent : n.exponent ≤ 0

theorem readExponent_below {z : ℤ} (below : z < 0) :
    readExponent? ('-' :: writeDigits z.natAbs) = some z := by
  have digits : (writeDigits z.natAbs).all Char.isDigit := by
    simpa using writeDigits_isDigit z.natAbs
  have some_digit := writeDigits_ne_nil z.natAbs
  simp [readExponent?, digits, some_digit, readDigits_writeDigits, abs_of_neg below]

theorem takeWhile_powerText {ds : List Char} (digits : ∀ c ∈ ds, c.isDigit) (exponent : ℤ) :
    (ds ++ powerText exponent).takeWhile Char.isDigit = ds := by
  have stop : (powerText exponent).takeWhile Char.isDigit = [] := by
    unfold powerText
    split <;> simp
  rw [List.takeWhile_append_of_pos digits, stop, List.append_nil]

theorem dropWhile_powerText {ds : List Char} (digits : ∀ c ∈ ds, c.isDigit) (exponent : ℤ) :
    (ds ++ powerText exponent).dropWhile Char.isDigit = powerText exponent := by
  have stop : (powerText exponent).dropWhile Char.isDigit = powerText exponent := by
    unfold powerText
    split <;> simp
  rw [List.dropWhile_append_of_pos digits, stop]

theorem Written.head_text {n : Numeral} (written : n.Written) : ∀ c ∈ n.text.head?, c.isDigit := by
  intro c first
  rw [text, List.head?_append_of_ne_nil _ written.nonempty] at first
  exact written.whole c (List.mem_of_mem_head? first)

/-- A numeral is read from its text. -/
theorem read?_text {n : Numeral} (written : n.Written) : read? n.text = some n := by
  obtain ⟨whole, fraction, exponent⟩ := n
  obtain ⟨nonempty, digits, places, notAbove⟩ := written
  dsimp only at nonempty digits places notAbove
  have sign : exponent = 0 ∨ exponent < 0 := by omega
  unfold read? text
  dsimp only
  by_cases none : fraction = []
  · rw [if_pos none, takeWhile_powerText digits, dropWhile_powerText digits]
    rcases sign with rfl | below
    · simp [powerText, nonempty, none]
    · simp [powerText, nonempty, none, below, readExponent_below below]
  · have taken : (whole ++ '.' :: (fraction ++ powerText exponent)).takeWhile Char.isDigit = whole := by
      rw [List.takeWhile_append_of_pos digits]
      simp
    have dropped : (whole ++ '.' :: (fraction ++ powerText exponent)).dropWhile Char.isDigit =
        '.' :: (fraction ++ powerText exponent) := by
      rw [List.dropWhile_append_of_pos digits]
      simp
    rw [if_neg none, taken, dropped]
    simp only [takeWhile_powerText places, dropWhile_powerText places]
    rcases sign with rfl | below
    · simp [powerText, nonempty]
    · simp [powerText, nonempty, below, readExponent_below below]

end Numeral

end Reckoner
