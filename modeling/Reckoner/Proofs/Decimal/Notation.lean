import Mathlib
import Reckoner.Proofs.Decimal.Numeral

/-! The four notations of the display. Digits whose first one stands at a given place are written
as one numeral; which one, the place and the number of digits decide, and the text alone tells it
again. Whichever it is, the numeral denotes the number that the digits and the place make up. -/

namespace Reckoner

/-- Ways to write digits: with an exponent, behind zeros, with a point among them, or as an
integer. -/
inductive Notation where
  | scientific | leadingZeros | pointed | whole
deriving DecidableEq, Repr

namespace Notation

/-- The notation of a text without its sign. -/
def of (cs : List Char) : Notation :=
  if 'e' ∈ cs then .scientific
  else if '.' ∉ cs then .whole
  else if cs.head? = some '0' then .leadingZeros
  else .pointed

/-- The notation of `count` digits whose first one stands at `10 ^ leading`. -/
def choose (count : ℕ) (leading : ℤ) : Notation :=
  if leading ≤ -4 then .scientific
  else if leading < 0 then .leadingZeros
  else if leading + 1 < count then .pointed
  else .whole

/-- The numeral of digits in a notation. -/
def numeral (ds : List Char) (leading : ℤ) : Notation → Numeral
  | .scientific => ⟨ds.take 1, ds.drop 1, leading⟩
  | .leadingZeros => ⟨['0'], List.replicate (leading.natAbs - 1) '0' ++ ds, 0⟩
  | .pointed => ⟨ds.take (leading.toNat + 1), ds.drop (leading.toNat + 1), 0⟩
  | .whole => ⟨ds ++ List.replicate (leading.toNat + 1 - ds.length) '0', [], 0⟩

section Choose

variable (count : ℕ) (leading : ℤ)

theorem choose_eq_scientific_iff : choose count leading = .scientific ↔ leading ≤ -4 := by
  unfold choose
  split_ifs <;> simp <;> omega

theorem choose_eq_leadingZeros_iff :
    choose count leading = .leadingZeros ↔ -3 ≤ leading ∧ leading ≤ -1 := by
  unfold choose
  split_ifs <;> simp <;> omega

theorem choose_eq_pointed_iff :
    choose count leading = .pointed ↔ 0 ≤ leading ∧ leading ≤ count - 2 := by
  unfold choose
  split_ifs <;> simp <;> omega

theorem choose_eq_whole_iff (some_digit : 0 < count) :
    choose count leading = .whole ↔ count - 1 ≤ leading := by
  unfold choose
  split_ifs <;> simp <;> omega

end Choose

/-- The letters of a text tell the parts of its numeral. -/
theorem of_text {n : Numeral} (written : n.Written) :
    of n.text = if n.exponent < 0 then .scientific else if n.fraction = [] then .whole
      else if n.whole.head? = some '0' then .leadingZeros else .pointed := by
  have plain : ∀ {ds : List Char}, (∀ c ∈ ds, c.isDigit) → 'e' ∉ ds ∧ '.' ∉ ds := by
    intro ds digits
    constructor <;> intro h <;> exact absurd (digits _ h) (by decide)
  obtain ⟨noLetter, noPoint⟩ := plain written.whole
  obtain ⟨noLetter', noPoint'⟩ := plain written.fraction
  have power : ('e' ∈ Numeral.powerText n.exponent ↔ n.exponent < 0) ∧
      '.' ∉ Numeral.powerText n.exponent := by
    unfold Numeral.powerText
    split
    · rename_i below
      simp [below, (plain (writeDigits_isDigit n.exponent.natAbs)).2]
    · rename_i notBelow
      simp [notBelow]
  have letter : 'e' ∈ n.text ↔ n.exponent < 0 := by
    unfold Numeral.text
    split <;> simp [noLetter, noLetter', power.1]
  have point : '.' ∉ n.text ↔ n.fraction = [] := by
    unfold Numeral.text
    split <;> simp [power.2, *]
  have first : n.text.head? = n.whole.head? := List.head?_append_of_ne_nil _ written.nonempty
  simp only [of, letter, point, first]

section Layout

variable {ds : List Char} (leading : ℤ) (nonempty : ds ≠ [])
include nonempty

theorem layout_eq_text :
    Decimal.layout ds leading = ((choose ds.length leading).numeral ds leading).text := by
  obtain ⟨d, rest, rfl⟩ := List.exists_cons_of_ne_nil nonempty
  unfold Decimal.layout choose
  by_cases small : leading ≤ -4
  · rw [if_pos small, if_pos small]
    cases rest <;> simp [numeral, Numeral.text, Numeral.powerText, show leading < 0 by omega]
  rw [if_neg small, if_neg small]
  by_cases below : leading < 0
  · rw [if_pos below, if_pos below]
    simp [numeral, Numeral.text, Numeral.powerText]
  rw [if_neg below, if_neg below]
  by_cases inside : leading + 1 < (d :: rest).length
  · have inside' : leading.toNat + 1 < (d :: rest).length := by omega
    have more : (d :: rest).drop (leading.toNat + 1) ≠ [] := by
      rw [Ne, List.drop_eq_nil_iff]
      omega
    rw [if_pos inside]
    dsimp only
    rw [if_pos inside']
    show _ = _ ++ if (d :: rest).drop (leading.toNat + 1) = [] then _ else _
    rw [if_neg more]
    simp [numeral, Numeral.powerText]
  · have inside' : ¬leading.toNat + 1 < (d :: rest).length := by omega
    rw [if_neg inside]
    dsimp only
    rw [if_neg inside']
    simp [numeral, Numeral.text, Numeral.powerText]

theorem written_numeral (digits : ∀ c ∈ ds, c.isDigit) :
    ((choose ds.length leading).numeral ds leading).Written := by
  have zeros := Decimal.replicate_isDigit
  have taken : ∀ k, ∀ c ∈ ds.take k, c.isDigit := fun k c hc => digits c (List.mem_of_mem_take hc)
  have dropped : ∀ k, ∀ c ∈ ds.drop k, c.isDigit := fun k c hc => digits c (List.mem_of_mem_drop hc)
  cases notation' : choose ds.length leading with
  | scientific =>
    have small := (choose_eq_scientific_iff _ _).mp notation'
    exact ⟨by simp [numeral, nonempty], taken 1, dropped 1, by simp only [numeral]; omega⟩
  | leadingZeros =>
    exact ⟨by simp [numeral], by simp [numeral],
      List.forall_mem_append.mpr ⟨zeros _, digits⟩, le_rfl⟩
  | pointed => exact ⟨by simp [numeral, nonempty], taken _, dropped _, le_rfl⟩
  | whole =>
    exact ⟨by simp [numeral, nonempty], List.forall_mem_append.mpr ⟨digits, zeros _⟩,
      by simp [numeral], le_rfl⟩

/-- A text tells the notation that was chosen for it. -/
theorem of_layout (digits : ∀ c ∈ ds, c.isDigit) (first : ds.head? ≠ some '0') :
    of (Decimal.layout ds leading) = choose ds.length leading := by
  rw [layout_eq_text leading nonempty, of_text (written_numeral leading nonempty digits)]
  cases notation' : choose ds.length leading with
  | scientific =>
    have small := (choose_eq_scientific_iff _ _).mp notation'
    exact if_pos (show leading < 0 by omega)
  | leadingZeros => simp [numeral, nonempty]
  | pointed =>
    have inside := (choose_eq_pointed_iff _ _).mp notation'
    have more : ds.drop (leading.toNat + 1) ≠ [] := by
      rw [Ne, List.drop_eq_nil_iff]
      omega
    have kept : (ds.take (leading.toNat + 1)).head? = ds.head? := by
      rw [List.head?_take, if_neg (Nat.succ_ne_zero _)]
    simp only [numeral, lt_self_iff_false, if_false, if_neg more, kept, if_neg first]
  | whole => simp [numeral]

/-- Whatever the notation, the numeral is the number of the digits with the first one in place. -/
theorem toRat_numeral (negative : Bool) :
    (((choose ds.length leading).numeral ds leading).toDecimal negative).toRat =
      withSign negative ((readDigits ds : ℚ) * 10 ^ (leading - ds.length + 1)) := by
  have length : 0 < ds.length := List.length_pos_of_ne_nil nonempty
  cases notation' : choose ds.length leading with
  | scientific =>
    simp only [numeral, Numeral.toDecimal, Decimal.toRat, List.take_append_drop, List.length_drop]
    congr 3
    omega
  | leadingZeros =>
    have below := (choose_eq_leadingZeros_iff _ _).mp notation'
    have same : readDigits (['0'] ++ (List.replicate (leading.natAbs - 1) '0' ++ ds)) =
        readDigits ds := by
      rw [readDigits_append, readDigits_append, readDigits_zeros, Nat.zero_mul, Nat.zero_add]
      exact (congrArg (· + readDigits ds) (Nat.zero_mul _)).trans (Nat.zero_add _)
    simp only [numeral, Numeral.toDecimal, Decimal.toRat, same, List.length_append,
      List.length_replicate]
    congr 3
    omega
  | pointed =>
    have place := (choose_eq_pointed_iff _ _).mp notation'
    simp only [numeral, Numeral.toDecimal, Decimal.toRat, List.take_append_drop, List.length_drop]
    congr 3
    omega
  | whole =>
    have place := (choose_eq_whole_iff _ _ length).mp notation'
    have split : leading - ds.length + 1 = ((leading.toNat + 1 - ds.length : ℕ) : ℤ) := by omega
    simp only [numeral, Numeral.toDecimal, Decimal.toRat, List.append_nil, readDigits_append,
      readDigits_zeros, List.length_replicate, split, zpow_natCast]
    simp

end Layout

end Notation

end Reckoner
