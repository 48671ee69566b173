import Mathlib
import Reckoner.Decimal.Display
import Reckoner.Proofs.Decimal.Fitting
import Reckoner.Proofs.Outcome
import Reckoner.Proofs.Source.Literals

/-! The digits of the display and their layout. A rounded decimal shows its digits filled up with
zeros; where that needs no exponent the text is a literal, with a minus sign before it when the
decimal is below zero. -/

namespace Reckoner

theorem readDigits_writeDigits (n : Nat) : readDigits (writeDigits n) = n :=
  Nat.ofDigitChars_ten_toDigits

theorem writeDigits_isDigit (n : Nat) : ∀ c ∈ writeDigits n, c.isDigit := fun _ =>
  Nat.isDigit_of_mem_toDigits (by decide) (by decide)

theorem writeDigits_ne_nil (n : Nat) : writeDigits n ≠ [] := Nat.toDigits_ne_nil

theorem length_writeDigits (n : ℕ) : (writeDigits n).length = digitCount n := by
  have same : ∀ {k : ℕ}, 0 < k → ((writeDigits n).length ≤ k ↔ digitCount n ≤ k) := by
    intro k hk
    rw [writeDigits, Nat.length_toDigits_le_iff (by decide) hk, digitCount_le_iff hk]
  have some_digit := List.length_pos_of_ne_nil (writeDigits_ne_nil n)
  exact le_antisymm ((same (digitCount_pos n)).mpr le_rfl) ((same some_digit).mp le_rfl)

theorem writeDigits_leading {n : Nat} (h : n ≠ 0) : (writeDigits n).head? ≠ some '0' := by
  induction n using Nat.strongRecOn with
  | _ n ih =>
    rw [writeDigits, Nat.toDigits_eq_if (by decide)]
    split
    · rename_i small
      interval_cases n <;> first | exact absurd rfl h | decide
    · rw [List.head?_append_of_ne_nil _ Nat.toDigits_ne_nil]
      exact ih (n / 10) (by omega) (by omega)

namespace Source.Literal

/-- The literal of a natural number. -/
def ofNat (n : Nat) : Literal where
  whole := writeDigits n
  fraction := none
  exponent := none
  whole_digits := writeDigits_isDigit n
  whole_leading := by
    by_cases zero : n = 0
    · exact .inl (by rw [zero]; rfl)
    · exact .inr ⟨writeDigits_ne_nil n, writeDigits_leading zero⟩
  fraction_digits := by simp
  exponent_digits := by simp

theorem text_ofNat (n : Nat) : (ofNat n).text = writeDigits n := by
  simp [text, ofNat]

theorem displayed_ofNat (n : Nat) : (ofNat n).Displayed :=
  ⟨rfl, by simp [ofNat], by simp [ofNat], by simp [ofNat]⟩

end Source.Literal

namespace Decimal

open Source

variable {ds : List Char} {leading : Int}

theorem mem_layout_of_small (small : leading ≤ -4) : 'e' ∈ layout ds leading := by
  unfold layout
  rw [if_pos small]
  simp

theorem replicate_isDigit (n : Nat) : ∀ c ∈ List.replicate n '0', c.isDigit := by
  intro c hc
  rw [List.eq_of_mem_replicate hc]
  rfl

/-- The layout of at most fifty digits without leading zeros is a literal. -/
theorem exists_literal_layout (digits : ∀ c ∈ ds, c.isDigit) (nonempty : ds ≠ [])
    (first : ds.head? ≠ some '0') (few : ds.length ≤ 50) (above : -4 < leading) :
    ∃ l : Literal, l.text = layout ds leading ∧ l.Displayed := by
  unfold layout
  rw [if_neg (not_le.mpr above)]
  split
  · rename_i below
    have all : ∀ c ∈ List.replicate (leading.natAbs - 1) '0' ++ ds, c.isDigit :=
      List.forall_mem_append.mpr ⟨replicate_isDigit _, digits⟩
    refine ⟨⟨['0'], some (List.replicate (leading.natAbs - 1) '0' ++ ds), none, by simp, .inl rfl,
      by simpa using all, by simp⟩, ?_, rfl, ?_, ?_, ?_⟩
    · simp [Literal.text]
    · simp [nonempty]
    · simp
    · simp [Literal.text]
      omega
  · dsimp only
    split
    · rename_i inside
      refine ⟨⟨ds.take (leading.toNat + 1), some (ds.drop (leading.toNat + 1)), none,
        fun c hc => digits c (List.mem_of_mem_take hc), .inr ⟨by simp [nonempty], ?_⟩, ?_, by simp⟩,
        ?_, rfl, ?_, ?_, ?_⟩
      · rwa [List.head?_take, if_neg (by omega)]
      · intro fs hfs c hc
        rw [← Option.some.inj hfs] at hc
        exact digits c (List.mem_of_mem_drop hc)
      · simp [Literal.text]
      · simpa using inside
      · simp
        omega
      · simp [Literal.text]
        omega
    · have all : ∀ c ∈ ds ++ List.replicate (leading.toNat + 1 - ds.length) '0', c.isDigit :=
        List.forall_mem_append.mpr ⟨digits, replicate_isDigit _⟩
      refine ⟨⟨_, none, none, all, .inr ⟨by simp [nonempty], ?_⟩, by simp, by simp⟩, ?_, rfl,
        by simp, by simp, by simp⟩
      · rwa [List.head?_append_of_ne_nil _ nonempty]
      · simp [Literal.text]

/-- A nonzero decimal rounded to some digits keeps its sign; it becomes a zero only far below the
places that are displayed without an exponent. -/
theorem plus_spec {d r : Decimal} {ctx : Context} (nonzero : d.isZero = false)
    (h : ctx.plus d = .ok r) :
    r.negative = d.negative ∧ r.coefficient < 10 ^ ctx.precision ∧
      (r.isZero → r.adjusted = ctx.etiny) := by
  rw [Context.plus, nonzero, Bool.false_and, if_neg Bool.false_ne_true] at h
  have numerator : d.magnitude.numerator ≠ 0 := by simpa [isZero, magnitude] using nonzero
  obtain ⟨s, delivered, -, sign, holds⟩ :=
    ctx.round_eq_deliver numerator Nat.one_ne_zero d.negative d.exponent
  obtain ⟨rfl, -⟩ := Context.deliver_eq_ok (delivered.symm.trans h)
  exact ⟨sign, holds.digits, fun zero => (adjusted_eq_exponent zero).trans (holds.zero zero)⟩

/-- The digits of a coefficient, filled up with zeros. -/
def filled (width : ℕ) (d : Decimal) : List Char :=
  writeDigits d.coefficient ++ List.replicate (width - (writeDigits d.coefficient).length) '0'

/-- The text of a decimal that is rounded to the width already. -/
def laidOut (width : ℕ) (r : Decimal) : List Char :=
  if r.negative then '-' :: layout (r.filled width) r.adjusted
  else layout (r.filled width) r.adjusted

theorem display_eq (width : ℕ) (some_digit : 0 < width) (d : Decimal) :
    d.display width some_digit =
      if d.isZero then .ok ['0']
      else laidOut width <$> Context.plus { precision := width, precision_pos := some_digit } d := by
  unfold display
  split
  · rfl
  · cases Context.plus { precision := width, precision_pos := some_digit } d <;> rfl

section Filled

variable {r : Decimal} {n : ℕ}

theorem filled_isDigit : ∀ c ∈ r.filled n, c.isDigit :=
  List.forall_mem_append.mpr ⟨writeDigits_isDigit _, replicate_isDigit _⟩

theorem filled_ne_nil : r.filled n ≠ [] :=
  List.append_ne_nil_of_left_ne_nil (writeDigits_ne_nil _) _

theorem head_filled (nonzero : r.isZero = false) : (r.filled n).head? ≠ some '0' := by
  rw [filled, List.head?_append_of_ne_nil _ (writeDigits_ne_nil _)]
  exact writeDigits_leading (by simpa [isZero] using nonzero)

theorem length_filled (some_digit : 0 < n) (few : r.coefficient < 10 ^ n) :
    (r.filled n).length = n := by
  have length := (digitCount_le_iff some_digit).mpr few
  rw [filled, List.length_append, List.length_replicate, length_writeDigits]
  omega

end Filled

/-- A decimal that is displayed without an exponent shows a literal. -/
theorem exists_literal_display {d : Decimal} {digits : Nat} {width : 0 < digits}
    (narrow : digits ≤ 50) {text : List Char} (h : d.display digits width = .ok text)
    (plain : 'e' ∉ text) : ∃ l : Literal,
      text = (if d.negative && !d.isZero then '-' :: l.text else l.text) ∧ l.Displayed := by
  rw [display_eq] at h
  cases zero : d.isZero with
  | true =>
    rw [if_pos zero] at h
    cases h
    exact ⟨.ofNat 0, by simp [Literal.text_ofNat, writeDigits], Literal.displayed_ofNat 0⟩
  | false =>
    rw [if_neg (by simp [zero])] at h
    obtain ⟨r, rounded, rfl⟩ := map_eq_ok.mp h
    obtain ⟨sign, few, underflow⟩ := plus_spec zero rounded
    have above : -4 < r.adjusted := by
      by_contra small
      have letter : 'e' ∈ layout (r.filled digits) r.adjusted :=
        mem_layout_of_small (not_lt.mp small)
      refine plain ?_
      rw [laidOut]
      split
      · exact List.mem_cons_of_mem _ letter
      · exact letter
    have nonzero : r.isZero = false := by
      by_contra none
      rw [underflow (by simpa using none)] at above
      simp [Context.etiny] at above
      omega
    obtain ⟨l, same, displayed⟩ := exists_literal_layout filled_isDigit filled_ne_nil
      (head_filled nonzero) (by rwa [length_filled width few]) above
    exact ⟨l, by simp [laidOut, same, sign], displayed⟩

end Decimal

end Reckoner
