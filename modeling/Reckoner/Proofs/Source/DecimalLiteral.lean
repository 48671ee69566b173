import Mathlib
import Reckoner.Proofs.Decimal.Numeral
import Reckoner.Proofs.Decimal.RoundingError
import Reckoner.Proofs.Source.Lexemes
import Reckoner.Proofs.Source.Rescanning
import Reckoner.Proofs.Source.Transparency
import Reckoner.Proofs.Text.Trimming

/-! Decimal literals as whole texts. Of any length they are one token, with nothing hidden, since a
point or a letter stands beside each of their runs of digits; and the token is rounded once, from
the rational that its digits spell. -/

namespace Reckoner.Source

/-- A run of digits beside another letter, digit or point stays as it is. -/
theorem hideFrom_joined (fuel : Nat) {before : Option Char} (offset : Nat) {cs : List Char}
    (joins : ∀ c ∈ cs, joinsDigits c)
    (beside : before.any joinsDigits ∨ ∃ c ∈ cs, c.isDigit = false) (enough : cs.length < fuel) :
    hideFrom fuel before offset cs = (cs, []) := by
  induction cs using runInduction generalizing fuel before offset with
  | nil => cases fuel <;> rfl
  | mark c cs plain ih =>
    obtain ⟨fuel, rfl⟩ := Nat.exists_eq_succ_of_ne_zero (Nat.ne_zero_of_lt enough)
    obtain ⟨here, joins⟩ := List.forall_mem_cons.mp joins
    have beside : (some c).any joinsDigits := here
    rw [hideFrom_mark plain, ih fuel _ joins (.inl beside) (Nat.lt_of_succ_lt_succ enough)]
  | run d ds cs digits stop ih =>
    obtain ⟨fuel, rfl⟩ := Nat.exists_eq_succ_of_ne_zero (Nat.ne_zero_of_lt enough)
    replace joins := (List.forall_mem_append.mp joins).2
    have kept : before.any joinsDigits ∨ cs.head?.any joinsDigits := by
      refine beside.imp_right ?_
      rintro ⟨c, member, plain⟩
      -- A character that is no digit stands after the run, so the run has a neighbour there.
      rcases List.mem_append.mp member with inside | later
      · rw [digits c inside] at plain
        cases plain
      · obtain ⟨e, more, rfl⟩ := List.exists_cons_of_ne_nil (List.ne_nil_of_mem later)
        exact joins e List.mem_cons_self
    have shorter : cs.length < fuel := by
      simp only [List.length_append, List.length_cons] at enough
      omega
    have beside : (some d).any joinsDigits := joinsDigits_of_digit (digits d List.mem_cons_self)
    rw [hideFrom_kept digits stop (.inr kept), ih fuel _ joins (.inl beside) shorter]

namespace Literal

variable (l : Literal)

/-- The rational that the digits of a literal spell. -/
def rational : ℚ :=
  (readDigits l.whole + readDigits (l.fraction.getD []) / 10 ^ (l.fraction.getD []).length) *
    10 ^ readDigits (l.exponent.getD [])

theorem toRat_decimal : l.decimal.toRat = l.rational := by
  have shift : (10 : ℚ) ^ ((readDigits (l.exponent.getD []) : ℤ) - (l.fraction.getD []).length) =
      10 ^ readDigits (l.exponent.getD []) / 10 ^ (l.fraction.getD []).length := by
    rw [zpow_sub₀ (by norm_num), zpow_natCast, zpow_natCast]
  rw [Decimal.toRat, decimal, withSign_false, shift, readDigits_append, rational]
  push_cast
  field_simp

/-- The rounded literal passes the greatest exponent. -/
def TooLarge (ctx : Context) : Prop := 10 ^ (ctx.emax + 1) ≤ |ctx.correct l.rational|

section Rounding

variable {ctx : Context}

theorem not_tooLarge_of_zero (zero : l.rational = 0) : ¬l.TooLarge ctx := by
  rw [TooLarge, zero, Context.correct_zero, abs_zero, not_le]
  positivity

theorem exists_roundIn (fits : ¬l.TooLarge ctx) :
    ∃ d, l.decimal.roundIn ctx = .ok d ∧ d.toRat = ctx.correct l.rational := by
  have rounded := l.decimal.roundIn_map_toRat ctx
  rw [toRat_decimal] at rounded
  exact ctx.delivers_inside rounded (not_le.mp fits)

theorem roundIn_error_iff : (∃ cause, l.decimal.roundIn ctx = .error cause) ↔ l.TooLarge ctx := by
  constructor
  · rintro ⟨cause, overflow⟩
    by_contra fits
    obtain ⟨d, rounded, -⟩ := l.exists_roundIn fits
    rw [overflow] at rounded
    cases rounded
  · intro large
    have rounded := l.decimal.roundIn_map_toRat ctx
    rw [toRat_decimal] at rounded
    exact ⟨_, ctx.overflows_outside rounded large⟩

end Rounding

theorem text_joins : ∀ c ∈ l.text, joinsDigits c := by
  intro c hc
  rcases l.mem_text hc with digit | rfl | rfl
  · simp [joinsDigits, Char.isAlphanum, digit]
  · rfl
  · rfl

variable {l}

theorem hide_text (real : ¬l.IsInteger) : hideLongIntegers l.text = (l.text, []) := by
  refine hideFrom_joined _ _ l.text_joins (.inr ?_) (Nat.lt_succ_self _)
  by_contra digits
  push Not at digits
  refine real (l.isInteger_iff.mpr fun c hc => ?_)
  have digit := digits c hc
  constructor <;> rintro rfl <;> exact digit rfl

theorem fractionPart_whole (l : Literal) :
    fractionPart? l.tailText =
      some (l.fraction.elim [] ('.' :: ·), l.exponent.elim [] ('e' :: ·)) := by
  have stop : (l.exponent.elim [] ('e' :: ·)).head?.any Char.isDigit = false ∧
      ∀ c ∈ (l.exponent.elim [] ('e' :: ·)).head?, c ≠ '_' ∧ c ≠ '.' := by
    cases l.exponent <;> simp
  unfold tailText
  generalize l.exponent.elim [] ('e' :: ·) = rest at stop
  cases fraction : l.fraction with
  | none =>
    cases rest with
    | nil => rfl
    | cons c rest =>
      have other := (stop.2 c rfl).2
      simp [fractionPart?, other]
  | some ds =>
    cases ds with
    | nil => simp [fractionPart?, stop.1]
    | cons d ds =>
      have digits := l.fraction_digits _ fraction
      have first : d.isDigit := digits d List.mem_cons_self
      have groups := takeGroups_digits digits stop.1 fun c hc => (stop.2 c hc).1
      rw [List.cons_append] at groups
      simp [fractionPart?, first, groups]

theorem exponentPart_whole (l : Literal) :
    exponentPart? (l.exponent.elim [] ('e' :: ·)) = some (l.exponent.elim [] ('e' :: ·), []) := by
  cases exponent : l.exponent with
  | none => rfl
  | some ds =>
    obtain ⟨nonempty, digits⟩ := l.exponent_digits ds exponent
    cases ds with
    | nil => exact absurd rfl nonempty
    | cons d ds =>
      have first : d.isDigit := digits d List.mem_cons_self
      have unsigned : d ≠ '+' ∧ d ≠ '-' := by
        constructor <;> rintro rfl <;> cases first
      have groups : takeGroups? Char.isDigit (d :: ds ++ []) = some (d :: ds, []) :=
        takeGroups_digits digits rfl (by simp)
      rw [List.append_nil] at groups
      simp [exponentPart?, first, unsigned, groups]

theorem decimalNumber_real (real : ¬l.IsInteger) :
    decimalNumber? l.text = some (.real, l.text) := by
  have nonempty := l.whole_ne_nil
  have first : l.text.head?.any Char.isDigit = true := by
    obtain ⟨d, ds, whole⟩ := List.exists_cons_of_ne_nil nonempty
    simp [text_eq, whole, l.whole_digits d (by simp [whole])]
  have groups : takeGroups? Char.isDigit l.text = some (l.whole, l.tailText) := by
    have stop : l.tailText.head?.any Char.isDigit = false ∧ ∀ c ∈ l.tailText.head?, c ≠ '_' := by
      unfold tailText
      cases l.fraction <;> cases l.exponent <;> simp
    rw [text_eq]
    exact takeGroups_digits l.whole_digits stop.1 stop.2
  have marked : (!(l.fraction.elim [] ('.' :: ·)).isEmpty ||
      !(l.exponent.elim [] ('e' :: ·)).isEmpty) = true := by
    cases fraction : l.fraction with
    | some => rfl
    | none =>
      cases exponent : l.exponent with
      | some => rfl
      | none => exact absurd ⟨fraction, exponent⟩ real
  have ends : endsNumber [] = true := rfl
  unfold decimalNumber?
  rw [first, if_pos rfl, groups]
  simp only [Option.bind_eq_bind, Option.bind_some, fractionPart_whole, exponentPart_whole, marked,
    ends]
  rfl

theorem lexeme_real (real : ¬l.IsInteger) :
    lexeme? l.text = some (.number .real l.text, l.text.length) := by
  have radix : ∀ mark body, l.text = '0' :: mark :: body →
      mark ∉ ['x', 'X', 'o', 'O', 'b', 'B'] := by
    intro mark body same letter
    have known := l.mem_text (c := mark) (by simp [same])
    simp only [List.mem_cons, List.not_mem_nil, or_false] at letter
    rcases letter with rfl | rfl | rfl | rfl | rfl | rfl <;> revert known <;> decide
  have number := (number_eq_decimalNumber radix).trans (decimalNumber_real real)
  obtain ⟨d, ds, whole⟩ := List.exists_cons_of_ne_nil l.whole_ne_nil
  have digit : d.isDigit := l.whole_digits d (by simp [whole])
  have cons : l.text = d :: (ds ++ l.tailText) := by rw [text_eq, whole, List.cons_append]
  rw [cons] at number ⊢
  simp only [lexeme?, digit, number, Bool.true_or, if_true, Option.map_some]

theorem solid_text : ∀ c ∈ l.text, Piece.Solid c := by
  intro c hc
  rcases l.mem_text hc with digit | rfl | rfl
  · exact Piece.solid_of_digit digit
  · decide
  · decide

theorem scan_real (real : ¬l.IsInteger) :
    ∃ position, scan l.text = [⟨.number .real l.text, .start⟩, ⟨.finish, position⟩] := by
  have null := not_mem_of_solid l.solid_text (b := '\x00') (by decide)
  have carriage := not_mem_of_solid l.solid_text (b := '\r') (by decide)
  have newline := not_mem_of_solid l.solid_text (b := '\n') (by decide)
  obtain ⟨d, ds, whole⟩ := List.exists_cons_of_ne_nil l.whole_ne_nil
  have digit : d.isDigit := l.whole_digits d (by simp [whole])
  have solid := Piece.solid_of_digit digit
  have cons : l.text = d :: (ds ++ l.tailText) := by rw [text_eq, whole, List.cons_append]
  have lexeme := lexeme_real real
  rw [cons] at newline lexeme
  obtain ⟨fuel, enough⟩ : ∃ fuel, 2 * l.text.length + 2 = fuel + 3 :=
    ⟨2 * (ds ++ l.tailText).length + 1, by rw [cons, List.length_cons]; omega⟩
  refine ⟨Position.start.advance l.text, ?_⟩
  rw [scan, scanWith_eq null, unifyLineEnds_eq carriage, enough, cons,
    scanBy_begin solid.1 solid.2.1 newline, scanBy_clings (clings_of_digit digit) rfl newline,
    scanLexeme, lexeme]
  dsimp only [bracketsAfter]
  rw [List.drop_length, List.take_length, scanBy_nil rfl]
  rfl

theorem line_number (kind : NumberKind) (text : List Char) (start position : Position) :
    Grammar.line [⟨.number kind text, start⟩, ⟨.finish, position⟩] =
      .ok (.number start.byteColumn kind text) := by
  cbv

theorem readLine_real (real : ¬l.IsInteger) : readLine l.text = .ok (.number 0 .real l.text) := by
  obtain ⟨position, tokens⟩ := scan_real real
  have strings : stringsWellFormed (l.text.length + 1) (scan l.text) = true := by
    refine stringsWellFormed_of_none ?_ _
    rw [tokens]
    simp
  rw [readLine, strings, tokens, line_number]
  rfl

theorem text_ne_nil : l.text ≠ [] := by
  rw [text_eq]
  exact List.append_ne_nil_of_left_ne_nil l.whole_ne_nil _

/-- A literal that is no integer is all of its text. -/
theorem read_real (ctx : Context) (real : ¬l.IsInteger) :
    read ctx (String.ofList l.text) =
      if (convertNumber ctx 0 .real l.text).2.isEmpty then .ok (convertNumber ctx 0 .real l.text).1
      else .error (sortIssues (convertNumber ctx 0 .real l.text).2) := by
  have kept : Text.trimBy Text.isBlank (String.ofList l.text).toList = l.text := by
    rw [String.toList_ofList, trimBy_of_solid solid_text]
  have nonempty : l.text.isEmpty = false := by simpa using text_ne_nil
  rw [read, kept, nonempty, if_neg Bool.false_ne_true, hide_text real]
  dsimp only
  rw [readLine_real real]
  dsimp only
  rw [convert]

variable {ctx : Context} {column : Nat}

theorem convertNumber_of_rounded {d : Decimal} (rounded : l.decimal.roundIn ctx = .ok d) :
    convertNumber ctx column .real l.text = (.constant (.decimal (.finite d)), []) := by
  simp [convertNumber, l.isPlain_text, l.read_text, l.toDecimal_text l.read_text, rounded]

theorem convertNumber_of_overflow {cause : Signal}
    (overflow : l.decimal.roundIn ctx = .error cause) :
    convertNumber ctx column .real l.text = refuse column (.tooLarge (String.ofList l.text)) := by
  simp [convertNumber, l.isPlain_text, l.read_text, l.toDecimal_text l.read_text, overflow]

end Literal

/-- A literal with a point or an exponent is rounded once, from all of its digits, and refused
just when that passes the greatest exponent, so a zero never is. -/
theorem read_literal_rounds_once (ctx : Context) (l : Literal) (real : ¬l.IsInteger) :
    (l.TooLarge ctx →
      read ctx (String.ofList l.text) = .error [⟨0, .tooLarge (String.ofList l.text)⟩]) ∧
    (¬l.TooLarge ctx →
      ∃ d, read ctx (String.ofList l.text) = .ok (.constant (.decimal (.finite d))) ∧
        d.toRat = ctx.correct l.rational) ∧
    (l.rational = 0 → ¬l.TooLarge ctx) := by
  rw [Literal.read_real ctx real]
  refine ⟨fun large => ?_, fun fits => ?_, fun zero => l.not_tooLarge_of_zero zero⟩
  · obtain ⟨cause, overflow⟩ := l.roundIn_error_iff.mpr large
    rw [Literal.convertNumber_of_overflow overflow]
    simp [refuse, sortIssues]
  · obtain ⟨d, rounded, value⟩ := l.exists_roundIn fits
    rw [Literal.convertNumber_of_rounded rounded]
    exact ⟨d, rfl, value⟩

/-- A carry past the greatest exponent. -/
theorem read_literal_carries :
    let ctx : Context := { precision := 3, emax := 1, emin := -1 }
    let l : Literal :=
      ⟨['9', '9'], some ['9', '5'], none, by simp, .inr (by simp), by simp, by simp⟩
    ¬l.IsInteger ∧ l.TooLarge ctx ∧
      read ctx (String.ofList l.text) = .error [⟨0, .tooLarge (String.ofList l.text)⟩] := by
  intro ctx l
  have real : ¬l.IsInteger := fun integer => nomatch integer.1
  have large : l.TooLarge ctx := l.roundIn_error_iff.mp ⟨.overflow, by decide +kernel⟩
  exact ⟨real, large, (read_literal_rounds_once ctx l real).1 large⟩

end Reckoner.Source
