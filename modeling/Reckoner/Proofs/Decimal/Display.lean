import Mathlib
import Reckoner.Evaluator.Basic
import Reckoner.Proofs.Decimal.DirectedRounding
import Reckoner.Proofs.Decimal.Notation
import Reckoner.Proofs.Decimal.SameNumber
import Reckoner.Proofs.Expr.Rendering

/-! The display of decimals. The text is a numeral of the number rounded to nearest in the context of
the display, which keeps all the displayed digits of a number as long as its leading digit stands
in the range of exponents; the digits and the notation are then those of the rounded number. Below
the range the places of that context end before those of the numbers that are displayed. -/

namespace Reckoner

/-- A number rounded to some significant digits, of two equally near ones to the even one. -/
def significant (n : ℕ) (q : ℚ) : ℚ :=
  Rounding.nearest.toInteger (q / 10 ^ (Int.log 10 |q| - n + 1)) * 10 ^ (Int.log 10 |q| - n + 1)

/-- Within the range of exponents a context keeps as many digits as it has. -/
theorem Context.correct_eq_significant {ctx : Context} (h : ctx.rounding = .nearest) {q : ℚ}
    (normal : ctx.emin ≤ Int.log 10 |q|) : ctx.correct q = significant ctx.precision q := by
  have place : ctx.unitPlace q = Int.log 10 |q| - ctx.precision + 1 := by
    rw [unitPlace, etiny]
    omega
  rw [correct, place, h, significant]

/-- Rounding to nearest gives zero up to half of the least place. -/
theorem Context.correct_eq_zero_iff {ctx : Context} (h : ctx.rounding = .nearest) (q : ℚ) :
    ctx.correct q = 0 ↔ |q| ≤ 10 ^ ctx.etiny / 2 := by
  have unit : (0 : ℚ) < 10 ^ ctx.unitPlace q := by positivity
  have half : ctx.correct q = 0 ↔ |q| ≤ 10 ^ ctx.unitPlace q / 2 := by
    rw [correct, mul_eq_zero, or_iff_left unit.ne', h, Int.cast_eq_zero, Rounding.nearest_eq_iff,
      Int.cast_zero, sub_zero, abs_div, abs_of_pos unit, and_iff_left Even.zero, ← le_iff_lt_or_eq,
      div_le_iff₀ unit, one_div_mul_eq_div]
  have least : ctx.etiny ≤ ctx.unitPlace q := le_max_right _ _
  rw [half]
  rcases least.eq_or_lt with same | above
  · rw [same]
  by_cases zero : q = 0
  · rw [zero, abs_zero]
    exact iff_of_true (by positivity) (by positivity)
  -- Above the least place a number reaches its own unit.
  have digits := ctx.precision_pos
  have place : ctx.unitPlace q ≤ Int.log 10 |q| := by
    rw [unitPlace] at above ⊢
    omega
  have reaches : 10 ^ ctx.unitPlace q ≤ |q| :=
    (zpow_le_zpow_right₀ (by norm_num) place).trans (ten_zpow_log_le (abs_pos.mpr zero))
  have higher : (10 : ℚ) ^ ctx.etiny ≤ 10 ^ ctx.unitPlace q :=
    zpow_le_zpow_right₀ (by norm_num) above.le
  exact iff_of_false (by linarith) (by linarith)

namespace ExtDecimal

/-- A numeral with a minus sign or none. -/
theorem ofText?_signed (negative : Bool) {cs : List Char} {n : Numeral}
    (digit : ∀ c ∈ cs.head?, c.isDigit) (read : Numeral.read? cs = some n) :
    ofText? (String.ofList (if negative then '-' :: cs else cs)) =
      some (.finite (n.toDecimal negative)) := by
  cases negative with
  | true => simp [ofText?, read]
  | false =>
    unfold ofText?
    rw [String.toList_ofList, if_neg Bool.false_ne_true]
    cases cs with
    | nil => simp [read]
    | cons c rest =>
      have isDigit : c.isDigit := digit c rfl
      have minus : c ≠ '-' := by rintro rfl; exact absurd isDigit (by decide)
      have plus : c ≠ '+' := by rintro rfl; exact absurd isDigit (by decide)
      simp [read, minus, plus]

end ExtDecimal

namespace Decimal

section Filled

variable {r : Decimal} {n : ℕ} (some_digit : 0 < n) (few : r.coefficient < 10 ^ n)
include some_digit few

/-- The digits of the text and the place of the first one make up the number. -/
theorem abs_toRat_filled :
    |r.toRat| = (readDigits (r.filled n) : ℚ) * 10 ^ (r.adjusted - n + 1) := by
  have length := (digitCount_le_iff some_digit).mpr few
  have split : r.exponent = (n - digitCount r.coefficient : ℕ) + (r.adjusted - n + 1) := by
    rw [adjusted]
    omega
  rw [abs_toRat, ten_zpow_split split, filled, readDigits_append, readDigits_zeros,
    readDigits_writeDigits, List.length_replicate, length_writeDigits]
  push_cast
  ring

/-- The text of a rounded decimal reads as its number with its sign. -/
theorem ofText?_laidOut : ∃ shown : Decimal,
    ExtDecimal.ofText? (String.ofList (r.laidOut n)) = some (.finite shown) ∧
      shown.negative = r.negative ∧ shown.toRat = r.toRat := by
  have nonempty := filled_ne_nil (r := r) (n := n)
  have written := Notation.written_numeral r.adjusted nonempty filled_isDigit
  have value := Notation.toRat_numeral r.adjusted nonempty r.negative
  rw [length_filled some_digit few] at written value
  have digit := written.head_text
  have read := Numeral.read?_text written
  have laid := Notation.layout_eq_text r.adjusted nonempty
  rw [length_filled some_digit few] at laid
  rw [← laid] at digit read
  refine ⟨_, ExtDecimal.ofText?_signed r.negative digit read, rfl, ?_⟩
  rw [value, ← abs_toRat_filled some_digit few, abs_toRat, toRat]

end Filled

/-- A decimal whose rounding to some digits stays in the range of exponents, with its leading digit
on a place that keeps them all. -/
structure Displayable {n : ℕ} (width : 0 < n) (v : Decimal) : Prop where
  nonzero : v.isZero = false
  normal : (displayContext n width).emin ≤ v.adjusted
  range : |significant n v.toRat| < 10 ^ ((displayContext n width).emax + 1)

end Decimal

/-- The text of a number without its sign: its significant digits, in the notation that the place
of the leading one decides. -/
structure Notated (n : ℕ) (w : ℚ) (e : ℤ) (ds body : List Char) : Prop where
  leading : e = Int.log 10 |w|
  length : ds.length = n
  digits : ∀ c ∈ ds, c.isDigit
  first : ds.head? ≠ some '0'
  value : |w| = readDigits ds * 10 ^ (e - n + 1)
  spelling : body = ((Notation.of body).numeral ds e).text
  scientific : Notation.of body = .scientific ↔ e ≤ -4
  leadingZeros : Notation.of body = .leadingZeros ↔ -3 ≤ e ∧ e ≤ -1
  pointed : Notation.of body = .pointed ↔ 0 ≤ e ∧ e ≤ n - 2
  whole : Notation.of body = .whole ↔ n - 1 ≤ e

theorem Decimal.notated {r : Decimal} {n : ℕ} (nonzero : r.isZero = false) (some_digit : 0 < n)
    (few : r.coefficient < 10 ^ n) :
    Notated n r.toRat r.adjusted (r.filled n) (layout (r.filled n) r.adjusted) := by
  have nonempty := filled_ne_nil (r := r) (n := n)
  have chosen := Notation.of_layout r.adjusted nonempty filled_isDigit (head_filled nonzero)
  have spelled := Notation.layout_eq_text r.adjusted nonempty
  rw [length_filled some_digit few] at chosen spelled
  exact {
    leading := r.adjusted_eq_log nonzero
    length := length_filled some_digit few
    digits := filled_isDigit
    first := head_filled nonzero
    value := abs_toRat_filled some_digit few
    spelling := by rwa [chosen]
    scientific := chosen ▸ Notation.choose_eq_scientific_iff n r.adjusted
    leadingZeros := chosen ▸ Notation.choose_eq_leadingZeros_iff n r.adjusted
    pointed := chosen ▸ Notation.choose_eq_pointed_iff n r.adjusted
    whole := chosen ▸ Notation.choose_eq_whole_iff n r.adjusted some_digit }

section Display

variable {n : ℕ} (width : 0 < n) {v : Decimal}
include width

theorem ExtDecimal.display_eq_ok_iff {text : String} :
    (ExtDecimal.finite v).display n = .ok text ↔
      ∃ body, v.display n width = .ok body ∧ String.ofList body = text := by
  rw [display_finite width, mapError_eq_ok]
  exact map_eq_ok

/-- A nonzero decimal is rounded in the context of the display and laid out. -/
theorem ExtDecimal.display_nonzero_iff (nonzero : v.isZero = false) {text : String} :
    (ExtDecimal.finite v).display n = .ok text ↔
      ∃ r, (displayContext n width).plus v = .ok r ∧ String.ofList (r.laidOut n) = text := by
  rw [display_eq_ok_iff width, Decimal.display_eq, if_neg (by simp [nonzero])]
  constructor
  · rintro ⟨_, laid, rfl⟩
    obtain ⟨r, rounded, rfl⟩ := map_eq_ok.mp laid
    exact ⟨r, rounded, rfl⟩
  · rintro ⟨r, rounded, rfl⟩
    exact ⟨_, map_eq_ok.mpr ⟨r, rounded, rfl⟩, rfl⟩

/-- What is laid out is the number rounded in that context, under the sign of the decimal. -/
theorem Decimal.plus_displayContext (nonzero : v.isZero = false) {r : Decimal}
    (rounded : (displayContext n width).plus v = .ok r) :
    r.negative = v.negative ∧ r.coefficient < 10 ^ n ∧
      r.toRat = (displayContext n width).correct v.toRat := by
  obtain ⟨sign, digits, -⟩ := plus_spec nonzero rounded
  have value := (displayContext n width).plus_map_toRat v
  rw [rounded] at value
  exact ⟨sign, digits, (displayContext n width).roundRat_eq_ok value.symm⟩

/-- The display of a number is a zero up to half of the least place of its context; otherwise it
has the sign of the number. -/
theorem ExtDecimal.display_zero_iff {text : String}
    (shows : (ExtDecimal.finite v).display n = .ok text) :
    ∃ shown : Decimal, ofText? text = some (.finite shown) ∧
      (shown.isZero ↔ |v.toRat| ≤ 10 ^ (displayContext n width).etiny / 2) ∧
      (v.isZero → text = "0") ∧ (v.isZero = false → shown.negative = v.negative) := by
  cases zero : v.isZero with
  | true =>
    obtain ⟨body, laid, rfl⟩ := (display_eq_ok_iff width).mp shows
    rw [Decimal.display_eq, if_pos zero] at laid
    cases laid
    have number := (v.toRat_eq_zero_iff).mpr zero
    refine ⟨⟨false, 0, 0⟩, by decide, ?_, fun _ => rfl, by simp⟩
    rw [number, abs_zero]
    exact iff_of_true rfl (by positivity)
  | false =>
    obtain ⟨r, rounded, rfl⟩ := (display_nonzero_iff width zero).mp shows
    obtain ⟨sign, few, value⟩ := Decimal.plus_displayContext width zero rounded
    obtain ⟨shown, read, sameSign, same⟩ := Decimal.ofText?_laidOut width few
    refine ⟨shown, read, ?_, by simp, fun _ => sameSign.trans sign⟩
    rw [← shown.toRat_eq_zero_iff, same, value, Context.correct_eq_zero_iff rfl]

omit width in
/-- Three tenths of the least place that eight digits reach. -/
theorem ExtDecimal.display_zero_iff_tiny :
    (ExtDecimal.finite ⟨true, 3, -1000000000000000007⟩).display (8 : ℕ) =
        .ok "-0.0000000e-1000000000000000006" ∧
      ∃ shown : Decimal, ofText? "-0.0000000e-1000000000000000006" = some (.finite shown) ∧
        (shown.isZero ↔ |Decimal.toRat ⟨true, 3, -1000000000000000007⟩| ≤
          10 ^ (displayContext 8 (by decide)).etiny / 2) ∧ shown.negative = true := by
  have shows : (ExtDecimal.finite ⟨true, 3, -1000000000000000007⟩).display (8 : ℕ) =
      .ok "-0.0000000e-1000000000000000006" := by decide +kernel
  obtain ⟨shown, read, zero, -, sign⟩ := display_zero_iff (by decide : 0 < 8) shows
  exact ⟨shows, shown, read, zero, sign rfl⟩

omit width in
/-- The least number of the evaluator is displayed as a zero. -/
theorem ExtDecimal.not_display_zero_iff_zero :
    ¬∀ (v : Decimal) (n : ℕ) (text : String), v.Fits ({} : Evaluator).context → 1 ≤ n → n ≤ 50 →
      (ExtDecimal.finite v).display n = .ok text →
        ∃ shown : Decimal, ofText? text = some (.finite shown) ∧ (shown.isZero ↔ v.isZero) := by
  intro kept
  have fits : Decimal.Fits ({} : Evaluator).context ⟨false, 1, -1000000000000000098⟩ :=
    ⟨by decide +kernel, by decide +kernel, by decide +kernel⟩
  have shows : (ExtDecimal.finite ⟨false, 1, -1000000000000000098⟩).display (8 : ℕ) =
      .ok "0.0000000e-1000000000000000006" := by decide +kernel
  have reads : ofText? "0.0000000e-1000000000000000006" =
      some (.finite ⟨false, 0, -1000000000000000013⟩) := by decide +kernel
  obtain ⟨shown, read, same⟩ := kept _ 8 _ fits (by decide) (by decide) shows
  rw [reads] at read
  cases read
  exact absurd (same.mp rfl) (by decide)

namespace Decimal

variable {width}

theorem correct_displayContext (nonzero : v.isZero = false)
    (normal : (displayContext n width).emin ≤ v.adjusted) :
    (displayContext n width).correct v.toRat = significant n v.toRat := by
  rw [v.adjusted_eq_log nonzero] at normal
  exact Context.correct_eq_significant rfl normal

/-- A decimal in the range is displayable when its leading digit stands on a normal place. -/
theorem Displayable.of_abs_le (nonzero : v.isZero = false)
    (normal : (displayContext n width).emin ≤ v.adjusted)
    (small : |v.toRat| ≤ 10 ^ (displayContext n width).emax) : v.Displayable width where
  nonzero
  normal
  range := by
    have least : (displayContext n width).etiny ≤ (displayContext n width).emax := by
      simp [displayContext, Context.etiny]
      omega
    rw [← correct_displayContext nonzero normal]
    refine ((displayContext n width).abs_correct_le small least).trans_lt ?_
    exact zpow_lt_zpow_right₀ (by norm_num) (lt_add_one _)

/-- A displayable decimal is rounded to its significant digits, which are not all zero. -/
theorem Displayable.exists_rounded (ok : v.Displayable width) : ∃ r : Decimal,
    r.isZero = false ∧ r.coefficient < 10 ^ n ∧ r.negative = v.negative ∧
      r.toRat = significant n v.toRat ∧
      (ExtDecimal.finite v).display n = .ok (String.ofList (r.laidOut n)) := by
  have normal := v.adjusted_eq_log ok.nonzero ▸ ok.normal
  have kept := correct_displayContext ok.nonzero ok.normal
  have inside : |(displayContext n width).correct v.toRat| <
      10 ^ ((displayContext n width).emax + 1) := by
    rw [kept]
    exact ok.range
  obtain ⟨r, rounded, same⟩ := (displayContext n width).delivers_inside
    ((displayContext n width).plus_map_toRat v) inside
  obtain ⟨sign, few, -⟩ := plus_displayContext width ok.nonzero rounded
  refine ⟨r, ?_, few, sign, same.trans kept,
    (ExtDecimal.display_nonzero_iff width ok.nonzero).mpr ⟨r, rounded, rfl⟩⟩
  have leading := ten_zpow_log_le (abs_toRat_pos ok.nonzero)
  have digits := (displayContext n width).precision_pos
  have reached := (displayContext n width).le_abs_correct leading (by rw [Context.etiny]; omega)
  rw [← same] at reached
  by_contra zero
  rw [Bool.not_eq_false, ← toRat_eq_zero_iff] at zero
  rw [zero, abs_zero] at reached
  exact absurd reached (not_le.mpr (by positivity))

end Decimal

/-- The text of a displayable decimal shows its significant digits in the notation of their place,
and decimals share a text as far as they share those digits. -/
theorem ExtDecimal.display_significant :
    (∀ v : Decimal, v.Displayable width → ∃ text shown e ds body,
      (ExtDecimal.finite v).display n = .ok text ∧
      ofText? text = some (.finite shown) ∧ shown.toRat = significant n v.toRat ∧
      text.toList = (if v.toRat < 0 then '-' :: body else body) ∧
      Notated n (significant n v.toRat) e ds body) ∧
    ∀ u v : Decimal, u.Displayable width → v.Displayable width →
      ((ExtDecimal.finite u).display n = (ExtDecimal.finite v).display n ↔
        significant n u.toRat = significant n v.toRat) := by
  constructor
  · intro v ok
    obtain ⟨r, nonzero, few, sign, value, shows⟩ := ok.exists_rounded
    obtain ⟨shown, read, -, same⟩ := Decimal.ofText?_laidOut width few
    refine ⟨_, shown, r.adjusted, r.filled n, Decimal.layout (r.filled n) r.adjusted, shows, read,
      same.trans value, ?_, value ▸ Decimal.notated nonzero width few⟩
    rw [String.toList_ofList, Decimal.laidOut, sign]
    simp only [Decimal.negative_iff_toRat_neg ok.nonzero]
  · intro u v oku okv
    obtain ⟨r, nonzero, fewr, -, valuer, showsu⟩ := oku.exists_rounded
    obtain ⟨s, -, fews, -, values, showsv⟩ := okv.exists_rounded
    rw [showsu, showsv, ← valuer, ← values]
    constructor
    · intro texts
      obtain ⟨d, readr, -, samer⟩ := Decimal.ofText?_laidOut width fewr
      obtain ⟨e, reads, -, sames⟩ := Decimal.ofText?_laidOut width fews
      rw [Except.ok.inj texts, reads] at readr
      cases readr
      rw [← samer, sames]
    · intro same
      rw [Decimal.laidOut_eq_of_same width nonzero same fewr fews]

omit width in
/-- A carry lets a decimal below ten share its digits with ten. -/
theorem ExtDecimal.display_significant_carry :
    Decimal.Displayable (by decide : 0 < 8) ⟨false, 9999999999, -9⟩ ∧
      Decimal.Displayable (by decide : 0 < 8) ⟨false, 1, 1⟩ ∧
      (∃ text shown e ds body,
        (ExtDecimal.finite ⟨false, 9999999999, -9⟩).display (8 : ℕ) = .ok text ∧
        ofText? text = some (.finite shown) ∧
        shown.toRat = significant 8 (Decimal.toRat ⟨false, 9999999999, -9⟩) ∧
        text.toList = (if Decimal.toRat ⟨false, 9999999999, -9⟩ < 0 then '-' :: body else body) ∧
        Notated 8 (significant 8 (Decimal.toRat ⟨false, 9999999999, -9⟩)) e ds body) ∧
      significant 8 (Decimal.toRat ⟨false, 9999999999, -9⟩) =
        significant 8 (Decimal.toRat ⟨false, 1, 1⟩) := by
  have displayable : ∀ v : Decimal, v.isZero = false →
      (displayContext 8 (by decide)).emin ≤ v.adjusted → |v.toRat| ≤ 10 ^ (1 : ℤ) →
        v.Displayable (by decide : 0 < 8) := fun v nonzero normal small =>
    .of_abs_le nonzero normal (small.trans (zpow_le_zpow_right₀ (by norm_num) (by decide)))
  have nines := displayable ⟨false, 9999999999, -9⟩ rfl (by decide +kernel) (by
    rw [Decimal.abs_toRat]
    norm_num)
  have ten := displayable ⟨false, 1, 1⟩ rfl (by decide +kernel) (by
    rw [Decimal.abs_toRat]
    norm_num)
  obtain ⟨notation', alike⟩ := display_significant (by decide : 0 < 8)
  exact ⟨nines, ten, notation' _ nines, (alike _ _ nines ten).mp (by decide +kernel)⟩

end Display

end Reckoner
