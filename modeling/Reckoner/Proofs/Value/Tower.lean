import Mathlib
import Reckoner.Expr.Basic
import Reckoner.Proofs.Decimal.Arithmetic
import Reckoner.Proofs.Outcome

/-! The numeric tower against exact rationals. `BinaryOp.ideal` is the arithmetic one would
write down with rationals and correct rounding only: two exact numbers stay exact, and
otherwise each exact operand is rounded once on entering and the result once on leaving. The
operations on values have the same outcomes, failures included. -/

namespace Reckoner

/-- What a value denotes: a rational, with the note whether it is exact or decimal. -/
inductive Number where
  | exact (q : ℚ)
  | decimal (q : ℚ)
  | nonFinite

namespace Number

def rat : Number → ℚ
  | exact q => q
  | decimal q => q
  | nonFinite => 0

/-- What an operand enters a decimal operation with: a decimal as it is, an exact number
rounded. -/
def promote (ctx : Context) : Number → Except Signal ℚ
  | exact q => ctx.roundRat q
  | decimal q => .ok q
  | nonFinite => .error .invalidOperation

end Number

namespace Value

def number : Value → Number
  | exact q => .exact q
  | decimal (.finite d) => .decimal d.toRat
  | decimal _ => .nonFinite

def IsFinite : Value → Prop
  | exact _ => True
  | decimal d => d.isFinite

end Value

namespace BinaryOp

def onRat : BinaryOp → ℚ → ℚ → ℚ
  | add => (· + ·)
  | sub => (· - ·)
  | mul => (· * ·)
  | div => (· / ·)

/-- A decimal operation: the rational one, rounded once. A divisor that is zero is refused with
the signal of the arithmetic. -/
def idealDecimal (ctx : Context) (op : BinaryOp) (x y : ℚ) : Except Signal ℚ :=
  if op = div ∧ y = 0 then .error (if x = 0 then .invalidOperation else .divisionByZero)
  else ctx.roundRat (op.onRat x y)

/-- An operation that is not exact: one rounding for each exact operand and one for the result. -/
def idealMixed (ctx : Context) (op : BinaryOp) (a b : Number) : Except Signal Number := do
  let x ← a.promote ctx
  let y ← b.promote ctx
  return .decimal (← op.idealDecimal ctx x y)

/-- Arithmetic by exact rationals and correct rounding. A divisor that is a zero as it stands is
refused first. -/
def ideal (ctx : Context) (op : BinaryOp) (a b : Number) : Except ArithmeticError Number :=
  if op = div ∧ b.rat = 0 then .error .zeroDivisor
  else
    match a, b with
    | .exact x, .exact y => .ok (.exact (op.onRat x y))
    | _, _ => (op.idealMixed ctx a b).mapError .signal

/-- The operation on finite decimals. -/
def onFinite : BinaryOp → Context → Decimal → Decimal → Except Signal Decimal
  | add => Context.add
  | sub => Context.sub
  | mul => Context.mul
  | div => Context.div

theorem onFinite_map_toRat (ctx : Context) (op : BinaryOp) (x y : Decimal) :
    (op.onFinite ctx x y).map Decimal.toRat = op.idealDecimal ctx x.toRat y.toRat := by
  cases op with
  | add => exact ctx.add_map_toRat x y
  | sub => exact ctx.sub_map_toRat x y
  | mul => exact ctx.mul_map_toRat x y
  | div =>
    simp only [onFinite, idealDecimal, true_and, Decimal.toRat_eq_zero_iff]
    cases zero : y.isZero with
    | true => simp [Context.div, zero, Except.map]
    | false => simpa [onRat] using ctx.div_map_toRat x y zero

/-- The operation on extended decimals. -/
def onDecimals : BinaryOp → Context → ExtDecimal → ExtDecimal → Except Signal ExtDecimal
  | add => ExtDecimal.add
  | sub => ExtDecimal.sub
  | mul => ExtDecimal.mul
  | div => ExtDecimal.div

theorem onDecimals_finite (ctx : Context) (op : BinaryOp) (x y : Decimal) :
    op.onDecimals ctx (.finite x) (.finite y) = ExtDecimal.finite <$> op.onFinite ctx x y := by
  cases op <;> rfl

theorem apply_eq_combine (ctx : Context) (op : BinaryOp) (a b : Value) :
    op.apply ctx a b =
      if op = div ∧ b.isZero then .error .zeroDivisor
      else (Value.combine ctx op.onRat op.onDecimals a b).mapError .signal := by
  cases op <;> simp [apply, Value.div, Value.add, Value.sub, Value.mul, onRat, onDecimals]

end BinaryOp

namespace Value

theorem number_ne_nonFinite {v : Value} (h : v.IsFinite) : v.number ≠ .nonFinite := by
  match v with
  | exact q => simp [number]
  | decimal (.finite d) => simp [number]

theorem number_eq_exact {v : Value} {q : ℚ} (h : v.number = .exact q) : v = exact q := by
  match v with
  | exact r => simpa [number] using h

theorem isZero_iff {v : Value} (h : v.IsFinite) : v.isZero ↔ v.number.rat = 0 := by
  match v with
  | exact q => simp [isZero, number, Number.rat]
  | decimal (.finite d) => exact (Decimal.toRat_eq_zero_iff d).symm

/-- A finite value enters a decimal operation as a finite decimal, the promoted number. -/
theorem toDecimal_finite (ctx : Context) {v : Value} (h : v.IsFinite) :
    ∃ r : Except Signal Decimal, v.toDecimal ctx = ExtDecimal.finite <$> r ∧
      r.map Decimal.toRat = v.number.promote ctx := by
  match v with
  | exact q =>
    refine ⟨_, rfl, ?_⟩
    have positive : (Decimal.ofNat q.den).isZero = false := by
      simp [Decimal.isZero, Decimal.ofNat, q.den_nz]
    rw [ctx.div_map_toRat _ _ positive, Decimal.toRat_ofInt, Decimal.toRat_ofNat, Rat.num_div_den]
    rfl
  | decimal (.finite d) => exact ⟨.ok d, rfl, rfl⟩

theorem combine_mixed (ctx : Context) (op : BinaryOp) {a b : Value}
    (mixed : ∀ x y, a = exact x → b ≠ exact y) :
    combine ctx op.onRat op.onDecimals a b = do
      let x ← a.toDecimal ctx
      let y ← b.toDecimal ctx
      return decimal (← op.onDecimals ctx x y) := by
  match a, b with
  | exact x, exact y => exact absurd rfl (mixed x y rfl)
  | exact _, decimal _ | decimal _, exact _ | decimal _, decimal _ => rfl

/-- Two operands that are not both exact. -/
theorem combine_decimal (ctx : Context) (op : BinaryOp) {a b : Value} (ha : a.IsFinite)
    (hb : b.IsFinite) (mixed : ∀ x y, a = exact x → b ≠ exact y) :
    (combine ctx op.onRat op.onDecimals a b).map number = op.idealMixed ctx a.number b.number := by
  obtain ⟨r, left, promoted⟩ := toDecimal_finite ctx ha
  obtain ⟨s, right, promoted'⟩ := toDecimal_finite ctx hb
  rw [combine_mixed ctx op mixed, BinaryOp.idealMixed, left, right, ← promoted, ← promoted']
  match r, s with
  | .error _, _ => rfl
  | .ok _, .error _ => rfl
  | .ok x, .ok y =>
    show Except.map number (op.onDecimals ctx (.finite x) (.finite y) >>= fun d => .ok (decimal d)) =
      (op.idealDecimal ctx x.toRat y.toRat >>= fun q => .ok (.decimal q))
    rw [BinaryOp.onDecimals_finite, ← BinaryOp.onFinite_map_toRat]
    cases op.onFinite ctx x y <;> rfl

end Value

namespace BinaryOp

/-- An operation on finite values has the outcome of exact arithmetic with correct rounding: the
same number, exact or decimal, or the same failure. -/
theorem apply_map_number (ctx : Context) (op : BinaryOp) (a b : Value) (ha : a.IsFinite)
    (hb : b.IsFinite) : (op.apply ctx a b).map Value.number = op.ideal ctx a.number b.number := by
  simp only [apply_eq_combine, ideal, Value.isZero_iff hb]
  by_cases zero : op = div ∧ b.number.rat = 0
  · rw [if_pos zero, if_pos zero]
    rfl
  rw [if_neg zero, if_neg zero, map_mapError]
  match a, b with
  | .exact x, .exact y => rfl
  | .exact x, .decimal (.finite d) | .decimal (.finite d), .exact x =>
    rw [Value.combine_decimal ctx op ha hb (by simp)]
    rfl
  | .decimal (.finite c), .decimal (.finite d) =>
    rw [Value.combine_decimal ctx op ha hb (by simp)]
    rfl

theorem ideal_zeroDivisor (ctx : Context) {op : BinaryOp} (a : Number) {b : Number}
    (zero : op = div ∧ b.rat = 0) : op.ideal ctx a b = .error .zeroDivisor := by
  unfold ideal
  exact if_pos zero

/-- Past the check of the divisor only the decimal operations fail. -/
theorem ideal_eq_error {ctx : Context} {op : BinaryOp} {a b : Number}
    (divisor : ¬(op = div ∧ b.rat = 0)) {e : ArithmeticError} (h : op.ideal ctx a b = .error e) :
    ∃ cause, e = .signal cause ∧ op.idealMixed ctx a b = .error cause := by
  unfold ideal at h
  rw [if_neg divisor] at h
  split at h
  · cases h
  · obtain ⟨cause, mixed, same⟩ := mapError_eq_error.mp h
    exact ⟨cause, same.symm, mixed⟩

theorem roundRat_eq_error {ctx : Context} {q : ℚ} {cause : Signal}
    (h : ctx.roundRat q = .error cause) : cause = .overflow := by
  rw [Context.roundRat] at h
  split at h
  · exact (Except.error.inj h).symm
  · cases h

/-- A promotion fails by overflow only, and gives zero only for a decimal that is zero or an
exact number that is rounded to zero. -/
theorem promote_eq_error {ctx : Context} {a : Number} (ha : a ≠ .nonFinite) {cause : Signal}
    (h : a.promote ctx = .error cause) : cause = .overflow := by
  cases a with
  | exact q => exact roundRat_eq_error h
  | decimal q => cases h
  | nonFinite => exact absurd rfl ha

theorem promote_eq_zero {ctx : Context} {b : Number} (hb : b.rat ≠ 0)
    (h : b.promote ctx = .ok 0) : ∃ q, b = .exact q ∧ q ≠ 0 ∧ ctx.correct q = 0 := by
  cases b with
  | exact q =>
    refine ⟨q, rfl, hb, ?_⟩
    rw [Number.promote, Context.roundRat] at h
    split at h
    · cases h
    · exact Except.ok.inj h
  | decimal q => exact absurd (Except.ok.inj h) hb
  | nonFinite => exact absurd rfl hb

/-- Among the signals of an operation that is not exact, all but the overflow come from an exact
divisor that is not zero but is rounded to zero. -/
theorem idealMixed_eq_error {ctx : Context} {op : BinaryOp} {a b : Number} (ha : a ≠ .nonFinite)
    (hb : b ≠ .nonFinite) (divisor : ¬(op = div ∧ b.rat = 0)) {cause : Signal}
    (h : op.idealMixed ctx a b = .error cause) :
    cause = .overflow ∨ op = div ∧ ∃ q, b = .exact q ∧ q ≠ 0 ∧ ctx.correct q = 0 := by
  unfold idealMixed at h
  rcases bind_eq_error.mp h with left | ⟨x, left, h⟩
  · exact .inl (promote_eq_error ha left)
  rcases bind_eq_error.mp h with right | ⟨y, right, h⟩
  · exact .inl (promote_eq_error hb right)
  rcases bind_eq_error.mp h with operation | ⟨q, operation, h⟩
  · by_cases zero : op = div ∧ y = 0
    · obtain ⟨rfl, rfl⟩ := zero
      exact .inr ⟨rfl, promote_eq_zero (fun h => divisor ⟨rfl, h⟩) right⟩
    · rw [idealDecimal, if_neg zero] at operation
      exact .inl (roundRat_eq_error operation)
  · cases h

/-- An operation on finite values has the outcome of exact arithmetic with correct rounding. An
exact result is a fraction in lowest terms. The operation fails only on a divisor that is zero
as it stands, on a rounding above the range, or on an exact divisor that is rounded to zero. -/
theorem apply_refines_ideal (ctx : Context) (op : BinaryOp) (a b : Value) (ha : a.IsFinite)
    (hb : b.IsFinite) :
    (op.apply ctx a b).map Value.number = op.ideal ctx a.number b.number ∧
      (∀ q, op.apply ctx a b = .ok (.exact q) → 0 < q.den ∧ q.num.natAbs.Coprime q.den) ∧
      (op.apply ctx a b = .error .zeroDivisor ↔ op = div ∧ b.isZero) ∧
      ∀ cause, op.apply ctx a b = .error (.signal cause) →
        cause = .overflow ∨ op = div ∧ ∃ q, b = .exact q ∧ q ≠ 0 ∧ ctx.correct q = 0 := by
  have outcome := apply_map_number ctx op a b ha hb
  have failure : ∀ e, op.apply ctx a b = .error e ↔ op.ideal ctx a.number b.number = .error e := by
    intro e
    rw [← outcome]
    cases op.apply ctx a b <;> simp [Except.map]
  refine ⟨outcome, fun q _ => ⟨q.den_pos, q.reduced⟩, ?_, fun cause h => ?_⟩
  · rw [failure, Value.isZero_iff hb]
    refine ⟨fun h => ?_, ideal_zeroDivisor ctx a.number⟩
    by_contra divisor
    obtain ⟨cause, different, -⟩ := ideal_eq_error divisor h
    cases different
  · rw [failure] at h
    have divisor : ¬(op = div ∧ b.number.rat = 0) := by
      intro zero
      rw [ideal_zeroDivisor ctx a.number zero] at h
      cases h
    obtain ⟨_, same, h⟩ := ideal_eq_error divisor h
    cases same
    refine (idealMixed_eq_error (Value.number_ne_nonFinite ha) (Value.number_ne_nonFinite hb)
      divisor h).imp_right ?_
    rintro ⟨quotient, q, exact, rest⟩
    exact ⟨quotient, q, Value.number_eq_exact exact, rest⟩

/-- Two thirds over 0.07 with three digits: 0.667 over 0.07, which is 9.53 rounded up. -/
theorem apply_refines_ideal_rounded_twice :
    let ctx : Context := { precision := 3, rounding := .up, emax := 5, emin := -5 }
    Value.IsFinite (.exact (2 / 3)) ∧ Value.IsFinite (.decimal (.finite ⟨false, 7, -2⟩)) ∧
      (div.apply ctx (.exact (2 / 3)) (.decimal (.finite ⟨false, 7, -2⟩))).map Value.number =
        div.ideal ctx (.exact (2 / 3)) (.decimal (Decimal.toRat ⟨false, 7, -2⟩)) ∧
      div.apply ctx (.exact (2 / 3)) (.decimal (.finite ⟨false, 7, -2⟩)) =
        .ok (.decimal (.finite ⟨false, 953, -2⟩)) :=
  ⟨trivial, rfl,
    (apply_refines_ideal _ div (.exact (2 / 3)) (.decimal (.finite ⟨false, 7, -2⟩)) trivial rfl).1,
    by decide +kernel⟩

end BinaryOp

end Reckoner
