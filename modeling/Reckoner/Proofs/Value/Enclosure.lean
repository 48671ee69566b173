import Mathlib
import Reckoner.Proofs.Decimal.DirectedRounding
import Reckoner.Proofs.Expr.Regrouping
import Reckoner.Proofs.Value.Tower

/-! Sums and products of numbers that are not negative, under two roundings at once. Where one
rounding stays under another, so does what is reckoned with it; exact arithmetic counts as the
rounding that changes nothing. Roundings that are alike give the same values, digit for digit. -/

namespace Reckoner

namespace Number

/-- A number as it is read: a decimal is rounded, an exact number is kept. -/
def read (round : ℚ → Except Signal ℚ) : Number → Except Signal Number
  | exact q => .ok (exact q)
  | decimal q => decimal <$> round q
  | nonFinite => .ok nonFinite

theorem read_ok (n : Number) : n.read .ok = .ok n := by
  cases n <;> rfl

/-- What an operand enters a decimal operation with. -/
def enter (round : ℚ → Except Signal ℚ) : Number → Except Signal ℚ
  | exact q => round q
  | decimal q => .ok q
  | nonFinite => .error .invalidOperation

/-- The same exact number, or a decimal and one that is no smaller; neither is negative. -/
inductive Under : Number → Number → Prop where
  | exact {q : ℚ} (h : 0 ≤ q) : Under (exact q) (exact q)
  | decimal {x y : ℚ} (h : 0 ≤ x) (le : x ≤ y) : Under (decimal x) (decimal y)

theorem Under.rat_le {a b : Number} (h : a.Under b) : a.rat ≤ b.rat := by
  cases h with
  | exact => exact le_rfl
  | decimal _ le => exact le

end Number

namespace BinaryOp

/-- A decimal operation, with its operands and its result rounded. -/
def reckonMixed (round : ℚ → Except Signal ℚ) (op : BinaryOp) (a b : Number) :
    Except Signal Number := do
  let x ← a.enter round
  let y ← b.enter round
  return .decimal (← round (op.onRat x y))

/-- An operation with everything rounded that is not exact. -/
def reckon (round : ℚ → Except Signal ℚ) (op : BinaryOp) (a b : Number) : Except Signal Number :=
  match a, b with
  | .exact x, .exact y => .ok (.exact (op.onRat x y))
  | _, _ => op.reckonMixed round a b

theorem ideal_eq_reckon (ctx : Context) {op : BinaryOp} (ne : op ≠ div) (a b : Number) :
    op.ideal ctx a b = (op.reckon ctx.roundRat a b).mapError .signal := by
  have enter : Number.promote ctx = Number.enter ctx.roundRat := by
    funext n
    cases n <;> rfl
  have mixed : op.idealMixed ctx a b = op.reckonMixed ctx.roundRat a b := by
    simp only [idealMixed, reckonMixed, enter, idealDecimal, ne, false_and, if_false]
  unfold ideal
  rw [if_neg fun h => ne h.1, mixed]
  cases a <;> cases b <;> rfl

/-- Addition and multiplication, the operations that rise with their operands. -/
def Rising (op : BinaryOp) : Prop := op = add ∨ op = mul

namespace Rising

variable {op : BinaryOp} (rising : op.Rising)
include rising

theorem ne_div : op ≠ div := by
  rcases rising with rfl | rfl <;> decide

theorem onRat?_eq (x y : ℚ) : op.onRat? x y = some (op.onRat x y) :=
  if_neg fun h => rising.ne_div h.1

theorem onRat_le {x y x' y' : ℚ} (hx : 0 ≤ x) (le : x ≤ y) (hx' : 0 ≤ x') (le' : x' ≤ y') :
    0 ≤ op.onRat x x' ∧ op.onRat x x' ≤ op.onRat y y' := by
  rcases rising with rfl | rfl
  · exact ⟨add_nonneg hx hx', add_le_add le le'⟩
  · exact ⟨mul_nonneg hx hx', mul_le_mul le le' hx' (hx.trans le)⟩

end Rising

end BinaryOp

section Under

variable {low high : ℚ → Except Signal ℚ} (rounds : RoundsUnder low high)
include rounds

theorem Number.read_under {a m n : Number} (h : a.Under a) (hm : a.read low = .ok m)
    (hn : a.read high = .ok n) : m.Under n := by
  cases h with
  | exact h =>
    cases hm
    cases hn
    exact .exact h
  | decimal h =>
    obtain ⟨r, lower, rfl⟩ := map_eq_ok.mp hm
    obtain ⟨s, upper, rfl⟩ := map_eq_ok.mp hn
    obtain ⟨nonneg, le⟩ := rounds _ _ r s h le_rfl lower upper
    exact .decimal nonneg le

theorem Number.enter_under {a b : Number} (h : a.Under b) {x y : ℚ} (hx : a.enter low = .ok x)
    (hy : b.enter high = .ok y) : 0 ≤ x ∧ x ≤ y := by
  cases h with
  | exact h => exact rounds _ _ x y h le_rfl hx hy
  | decimal h le =>
    cases hx
    cases hy
    exact ⟨h, le⟩

namespace BinaryOp.Rising

variable {op : BinaryOp} (rising : op.Rising) {a b a' b' m n : Number} (left : a.Under b)
  (right : a'.Under b')
include rising left right

theorem reckonMixed_under (hm : op.reckonMixed low a a' = .ok m)
    (hn : op.reckonMixed high b b' = .ok n) : m.Under n := by
  obtain ⟨x, hx, hm⟩ := bind_eq_ok.mp hm
  obtain ⟨x', hx', hm⟩ := bind_eq_ok.mp hm
  obtain ⟨r, lower, hm⟩ := bind_eq_ok.mp hm
  obtain ⟨y, hy, hn⟩ := bind_eq_ok.mp hn
  obtain ⟨y', hy', hn⟩ := bind_eq_ok.mp hn
  obtain ⟨s, upper, hn⟩ := bind_eq_ok.mp hn
  cases hm
  cases hn
  obtain ⟨nonneg, le⟩ := Number.enter_under rounds left hx hy
  obtain ⟨nonneg', le'⟩ := Number.enter_under rounds right hx' hy'
  obtain ⟨whole, rises⟩ := rising.onRat_le nonneg le nonneg' le'
  obtain ⟨rounded, under⟩ := rounds _ _ r s whole rises lower upper
  exact .decimal rounded under

/-- A sum or a product stays under the one that is reckoned with the higher rounding. -/
theorem reckon_under (hm : op.reckon low a a' = .ok m) (hn : op.reckon high b b' = .ok n) :
    m.Under n := by
  have mixed := reckonMixed_under rounds rising left right (m := m) (n := n)
  cases left with
  | decimal => exact mixed hm hn
  | exact h =>
    cases right with
    | decimal => exact mixed hm hn
    | exact h' =>
      cases hm
      cases hn
      exact .exact (rising.onRat_le h le_rfl h' le_rfl).1

end BinaryOp.Rising

end Under

/-- Without any rounding the result is the operation on rationals. -/
theorem BinaryOp.reckon_ok (op : BinaryOp) {a b : Number} (ha : a.Under a) (hb : b.Under b) :
    ∃ n, op.reckon .ok a b = .ok n ∧ n.rat = op.onRat a.rat b.rat := by
  cases ha <;> cases hb <;> exact ⟨_, rfl, rfl⟩

namespace Value

/-- A number that is not negative; a decimal has no sign, not even on a zero. -/
def Nonneg : Value → Prop
  | exact q => 0 ≤ q
  | decimal (.finite d) => d.negative = false
  | decimal _ => False

theorem Nonneg.isFinite {v : Value} (h : v.Nonneg) : v.IsFinite := by
  match v with
  | exact _ => trivial
  | decimal (.finite _) => rfl

theorem Nonneg.under_self {v : Value} (h : v.Nonneg) : v.number.Under v.number := by
  match v with
  | exact _ => exact .exact h
  | decimal (.finite d) =>
    have unsigned : d.negative = false := h
    refine .decimal ?_ le_rfl
    rw [Decimal.toRat, unsigned, withSign_false]
    positivity

/-- A number enters a decimal operation as a decimal without a sign. -/
theorem toDecimal_steady (ctx : Context) {v : Value} (h : v.Nonneg) :
    Rounding.Steady (fun d => ∃ x : Decimal, d = .finite x ∧ x.negative = false)
      fun mode => v.toDecimal (ctx.withRounding mode) := by
  match v with
  | exact q =>
    have sign : (Decimal.ofInt q.num).negative = false := by
      simpa [Decimal.ofInt] using Rat.num_nonneg.mpr h
    have divisor : (Decimal.ofNat q.den).isZero = false := by
      simp [Decimal.isZero, Decimal.ofNat, q.den_nz]
    exact (ctx.div_unsigned sign rfl divisor).steady.map fun x hx => ⟨x, rfl, hx⟩
  | decimal (.finite d) => exact .ok ⟨d, rfl, h⟩

/-- A literal that is not negative, read in a context. -/
theorem literal_reckons {ctx : Context} {d r : Decimal} (h : (decimal (.finite d)).Nonneg)
    (rounded : d.roundIn ctx = .ok r) : (decimal (.finite r)).Nonneg ∧
      (decimal (.finite d)).number.read ctx.roundRat = .ok (decimal (.finite r)).number := by
  refine ⟨(Context.round_negative ctx rounded).trans h, ?_⟩
  have value := d.roundIn_map_toRat ctx
  rw [rounded] at value
  rw [number, Number.read, ← value]
  rfl

end Value

namespace BinaryOp.Rising

variable {op : BinaryOp} (rising : op.Rising) (ctx : Context)
include rising

theorem onDecimals_steady {x y : Decimal} (hx : x.negative = false) (hy : y.negative = false) :
    Rounding.Steady (fun d => ∃ z : Decimal, d = .finite z ∧ z.negative = false)
      fun mode => op.onDecimals (ctx.withRounding mode) (.finite x) (.finite y) := by
  have unsigned : ctx.Unsigned fun ctx => op.onFinite ctx x y := by
    rcases rising with rfl | rfl
    · exact ctx.add_unsigned hx hy
    · exact ctx.mul_unsigned hx hy
  simp only [onDecimals_finite]
  exact unsigned.steady.map fun z hz => ⟨z, rfl, hz⟩

/-- Sums and products of numbers that are not negative. -/
theorem apply_steady {v w : Value} (hv : v.Nonneg) (hw : w.Nonneg) :
    Rounding.Steady Value.Nonneg fun mode => op.apply (ctx.withRounding mode) v w := by
  simp only [apply_eq_combine, rising.ne_div, false_and, if_false]
  refine Rounding.Steady.mapError ?_ _
  by_cases exact : ∃ x y, v = .exact x ∧ w = .exact y
  · obtain ⟨x, y, rfl, rfl⟩ := exact
    exact .ok (rising.onRat_le hv le_rfl hw le_rfl).1
  · have mixed : ∀ x y, v = .exact x → w ≠ .exact y := fun x y hx hy => exact ⟨x, y, hx, hy⟩
    simp only [Value.combine_mixed _ op mixed]
    refine (Value.toDecimal_steady ctx hv).bind ?_
    rintro _ ⟨x, rfl, hx⟩
    refine (Value.toDecimal_steady ctx hw).bind ?_
    rintro _ ⟨y, rfl, hy⟩
    refine (rising.onDecimals_steady ctx hx hy).map ?_
    rintro _ ⟨z, rfl, hz⟩
    exact hz

/-- Computing a sum or a product is reckoning with the rounding of the context. -/
theorem apply_reckons {ctx : Context} {v w u : Value} (hv : v.Nonneg) (hw : w.Nonneg)
    (computed : op.apply ctx v w = .ok u) :
    u.Nonneg ∧ op.reckon ctx.roundRat v.number w.number = .ok u.number := by
  refine ⟨(rising.apply_steady ctx hv hw).result ctx.rounding u computed, ?_⟩
  have outcome := apply_map_number ctx op v w hv.isFinite hw.isFinite
  rw [computed, ideal_eq_reckon ctx rising.ne_div] at outcome
  exact mapError_eq_ok.mp outcome.symm

end BinaryOp.Rising

end Reckoner
